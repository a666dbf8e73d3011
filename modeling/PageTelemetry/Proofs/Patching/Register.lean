import PageTelemetry.Proofs.Patching.Chain

/-! The register of a patched page: which cell of its chain belongs to which source, and which listeners came
with it. Subscribing puts a live cell on top; restoring takes the cell away if it is on top, and leaves a dead
one in its place if it is not. -/
namespace PageTelemetry

/-- What a subscription has put on a page whose hook was `below`. -/
def Subscription.interception (x : Subscription) (below : Option Hook) : Interception :=
  ⟨.observer x.hook x.handler below,below,x.popState,x.lifecycle⟩

namespace Cell

lemma subscriptions_append (a b : List Cell) : subscriptions (a ++ b) = subscriptions b ++ subscriptions a := by
  simp [subscriptions]

lemma listeners_append (a b : List Cell) : listeners (a ++ b) = listeners b ++ listeners a := by
  simp [listeners]

lemma chain_append (base : Option Hook) (a b : List Cell) :
    chain base (a ++ b) = chain (chain base b) a := by
  induction a with
  | nil => rfl
  | cons c rest ih => cases c <;> simp only [List.cons_append,chain,ih]

lemma mem_subscriptions {x : Subscription} {cells : List Cell} :
    x ∈ subscriptions cells ↔ .live x ∈ cells := by
  simp only [subscriptions,List.mem_reverse,List.mem_filterMap]
  constructor
  · rintro ⟨c,hc,hx⟩
    cases c <;> simp only [subscription?,reduceCtorEq,Option.some.injEq] at hx
    rwa [← hx]
  · intro hx
    exact ⟨_,hx,rfl⟩

/-- What is left of a chain when a live cell is restored: on top it goes, below others it passes on. -/
def withdraw : List Cell → Subscription → List Cell → List Cell
  | [],_,post => post
  | c::pre,x,post => c::pre ++ .dead x.hook x.handler::post

lemma subscriptions_withdraw (pre post : List Cell) (x : Subscription) :
    subscriptions (withdraw pre x post) = subscriptions post ++ subscriptions pre := by
  cases pre with
  | nil => exact (List.append_nil _).symm
  | cons c pre => rw [withdraw,subscriptions_append,subscriptions_dead]

lemma subscriptions_of_live (pre post : List Cell) (x : Subscription) :
    subscriptions (pre ++ .live x::post) = subscriptions post ++ x::subscriptions pre := by
  rw [subscriptions_append,subscriptions_live,List.append_assoc,List.singleton_append]

/-- No subscription comes in when one goes. -/
lemma subscriptions_withdraw_sublist (pre post : List Cell) (x : Subscription) :
    (subscriptions (withdraw pre x post)).Sublist (subscriptions (pre ++ .live x::post)) := by
  rw [subscriptions_withdraw,subscriptions_of_live]
  exact (List.Sublist.refl _).append (List.sublist_cons_self _ _)

lemma live_mem_subscriptions (pre post : List Cell) (x : Subscription) :
    x ∈ subscriptions (pre ++ .live x::post) :=
  mem_subscriptions.mpr (List.mem_append_right _ List.mem_cons_self)

/-- A dead cell stands where the live one stood. -/
lemma sorted_withdraw {pre post : List Cell} {x : Subscription}
    (h : (pre ++ .live x::post).Pairwise fun a b => b.id < a.id) :
    (withdraw pre x post).Pairwise fun a b => b.id < a.id := by
  cases pre with
  | nil => exact (List.pairwise_cons.mp h).2
  | cons c pre =>
    have hids : (c::pre ++ .dead x.hook x.handler::post).map Cell.id =
        (c::pre ++ .live x::post).map Cell.id := by simp [Cell.id]
    have hs : ((c::pre ++ .live x::post).map Cell.id).Pairwise fun a b => b < a := List.pairwise_map.mpr h
    rw [← hids] at hs
    exact List.pairwise_map.mp hs

lemma listeners_withdraw (pre post : List Cell) (x : Subscription) :
    listeners (withdraw pre x post) = listeners (pre ++ .live x::post) := by
  cases pre with
  | nil => rfl
  | cons c pre => rw [withdraw,listeners_append,listeners_append,listeners_dead,listeners_live]

/-- A hook that is some cell's is called by its id. -/
lemma id_of_chain_cons {base : Option Hook} {c : Cell} {rest : List Cell} {k : Hook}
    (hk : chain base (c::rest) = some k) : k.id = c.id := by
  cases c <;> (obtain rfl := Option.some.inj hk; rfl)

end Cell
open Cell

namespace World
variable {w₀ w : World} {cells : List Cell}

/-- A source of a page that does not intercept it. -/
def Free (w : World) (s : SourceId) : Prop := w.sourceKind? s = some (.history none)

/-- The page of `w` is that of `w₀` with the cells above its hook and the listeners of their subscriptions
behind its own. The cells belong to sources that were free in `w₀`; the other sources are as they were. -/
structure Registers (w₀ w : World) (cells : List Cell) : Prop where
  quiet : w.Obeys Rules.quiet
  idle : w.agenda = []
  hook : w.page.hook = chain w₀.page.hook cells
  sorted : cells.Pairwise fun a b => b.id < a.id
  young : ∀ c ∈ cells, w₀.lastHook < c.id ∧ c.id ≤ w.lastHook
  older : w₀.lastHook ≤ w.lastHook ∧ w₀.page.lastListener ≤ w.page.lastListener
  sources : ∀ s, w₀.Free s → ∃ i, w.sourceKind? s = some (.history i)
  others : ∀ s, ¬w₀.Free s → w.interception? s = w₀.interception? s
  installed : ∀ pre x post, cells = pre ++ .live x::post →
    w.interception? x.source = some (x.interception (chain w₀.page.hook post))
  complete : ∀ s i, w₀.Free s → w.interception? s = some i → ∃ x ∈ subscriptions cells, x.source = s
  free : ∀ x ∈ subscriptions cells, w₀.Free x.source
  popState : w.page.popState =
    w₀.page.popState ++ (subscriptions cells).map fun x => (x.popState,.handler x.handler)
  lifecycle : w.page.lifecycle =
    w₀.page.lifecycle ++ (subscriptions cells).map fun x => (x.lifecycle,.handler x.handler)
  listeners : ∀ x ∈ subscriptions cells, w₀.page.lastListener < x.popState ∧
    w₀.page.lastListener < x.lifecycle ∧ x.popState ≤ w.page.lastListener ∧ x.lifecycle ≤ w.page.lastListener
  distinct : (subscriptions cells).Pairwise fun x y =>
    x.source ≠ y.source ∧ x.popState ≠ y.popState ∧ x.lifecycle ≠ y.lifecycle

lemma Registers.interception (h : Registers w₀ w cells) {x : Subscription} (hx : x ∈ subscriptions cells) :
    ∃ pre post, cells = pre ++ .live x::post ∧
      w.interception? x.source = some (x.interception (chain w₀.page.hook post)) := by
  obtain ⟨pre,post,he⟩ := List.append_of_mem (mem_subscriptions.mp hx)
  exact ⟨pre,post,he,h.installed pre x post he⟩

/-- The sources that intercept, with their handlers, oldest first. -/
def names (cells : List Cell) : List (SourceId × Handler) :=
  (subscriptions cells).map fun x => (x.source,x.handler)

/-- A page between dispatches, whatever stands on it: its listeners do not patch it, and its hooks and
listeners have ids that were given before. -/
structure AtRest (w : World) : Prop where
  quiet : w.Obeys Rules.quiet
  idle : w.agenda = []
  hook : ∀ k ∈ w.page.hook, k.id ≤ w.lastHook
  interceptions : ∀ s i, w.interception? s = some i → i.hook.id ≤ w.lastHook
  popState : ∀ e ∈ w.page.popState, e.1 ≤ w.page.lastListener
  lifecycle : ∀ e ∈ w.page.lifecycle, e.1 ≤ w.page.lastListener

lemma AtRest.registers (h : w.AtRest) : Registers w w [] where
  quiet := h.quiet
  idle := h.idle
  hook := rfl
  sorted := .nil
  young := by simp
  older := ⟨le_rfl,le_rfl⟩
  sources s hs := ⟨none,hs⟩
  others s hs := rfl
  installed pre x post he := by simp at he
  complete s i hs hi := by simp [interception?_of_sourceKind? hs] at hi
  free := by simp [subscriptions]
  popState := by simp [subscriptions]
  lifecycle := by simp [subscriptions]
  listeners := by simp [subscriptions]
  distinct := by simp [subscriptions]

/-- Live cells are those whose hooks are active. -/
theorem Registers.agrees (h₀ : w₀.AtRest) (h : Registers w₀ w cells) {c : Cell} (hc : c ∈ cells) : w.Agrees c := by
  cases c with
  | live x =>
    obtain ⟨pre,post,-,hi⟩ := h.interception (mem_subscriptions.mpr hc)
    exact (w.hookActive_iff x.hook).mpr ⟨_,_,hi,rfl⟩
  | dead id hd =>
    refine Bool.eq_false_iff.mpr fun hactive => ?_
    obtain ⟨s,i,hi,hid⟩ := (w.hookActive_iff id).mp hactive
    by_cases hs : w₀.Free s
    swap
    · rw [h.others s hs] at hi
      exact absurd (h.young _ hc).1 (Nat.not_lt.mpr (hid ▸ h₀.interceptions s i hi))
    obtain ⟨x,hx,rfl⟩ := h.complete s i hs hi
    obtain ⟨pre,post,-,hi'⟩ := h.interception hx
    rw [hi] at hi'
    obtain rfl := Option.some.inj hi'
    have hnodup : (cells.map Cell.id).Nodup := (List.pairwise_map.mpr h.sorted).imp fun h => ne_of_gt h
    have := List.inj_on_of_nodup_map hnodup (mem_subscriptions.mp hx) hc hid
    cases this
  | wrapper id l last => trivial

/-- A cell whose hook has the next id may go on top. -/
lemma Registers.sorted_cons (h : Registers w₀ w cells) {c : Cell} (hc : c.id = w.lastHook+1) :
    (c::cells).Pairwise fun a b => b.id < a.id := by
  refine List.pairwise_cons.mpr ⟨fun d hd => ?_,h.sorted⟩
  rw [hc]
  exact Nat.lt_succ_of_le (h.young d hd).2

lemma Registers.young_cons (h : Registers w₀ w cells) {c : Cell} (hc : c.id = w.lastHook+1) :
    ∀ d ∈ c::cells, w₀.lastHook < d.id ∧ d.id ≤ w.lastHook+1 := by
  intro d hd
  rcases List.mem_cons.mp hd with rfl | hd
  · rw [hc]
    exact ⟨Nat.lt_succ_of_le h.older.1,le_rfl⟩
  · exact ⟨(h.young d hd).1,(h.young d hd).2.trans (Nat.le_succ _)⟩

/-- Someone takes the hook that is installed and installs one that calls it. -/
lemma Registers.wrap (h : Registers w₀ w cells) {l : Listener} (hl : Rules.quiet.AllowsListener l) (last : Bool) :
    Registers w₀ (w.wrapHook l true last).2 (.wrapper (w.lastHook+1) l last::cells) where
  quiet := by
    refine ⟨?_,h.quiet.popState,h.quiet.lifecycle,h.quiet.onLoad,h.quiet.agenda,h.quiet.previous⟩
    rintro _ ⟨⟩
    exact .custom hl h.quiet.hook
  idle := h.idle
  hook := by
    change some (Hook.custom _ _ w.page.hook _) = _
    rw [h.hook]
    rfl
  sorted := h.sorted_cons rfl
  young := h.young_cons rfl
  older := ⟨h.older.1.trans (Nat.le_succ _),h.older.2⟩
  sources := h.sources
  others := h.others
  installed pre x post he := by
    cases pre with
    | nil => cases he
    | cons c pre =>
      obtain ⟨-,he⟩ := List.cons.inj he
      exact h.installed pre x post he
  complete := h.complete
  free := h.free
  popState := h.popState
  lifecycle := h.lifecycle
  listeners := h.listeners
  distinct := h.distinct

/-- No subscription belongs to a source that does not intercept. -/
lemma Registers.source_ne (h : Registers w₀ w cells) {s : SourceId} (hs : w.Free s) {x : Subscription}
    (hx : x ∈ subscriptions cells) : x.source ≠ s := by
  rintro rfl
  obtain ⟨_,_,-,hi⟩ := h.interception hx
  rw [interception?_of_sourceKind? hs] at hi
  cases hi

/-- What a source intercepts with when it begins to: a hook and two listeners with the next ids. -/
def upcoming (w : World) (s : SourceId) (hd : Handler) : Subscription :=
  ⟨s,hd,w.lastHook+1,w.page.lastListener+1,w.page.lastListener+2⟩

/-- The new cell and the old ones are installed by their sources. -/
lemma Registers.installed_intercepted (h : Registers w₀ w cells) {s : SourceId} (hs : w.Free s) (hd : Handler)
    {pre post : List Cell} {x : Subscription} (he : .live (w.upcoming s hd)::cells = pre ++ .live x::post) :
    (w.intercepted s hd).interception? x.source = some (x.interception (chain w₀.page.hook post)) := by
  rw [interception?_intercepted hs]
  cases pre with
  | nil =>
    cases he
    refine (if_pos rfl).trans ?_
    rw [← h.hook]
    rfl
  | cons c pre =>
    obtain ⟨-,rfl⟩ := List.cons.inj he
    rw [if_neg (h.source_ne hs (live_mem_subscriptions pre post x)),h.installed pre x post rfl]

/-- Each source that intercepts has a subscription, the new one on top. -/
lemma Registers.complete_intercepted (h : Registers w₀ w cells) {s t : SourceId} (hs : w.Free s) {hd : Handler}
    {i : Interception} (ht : w₀.Free t) (hi : (w.intercepted s hd).interception? t = some i) :
    ∃ x ∈ subscriptions (.live (w.upcoming s hd)::cells), x.source = t := by
  rw [subscriptions_live]
  rw [interception?_intercepted hs] at hi
  split_ifs at hi with hts
  · exact ⟨_,List.mem_append_right _ List.mem_cons_self,hts.symm⟩
  · obtain ⟨x,hx,rfl⟩ := h.complete t i ht hi
    exact ⟨x,List.mem_append_left _ hx,rfl⟩

/-- The ids of the new listeners were not given before. -/
lemma Registers.listeners_intercepted (h : Registers w₀ w cells) (s : SourceId) (hd : Handler) :
    ∀ x ∈ subscriptions (.live (w.upcoming s hd)::cells), w₀.page.lastListener < x.popState ∧
      w₀.page.lastListener < x.lifecycle ∧ x.popState ≤ w.page.lastListener+2 ∧
      x.lifecycle ≤ w.page.lastListener+2 := by
  rw [subscriptions_live]
  intro x hx
  rcases List.mem_append.mp hx with hold | hnew
  · obtain ⟨hp,hl,hp',hl'⟩ := h.listeners x hold
    exact ⟨hp,hl,hp'.trans (Nat.le_add_right _ 2),hl'.trans (Nat.le_add_right _ 2)⟩
  · obtain rfl := List.mem_singleton.mp hnew
    exact ⟨Nat.lt_succ_of_le h.older.2,Nat.lt_succ_of_le (Nat.le_succ_of_le h.older.2),Nat.le_succ _,le_rfl⟩

lemma Registers.distinct_intercepted (h : Registers w₀ w cells) {s : SourceId} (hs : w.Free s) (hd : Handler) :
    (subscriptions (.live (w.upcoming s hd)::cells)).Pairwise fun x y =>
      x.source ≠ y.source ∧ x.popState ≠ y.popState ∧ x.lifecycle ≠ y.lifecycle := by
  rw [subscriptions_live]
  refine List.pairwise_append.mpr ⟨h.distinct,List.pairwise_singleton _ _,?_⟩
  intro x hx y hy
  obtain rfl := List.mem_singleton.mp hy
  obtain ⟨-,-,hp,hl⟩ := h.listeners x hx
  exact ⟨h.source_ne hs hx,Nat.ne_of_lt (Nat.lt_succ_of_le hp),
    Nat.ne_of_lt (Nat.lt_succ_of_le (Nat.le_succ_of_le hl))⟩

/-- A source begins to intercept. -/
lemma Registers.intercept (h : Registers w₀ w cells) {s : SourceId} (hfree : w₀.Free s) (hs : w.Free s)
    (hd : Handler) :
    Registers w₀ (w.intercepted s hd) (.live (w.upcoming s hd)::cells) where
  quiet := by
    have hq : (w.subscribe s hd).2.Obeys Rules.quiet := h.quiet.subscribe (fun _ => trivial) s
    rwa [subscribe_free hs] at hq
  idle := h.idle
  hook := by
    change some (Hook.observer _ _ w.page.hook) = _
    rw [h.hook]
    rfl
  sorted := h.sorted_cons rfl
  young := h.young_cons rfl
  older := ⟨h.older.1.trans (Nat.le_succ _),h.older.2.trans (by exact Nat.le_add_right _ 2)⟩
  sources t ht := by
    rw [intercepted,sourceKind?_setSource]
    split_ifs with hts
    · exact ⟨_,congrArg (Option.map fun _ => _) hs⟩
    · exact h.sources t ht
  others t ht := by
    rw [interception?_intercepted hs,if_neg (by rintro rfl; exact ht hfree),h.others t ht]
  installed _ _ _ he := h.installed_intercepted hs hd he
  complete _ _ ht hi := h.complete_intercepted hs ht hi
  free := by
    rw [subscriptions_live]
    intro x hx
    rcases List.mem_append.mp hx with hold | hnew
    · exact h.free x hold
    · obtain rfl := List.mem_singleton.mp hnew
      exact hfree
  popState := by
    rw [subscriptions_live,List.map_append,← List.append_assoc,← h.popState]
    rfl
  lifecycle := by
    rw [subscriptions_live,List.map_append,← List.append_assoc,← h.lifecycle]
    rfl
  listeners := h.listeners_intercepted s hd
  distinct := h.distinct_intercepted hs hd

/-- Taking the entry of one subscription out of a list of entries. -/
lemma filter_entries {β : Type} (entry : Subscription → ℕ × β) {a b : List Subscription} {x : Subscription}
    (h : ∀ y ∈ a ++ b, (entry y).1 ≠ (entry x).1) :
    ((a ++ x::b).map entry).filter (·.1 != (entry x).1) = (a ++ b).map entry := by
  have hkeep {l : List Subscription} (hl : ∀ y ∈ l, (entry y).1 ≠ (entry x).1) :
      (l.map entry).filter (·.1 != (entry x).1) = l.map entry := by
    refine List.filter_eq_self.mpr fun e he => ?_
    obtain ⟨y,hy,rfl⟩ := List.mem_map.mp he
    simpa using hl y hy
  rw [List.map_append,List.map_cons,List.filter_append,List.filter_cons_of_neg (by simp),
    hkeep fun y hy => h y (List.mem_append_left _ hy),hkeep fun y hy => h y (List.mem_append_right _ hy),
    List.map_append]

/-- A restored source takes its listener away, and those of the page itself and of the other sources stay. -/
lemma filter_withdraw {β : Type} (entry : Subscription → ℕ × β) {own : List (ℕ × β)} {pre post : List Cell}
    {x : Subscription} (hown : ∀ e ∈ own, e.1 < (entry x).1)
    (hothers : ∀ y ∈ subscriptions post ++ subscriptions pre, (entry y).1 ≠ (entry x).1) :
    (own ++ (subscriptions (pre ++ .live x::post)).map entry).filter (·.1 != (entry x).1) =
      own ++ (subscriptions (Cell.withdraw pre x post)).map entry := by
  have hkeep : own.filter (·.1 != (entry x).1) = own :=
    List.filter_eq_self.mpr fun e he => by simpa using Nat.ne_of_lt (hown e he)
  rw [List.filter_append,hkeep,subscriptions_of_live,filter_entries entry hothers,subscriptions_withdraw]

lemma mem_withdraw {pre post : List Cell} {x : Subscription} {c : Cell} (hc : c ∈ Cell.withdraw pre x post) :
    ∃ c' ∈ pre ++ .live x::post, c'.id = c.id := by
  cases pre with
  | nil => exact ⟨c,List.mem_cons_of_mem _ hc,rfl⟩
  | cons b pre =>
    rcases List.mem_append.mp hc with hc | hc
    · exact ⟨c,List.mem_append_left _ hc,rfl⟩
    · rcases List.mem_cons.mp hc with rfl | hc
      · exact ⟨.live x,List.mem_append_right _ List.mem_cons_self,rfl⟩
      · exact ⟨c,List.mem_append_right _ (List.mem_cons_of_mem _ hc),rfl⟩

/-- A live cell that is left had the same hooks below it before. -/
lemma live_of_withdraw {base : Option Hook} {pre post pre' post' : List Cell} {x y : Subscription}
    (he : Cell.withdraw pre x post = pre' ++ .live y::post') :
    ∃ p q, pre ++ .live x::post = p ++ .live y::q ∧ chain base q = chain base post' := by
  cases pre with
  | nil => exact ⟨.live x::pre',post',congrArg (Cell.live x::·) he,rfl⟩
  | cons c pre =>
    rcases List.append_eq_append_iff.mp he with ⟨a,ha,hb⟩ | ⟨a,ha,hb⟩
    · cases a with
      | nil => cases hb
      | cons d a =>
        obtain ⟨-,rfl⟩ := List.cons.inj hb
        exact ⟨c::pre ++ .live x::a,post',by simp,rfl⟩
    · cases a with
      | nil => cases hb
      | cons d a =>
        obtain ⟨rfl,rfl⟩ := List.cons.inj hb
        refine ⟨pre',a ++ .live x::post,by rw [ha]; simp,?_⟩
        change chain base (a ++ .live x::post) = chain base (a ++ .dead x.hook x.handler::post)
        rw [chain_append,chain_append]
        rfl

/-- No other subscription shares anything with one. -/
lemma Registers.distinct_of_live {pre post : List Cell} {x : Subscription}
    (h : Registers w₀ w (pre ++ .live x::post)) : ∀ y ∈ subscriptions post ++ subscriptions pre,
      y.source ≠ x.source ∧ y.popState ≠ x.popState ∧ y.lifecycle ≠ x.lifecycle := by
  have hd := h.distinct
  rw [subscriptions_of_live] at hd
  obtain ⟨-,hright,hcross⟩ := List.pairwise_append.mp hd
  intro y hy
  rcases List.mem_append.mp hy with hy | hy
  · exact hcross y hy x List.mem_cons_self
  · obtain ⟨hs,hp,hl⟩ := (List.pairwise_cons.mp hright).1 y hy
    exact ⟨hs.symm,hp.symm,hl.symm⟩

/-- A hook that is on top is replaced by the one below it, and one that others call stays in their chain. -/
lemma Registers.hook_restored {pre post : List Cell} {x : Subscription} (h : Registers w₀ w (pre ++ .live x::post)) :
    (w.restoredPage (x.interception (chain w₀.page.hook post))).hook =
      chain w₀.page.hook (Cell.withdraw pre x post) := by
  cases pre with
  | nil =>
    rcases w.restoredPage_hook (x.interception (chain w₀.page.hook post)) with ⟨e,-⟩ | ⟨-,hne⟩
    · exact e
    · exact absurd rfl (hne _ h.hook)
  | cons c pre =>
    rcases w.restoredPage_hook (x.interception (chain w₀.page.hook post)) with ⟨-,k,hk,hid⟩ | ⟨e,-⟩
    · have htop : c.id = x.hook := by
        rw [h.hook] at hk
        exact (id_of_chain_cons hk).symm.trans hid
      have hlt : x.hook < c.id :=
        (List.pairwise_cons.mp h.sorted).1 (.live x) (List.mem_append_right _ List.mem_cons_self)
      exact absurd htop (Nat.ne_of_gt hlt)
    · rw [e,h.hook,Cell.withdraw,chain_append,chain_append]
      rfl

/-- The cells that stay live are installed by their sources as before. -/
lemma Registers.installed_restored {pre post pre' post' : List Cell} {x y : Subscription}
    (h : Registers w₀ w (pre ++ .live x::post)) (he : Cell.withdraw pre x post = pre' ++ .live y::post') :
    (w.restored x.source (x.interception (chain w₀.page.hook post))).interception? y.source =
      some (y.interception (chain w₀.page.hook post')) := by
  obtain ⟨p,q,he',hchain⟩ := live_of_withdraw he
  have hy : y ∈ subscriptions post ++ subscriptions pre := by
    rw [← subscriptions_withdraw pre post x,he]
    exact live_mem_subscriptions pre' post' y
  rw [interception?_restored (h.installed pre x post rfl),if_neg (h.distinct_of_live y hy).1,h.installed p y q he',
    hchain]

/-- Each source that goes on intercepting keeps its subscription. -/
lemma Registers.complete_restored {pre post : List Cell} {x : Subscription} {s : SourceId} {i : Interception}
    (h : Registers w₀ w (pre ++ .live x::post)) (hfree : w₀.Free s)
    (hs : (w.restored x.source (x.interception (chain w₀.page.hook post))).interception? s = some i) :
    ∃ y ∈ subscriptions (Cell.withdraw pre x post), y.source = s := by
  rw [interception?_restored (h.installed pre x post rfl)] at hs
  split_ifs at hs with hsx
  obtain ⟨y,hy,rfl⟩ := h.complete s i hfree hs
  refine ⟨y,?_,rfl⟩
  rw [subscriptions_of_live] at hy
  rw [subscriptions_withdraw]
  rcases List.mem_append.mp hy with hy | hy
  · exact List.mem_append_left _ hy
  · rcases List.mem_cons.mp hy with rfl | hy
    · exact absurd rfl hsx
    · exact List.mem_append_right _ hy

/-- A source is restored. -/
lemma Registers.withdraw {pre post : List Cell} {x : Subscription} (h₀ : w₀.AtRest)
    (h : Registers w₀ w (pre ++ .live x::post)) :
    Registers w₀ (w.restored x.source (x.interception (chain w₀.page.hook post))) (Cell.withdraw pre x post) := by
  have hi := h.installed pre x post rfl
  have hlive := live_mem_subscriptions pre post x
  have hsub := subscriptions_withdraw_sublist pre post x
  have hpage := w.restoredPage_eq (x.interception (chain w₀.page.hook post))
  obtain ⟨hpop,hlife,-,-⟩ := h.listeners x hlive
  constructor
  case quiet =>
    have hq := h.quiet.restore x.source
    rwa [restore_installed hi] at hq
  case idle => exact h.idle
  case hook => exact h.hook_restored
  case sorted => exact sorted_withdraw h.sorted
  case young =>
    intro c hc
    obtain ⟨c',hc',hid⟩ := mem_withdraw hc
    rw [← hid]
    exact h.young c' hc'
  case older =>
    refine ⟨h.older.1,?_⟩
    change _ ≤ (w.restoredPage _).lastListener
    rw [hpage]
    exact h.older.2
  case sources =>
    intro t ht
    rw [restored,sourceKind?_setSource]
    split_ifs
    · exact ⟨_,congrArg (Option.map fun _ => _) (sourceKind?_of_interception? hi)⟩
    · exact h.sources t ht
  case others =>
    intro t ht
    have hne : t ≠ x.source := by
      rintro rfl
      exact ht (h.free x hlive)
    rw [interception?_restored hi,if_neg hne,h.others t ht]
  case installed => exact fun _ _ _ he => h.installed_restored he
  case complete => exact fun _ _ hfree hs => h.complete_restored hfree hs
  case free => exact fun y hy => h.free y (hsub.subset hy)
  case popState =>
    change (w.restoredPage _).popState = _
    rw [hpage]
    change w.page.popState.filter (·.1 != x.popState) = _
    rw [h.popState]
    exact filter_withdraw (fun y => (y.popState,.handler y.handler))
      (fun e he => Nat.lt_of_le_of_lt (h₀.popState e he) hpop) fun y hy => (h.distinct_of_live y hy).2.1
  case lifecycle =>
    change (w.restoredPage _).lifecycle = _
    rw [hpage]
    change w.page.lifecycle.filter (·.1 != x.lifecycle) = _
    rw [h.lifecycle]
    exact filter_withdraw (fun y => (y.lifecycle,.handler y.handler))
      (fun e he => Nat.lt_of_le_of_lt (h₀.lifecycle e he) hlife) fun y hy => (h.distinct_of_live y hy).2.2
  case listeners =>
    intro y hy
    change _ ∧ _ ∧ _ ≤ (w.restoredPage _).lastListener ∧ _ ≤ (w.restoredPage _).lastListener
    rw [hpage]
    exact h.listeners y (hsub.subset hy)
  case distinct => exact h.distinct.sublist hsub

end World
end PageTelemetry
