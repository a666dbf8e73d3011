import PageTelemetry.Proofs.Patching.Quiet
import PageTelemetry.Proofs.Sequence

/-! A chain of hooks as a list of cells, the top first, and what it calls. Telling the chain that the location
changed is making these calls one after the other, whatever the page does in between. -/
namespace PageTelemetry

/-- What a source has on a page while it intercepts. -/
structure Subscription where
  source : SourceId
  handler : Handler
  hook : HookId
  popState : ListenerId
  lifecycle : ListenerId

/-- One hook of a chain, without those that it calls. -/
inductive Cell
  /-- Of a source that intercepts. -/
  | live (x : Subscription)
  /-- Of a source that has been restored since; it only passes on. -/
  | dead (id : HookId) (h : Handler)
  /-- Of someone else. -/
  | wrapper (id : HookId) (l : Listener) (last : Bool)

namespace Cell

def id : Cell → HookId
  | .live x => x.hook
  | .dead id _ | .wrapper id _ _ => id

def subscription? : Cell → Option Subscription
  | .live x => some x
  | _ => none

def listener? : Cell → Option Listener
  | .wrapper _ l _ => some l
  | _ => none

/-- The chain of cells above a hook. -/
def chain (base : Option Hook) : List Cell → Option Hook
  | [] => base
  | .live x::rest => some (.observer x.hook x.handler (chain base rest))
  | .dead id h::rest => some (.observer id h (chain base rest))
  | .wrapper id l last::rest => some (.custom id l (chain base rest) last)

/-- The calls of a chain, in their order. -/
def calls (base : Option Hook) (kind : NavigationKind) : List Cell → List Task
  | [] => (base.map (Task.hook · kind)).toList
  | .live x::rest => calls base kind rest ++ [.signal x.handler (.navigate kind)]
  | .dead _ _::rest => calls base kind rest
  | .wrapper _ l true::rest => calls base kind rest ++ [.call l (.history kind)]
  | .wrapper _ l false::rest => .call l (.history kind)::calls base kind rest

/-- The subscriptions in a chain, oldest first. -/
def subscriptions (cells : List Cell) : List Subscription := (cells.filterMap subscription?).reverse

/-- The listeners of others in a chain, oldest first. -/
def listeners (cells : List Cell) : List Listener := (cells.filterMap listener?).reverse

@[simp] lemma subscriptions_live (x : Subscription) (cells : List Cell) :
    subscriptions (.live x::cells) = subscriptions cells ++ [x] := by
  simp [subscriptions,subscription?]

@[simp] lemma subscriptions_dead (id : HookId) (h : Handler) (cells : List Cell) :
    subscriptions (.dead id h::cells) = subscriptions cells := rfl

@[simp] lemma subscriptions_wrapper (id : HookId) (l : Listener) (last : Bool) (cells : List Cell) :
    subscriptions (.wrapper id l last::cells) = subscriptions cells := rfl

@[simp] lemma listeners_live (x : Subscription) (cells : List Cell) :
    listeners (.live x::cells) = listeners cells := rfl

@[simp] lemma listeners_dead (id : HookId) (h : Handler) (cells : List Cell) :
    listeners (.dead id h::cells) = listeners cells := rfl

@[simp] lemma listeners_wrapper (id : HookId) (l : Listener) (last : Bool) (cells : List Cell) :
    listeners (.wrapper id l last::cells) = listeners cells ++ [l] := by
  simp [listeners,listener?]

variable (base : Option Hook) (kind : NavigationKind)

/-- The hook below the chain, each wrapper and each subscriber are called once, and nobody else. -/
theorem calls_perm (cells : List Cell) :
    (calls base kind cells).Perm ((base.map (Task.hook · kind)).toList ++
      (listeners cells).map (.call · (.history kind)) ++
      (subscriptions cells).map fun x => .signal x.handler (.navigate kind)) := by
  induction cells with
  | nil => simp [calls,listeners,subscriptions]
  | cons c rest ih =>
    cases c with
    | live x =>
      rw [calls,subscriptions_live,listeners_live,List.map_append,← List.append_assoc]
      exact ih.append_right _
    | dead id h => exact ih
    | wrapper id l last =>
      have hcons : (.call l (.history kind)::calls base kind rest : List Task).Perm
          ((base.map (Task.hook · kind)).toList ++ (listeners rest ++ [l]).map (.call · (.history kind)) ++
            (subscriptions rest).map fun x => .signal x.handler (.navigate kind)) := by
        rw [List.map_append,← List.append_assoc,List.append_assoc _ (List.map _ [l])]
        exact (ih.cons _).trans List.perm_middle.symm
      rw [subscriptions_wrapper,listeners_wrapper]
      cases last with
      | true => exact (List.perm_append_singleton _ _).trans hcons
      | false => exact hcons

/-- Subscribers are called in the order of their subscriptions. -/
theorem signals_sublist_calls (cells : List Cell) :
    ((subscriptions cells).map fun x => Task.signal x.handler (.navigate kind)).Sublist
      (calls base kind cells) := by
  induction cells with
  | nil => simp [subscriptions]
  | cons c rest ih =>
    cases c with
    | live x =>
      rw [calls,subscriptions_live,List.map_append]
      exact ih.append_right _
    | dead id h => exact ih
    | wrapper id l last =>
      cases last with
      | true => exact ih.trans (List.sublist_append_left ..)
      | false => exact ih.cons _

end Cell

namespace World
variable {w w' W : World} {base : Option Hook} {kind : NavigationKind}

/-- A cell is live as long as its source has it installed. -/
def Agrees (w : World) : Cell → Prop
  | .live x => w.hookActive x.hook = true
  | .dead id _ => w.hookActive id = false
  | .wrapper _ _ _ => True

lemma SameRegistrations.agrees (h : w.SameRegistrations w') {c : Cell} (hc : w.Agrees c) : w'.Agrees c := by
  cases c with
  | live x => exact (h.hookActive x.hook).trans hc
  | dead id hd => exact (h.hookActive id).trans hc
  | wrapper id l last => trivial

lemma keepless_of_quiet {tasks : List Task} (h : ∀ t ∈ tasks, Rules.quiet.AllowsTask t) : Keepless tasks :=
  fun _ _ ht => h _ ht

/-- The calls of a quiet chain are quiet. -/
lemma calls_quiet {cells : List Cell} (h : ∀ k ∈ Cell.chain base cells, Rules.quiet.AllowsHook k) :
    ∀ t ∈ Cell.calls base kind cells, Rules.quiet.AllowsTask t := by
  induction cells with
  | nil =>
    intro t ht
    obtain ⟨k,hk,rfl⟩ : ∃ k, base = some k ∧ Task.hook k kind = t := by simpa [Cell.calls] using ht
    exact h k hk
  | cons c rest ih =>
    cases c with
    | live x =>
      obtain ⟨-,hrest⟩ := h _ rfl
      intro t ht
      rcases List.mem_append.mp ht with hold | hnew
      · exact ih hrest t hold
      · obtain rfl := List.mem_singleton.mp hnew
        trivial
    | dead id hd =>
      obtain ⟨-,hrest⟩ := h _ rfl
      exact ih hrest
    | wrapper id l last =>
      obtain _ | ⟨hl,hrest⟩ := h _ rfl
      intro t ht
      cases last with
      | true =>
        rcases List.mem_append.mp ht with hold | hnew
        · exact ih hrest t hold
        · obtain rfl := List.mem_singleton.mp hnew
          exact hl
      | false =>
        rcases List.mem_cons.mp ht with rfl | hold
        · exact hl
        · exact ih hrest t hold

/-- Once quiet tasks are done in front of an agenda, the rest of it finds the same registrations. -/
lemma quiet_settles_front (hq : w.Obeys Rules.quiet) {tasks : List Task}
    (ht : ∀ t ∈ tasks, Rules.quiet.AllowsTask t) {u : World} (hu : { w with agenda := tasks }.Settles u) :
    { u with agenda := w.agenda }.Obeys Rules.quiet ∧ w.SameRegistrations { u with agenda := w.agenda } := by
  have hfront : ({ w with agenda := tasks } : World).Obeys Rules.quiet :=
    ⟨hq.hook,hq.popState,hq.lifecycle,hq.onLoad,ht,hq.previous⟩
  obtain ⟨hobeys,hsame⟩ := quiet_settles hfront hu
  exact ⟨⟨hobeys.hook,hobeys.popState,hobeys.lifecycle,hobeys.onLoad,hq.agenda,hobeys.previous⟩,
    ⟨hsame.hook,hsame.popState,hsame.lifecycle,hsame.lastListener,hsame.lastHook,hsame.sources⟩⟩

lemma step_observer (w : World) (id : HookId) (h : Handler) (previous : Option Hook) (kind : NavigationKind) :
    (w.enqueue [.hook (.observer id h previous) kind]).step =
      (w.enqueue [.relay id h kind]).enqueue (previous.map (Task.hook · kind)).toList := by
  rw [step_of_agenda_cons rfl]
  simp [perform,callHook,enqueue]

lemma step_custom (w : World) (id : HookId) (l : Listener) (chained : Option Hook) (last : Bool)
    (kind : NavigationKind) :
    (w.enqueue [.hook (.custom id l chained last) kind]).step =
      if last then (w.enqueue [.call l (.history kind)]).enqueue (chained.map (Task.hook · kind)).toList
      else w.enqueue ([.call l (.history kind)] ++ (chained.map (Task.hook · kind)).toList) := by
  rw [step_of_agenda_cons rfl]
  cases last <;> simp [perform,callHook,enqueue]

/-- The part of a source in a hook is to call its handler while it has the hook installed. -/
lemma settles_relay_iff (u : World) (id : HookId) (h : Handler) (kind : NavigationKind) (r : List Task)
    (W : World) :
    { u with agenda := .relay id h kind::r }.Settles W ↔
      { u with agenda := (if u.hookActive id then [Task.signal h (.navigate kind)] else []) ++ r }.Settles W := by
  have hrelay : ({ u with agenda := .relay id h kind::r } : World).step =
      if u.hookActive id then { u with agenda := r }.signal h (.navigate kind) else { u with agenda := r } := rfl
  rw [← settles_step_iff,hrelay]
  split_ifs
  · rw [← settles_step_iff { u with agenda := _ } W]
    rfl
  · rfl

/-- Telling a chain of hooks settles as making its calls does. -/
theorem settles_chain_iff {cells : List Cell} (hq : w.Obeys Rules.quiet)
    (hc : ∀ k ∈ Cell.chain base cells, Rules.quiet.AllowsHook k) (ha : ∀ c ∈ cells, w.Agrees c) (W : World) :
    (w.enqueue ((Cell.chain base cells).map (Task.hook · kind)).toList).Settles W ↔
      (w.enqueue (Cell.calls base kind cells)).Settles W := by
  induction cells generalizing w with
  | nil => rfl
  | cons c rest ih =>
    have hrest := fun c hc => ha c (List.mem_cons_of_mem _ hc)
    have hkeep {tasks : List Task} (ht : ∀ t ∈ tasks, Rules.quiet.AllowsTask t) :
        Keepless (tasks ++ w.agenda) := keepless_of_quiet (hq.enqueue ht).agenda
    -- A hook of a source, whatever its source is doing: the hooks before it, and then its own part.
    have hobserver (id : HookId) (h : Handler)
        (hinner : ∀ k ∈ Cell.chain base rest, Rules.quiet.AllowsHook k) :
        (w.enqueue [.hook (.observer id h (Cell.chain base rest)) kind]).Settles W ↔
          (w.enqueue (Cell.calls base kind rest ++
            if w.hookActive id then [.signal h (.navigate kind)] else [])).Settles W := by
      have hrelay : ∀ t ∈ [Task.relay id h kind], Rules.quiet.AllowsTask t := by
        simp [Rules.AllowsTask,Rules.quiet]
      rw [← settles_step_iff,step_observer,ih (hq.enqueue hrelay) hinner hrest,enqueue,enqueue,← List.append_assoc]
      refine settles_enqueue_congr (hkeep hrelay) (hkeep ?_) fun u hu => ?_
      · split_ifs <;> simp [Rules.AllowsTask]
      · have hactive := (quiet_settles_front hq (calls_quiet hinner) hu).2.hookActive id
        rw [List.singleton_append,settles_relay_iff,show u.hookActive id = w.hookActive id from hactive]
    cases c with
    | live x =>
      obtain ⟨-,hinner⟩ := hc _ rfl
      have hactive : w.hookActive x.hook = true := ha _ List.mem_cons_self
      have h := hobserver x.hook x.handler hinner
      rwa [if_pos hactive] at h
    | dead id hd =>
      obtain ⟨-,hinner⟩ := hc _ rfl
      have hactive : w.hookActive id = false := ha _ List.mem_cons_self
      have h := hobserver id hd hinner
      rwa [hactive,if_neg Bool.false_ne_true,List.append_nil] at h
    | wrapper id l last =>
      obtain _ | ⟨hl,hinner⟩ := hc _ rfl
      have hcall : ∀ t ∈ [Task.call l (.history kind)], Rules.quiet.AllowsTask t := by
        simpa [Rules.AllowsTask] using hl
      have hstep : (w.enqueue [.hook (.custom id l (Cell.chain base rest) last) kind]).Settles W ↔ _ :=
        (settles_step_iff _ W).symm.trans (by rw [step_custom])
      refine hstep.trans ?_
      cases last with
      | true =>
        rw [if_pos rfl,ih (hq.enqueue hcall) hinner hrest,enqueue,enqueue,← List.append_assoc]
        rfl
      | false =>
        rw [if_neg Bool.false_ne_true]
        refine settles_enqueue_congr (hkeep ?_) (hkeep (calls_quiet hinner)) fun u hu => ?_
        · intro t ht
          obtain ⟨k,hk,rfl⟩ : ∃ k, Cell.chain base rest = some k ∧ Task.hook k kind = t := by simpa using ht
          exact hinner k hk
        · obtain ⟨hobeys,hsame⟩ := quiet_settles_front hq hcall hu
          exact ih hobeys hinner fun c hc => hsame.agrees (hrest c hc)

end World
end PageTelemetry
