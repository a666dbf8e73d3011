import PageTelemetry.Proofs.Reinstalling

/-! Who keeps whom. Strong references make a graph, and what is referred to by something that is kept is kept itself.
The page is in a cycle exactly while a start that waits for the document holds a history source. Where no tracker is
given one before the document is complete, nothing leads from the page back to it, and all goes with its last
holder. -/
namespace PageTelemetry.World

/-- What can be kept. A function that someone has stored is what it does. -/
inductive Node
  | page
  | hook (h : Hook)
  | callback (c : Callback)
  | load (c : LoadCallback)
  | api (t : TrackerId)
  | tracker (t : TrackerId)
  | source (s : SourceId)

/-- Strong references. The handles of a tracker on its page and of a handler on its tracker are weak, so there are
none of those. -/
inductive Refers (w : World) : Node → Node → Prop
  | hook {h : Hook} (hh : w.page.hook = some h) : Refers w .page (.hook h)
  | popState {id : ListenerId} {c : Callback} (hc : (id,c) ∈ w.page.popState) : Refers w .page (.callback c)
  | lifecycle {id : ListenerId} {c : Callback} (hc : (id,c) ∈ w.page.lifecycle) : Refers w .page (.callback c)
  | load {c : LoadCallback} (hc : c ∈ w.page.onLoad) : Refers w .page (.load c)
  | global {name : String} {t : TrackerId} (ht : (name,t) ∈ w.page.globals) : Refers w .page (.api t)
  | api (t : TrackerId) : Refers w (.api t) (.tracker t)
  | previous (id : HookId) (h : Handler) (k : Hook) : Refers w (.hook (.observer id h (some k))) (.hook k)
  | chained (id : HookId) (l : Listener) (k : Hook) (last : Bool) :
    Refers w (.hook (.custom id l (some k) last)) (.hook k)
  | begins (t : TrackerId) (source : Option SourceId) : Refers w (.load (.start t source)) (.tracker t)
  | observes (t : TrackerId) (s : SourceId) : Refers w (.load (.start t (some s))) (.source s)
  | visits {s : SourceId} {x : Source} (hs : w.sources[s]? = some x) (hx : x.isHistory = true) :
    Refers w (.source s) .page
  | installed {s : SourceId} {i : Interception} (hi : w.interception? s = some i) : Refers w (.source s) (.hook i.hook)
  | replaced {s : SourceId} {i : Interception} {k : Hook} (hi : w.interception? s = some i) (hk : i.previous = some k) :
    Refers w (.source s) (.hook k)

/-- What the embedder holds, and what a dispatch holds that is under way. -/
inductive Pins (w : World) : Node → Prop
  | page (h : w.pageHeld = true) : Pins w .page
  | api {t : TrackerId} (ht : t ∈ w.handles) : Pins w (.api t)
  | source {s : SourceId} {x : Source} (hs : w.sources[s]? = some x) (hx : x.held = true) : Pins w (.source s)
  | hook {h : Hook} {kind : NavigationKind} (hh : .hook h kind ∈ w.agenda) : Pins w (.hook h)
  | start {t : TrackerId} {source : Option SourceId} (ht : .start t source ∈ w.agenda) :
    Pins w (.load (.start t source))

/-- What is never freed: it can be reached from what is held, or from a cycle. -/
def Kept (w : World) (n : Node) : Prop :=
  ∃ m, (w.Pins m ∨ Relation.TransGen w.Refers m m) ∧ Relation.ReflTransGen w.Refers m n

variable {w w' : World} {n m : Node} {t : TrackerId} {s : SourceId}

lemma Pins.kept (h : w.Pins n) : w.Kept n := ⟨n,.inl h,.refl⟩

lemma Kept.refers (h : w.Kept n) (hnm : w.Refers n m) : w.Kept m := by
  obtain ⟨r,hr,hpath⟩ := h
  exact ⟨r,hr,hpath.tail hnm⟩

/-- Counting references: what is kept is held, or something kept refers to it. -/
lemma Kept.cases (h : w.Kept n) : w.Pins n ∨ ∃ m, w.Kept m ∧ w.Refers m n := by
  obtain ⟨r,hr,hpath⟩ := h
  cases hpath with
  | tail hpath hlast => exact .inr ⟨_,⟨r,hr,hpath⟩,hlast⟩
  | refl =>
    rcases hr with hpins | hcycle
    · exact .inl hpins
    · obtain ⟨m,hpath,hlast⟩ := (Relation.TransGen.tail'_iff).mp hcycle
      exact .inr ⟨m,⟨n,.inr hcycle,hpath⟩,hlast⟩

/-! The cycle. -/

/-- A start that waits for the document holds a history source. -/
def Entangled (w : World) : Prop :=
  ∃ t s x, .start t (some s) ∈ w.page.onLoad ∧ w.sources[s]? = some x ∧ x.isHistory = true

/-- What leads from somewhere else to a function that waits for the document is stored on the page. -/
lemma mem_onLoad_of_path {c : LoadCallback} (h : Relation.ReflTransGen w.Refers n (.load c)) (hne : n ≠ .load c) :
    c ∈ w.page.onLoad := by
  cases h with
  | refl => exact absurd rfl hne
  | tail _ hlast =>
    cases hlast
    assumption

/-- The page leads back to itself exactly while a start that waits for the document holds a history source. -/
theorem page_cycle_iff : Relation.TransGen w.Refers .page .page ↔ w.Entangled := by
  constructor
  · intro h
    obtain ⟨m,hpath,hlast⟩ := (Relation.TransGen.tail'_iff).mp h
    cases hlast with
    | @visits s x hs hx =>
      cases hpath with
      | tail hpath hlast =>
        cases hlast with
        | observes t => exact ⟨t,s,x,mem_onLoad_of_path hpath nofun,hs,hx⟩
  · rintro ⟨t,s,x,hload,hs,hx⟩
    exact .head (.load hload) (.head (.observes t s) (.single (.visits hs hx)))

/-! What is kept. -/

lemma Kept.page (h : w.Kept .page) :
    w.pageHeld = true ∨ ∃ s x, w.sources[s]? = some x ∧ x.isHistory = true ∧ w.Kept (.source s) := by
  rcases h.cases with hpins | ⟨m,hm,hlast⟩
  · cases hpins with
    | page h => exact .inl h
  · cases hlast with
    | @visits s x hs hx => exact .inr ⟨s,x,hs,hx,hm⟩

lemma Kept.source (h : w.Kept (.source s)) : (∃ x, w.sources[s]? = some x ∧ x.held = true) ∨
    ∃ t, w.Kept (.load (.start t (some s))) := by
  rcases h.cases with hpins | ⟨m,hm,hlast⟩
  · cases hpins with
    | source hs hx => exact .inl ⟨_,hs,hx⟩
  · cases hlast with
    | observes t => exact .inr ⟨t,hm⟩

lemma Kept.load {source : Option SourceId} (h : w.Kept (.load (.start t source))) :
    .start t source ∈ w.agenda ∨ w.Kept .page ∧ .start t source ∈ w.page.onLoad := by
  rcases h.cases with hpins | ⟨m,hm,hlast⟩
  · cases hpins with
    | start ht => exact .inl ht
  · cases hlast with
    | load hc => exact .inr ⟨hm,hc⟩

lemma Kept.api (h : w.Kept (.api t)) : t ∈ w.handles ∨ w.Kept .page ∧ ∃ name, (name,t) ∈ w.page.globals := by
  rcases h.cases with hpins | ⟨m,hm,hlast⟩
  · cases hpins with
    | api ht => exact .inl ht
  · cases hlast with
    | global ht => exact .inr ⟨hm,_,ht⟩

lemma Kept.tracker (h : w.Kept (.tracker t)) : w.Kept (.api t) ∨ ∃ source, w.Kept (.load (.start t source)) := by
  rcases h.cases with hpins | ⟨m,hm,hlast⟩
  · cases hpins
  · cases hlast with
    | api => exact .inl hm
    | begins _ source => exact .inr ⟨source,hm⟩

lemma keepsSource_iff {c : LoadCallback} : c.keepsSource s = true ↔ ∃ t, c = .start t (some s) := by
  rcases c with ⟨t,_ | s'⟩ | l <;> simp [LoadCallback.keepsSource]

lemma keepsTracker_iff {c : LoadCallback} : c.keepsTracker t = true ↔ ∃ source, c = .start t source := by
  rcases c with ⟨t',source⟩ | l <;> simp [LoadCallback.keepsTracker]

lemma task_keepsSource_iff {task : Task} : task.keepsSource s = true ↔ ∃ t, task = .start t (some s) := by
  rcases task with _ | _ | _ | _ | ⟨t,_ | s'⟩ | _ <;> simp [Task.keepsSource]

lemma task_keepsTracker_iff {task : Task} : task.keepsTracker t = true ↔ ∃ source, task = .start t source := by
  rcases task with _ | _ | _ | _ | ⟨t',source⟩ | _ <;> simp [Task.keepsTracker]

lemma sourceKept_iff : w.sourceKept s = true ↔ (∃ x, w.sources[s]? = some x ∧ x.held = true) ∨
    (∃ t, .start t (some s) ∈ w.page.onLoad) ∨ ∃ t, .start t (some s) ∈ w.agenda := by
  have hheld : (w.sources[s]?.map Source.held).getD false = true ↔ ∃ x, w.sources[s]? = some x ∧ x.held = true := by
    cases w.sources[s]? <;> simp
  simp only [sourceKept,Bool.or_eq_true,hheld,List.any_eq_true,keepsSource_iff,task_keepsSource_iff,or_assoc]
  constructor
  · rintro (h | ⟨_,hc,t,rfl⟩ | ⟨_,hc,t,rfl⟩)
    exacts [.inl h,.inr (.inl ⟨t,hc⟩),.inr (.inr ⟨t,hc⟩)]
  · rintro (h | ⟨t,hc⟩ | ⟨t,hc⟩)
    exacts [.inl h,.inr (.inl ⟨_,hc,t,rfl⟩),.inr (.inr ⟨_,hc,t,rfl⟩)]

lemma pageKept_cases : w.pageKept = true ↔ w.pageHeld = true ∨
    ∃ s x, w.sources[s]? = some x ∧ x.isHistory = true ∧ w.sourceKept s = true := by
  have hhistory (s : SourceId) : (w.sources[s]?.map Source.isHistory).getD false = true ↔
      ∃ x, w.sources[s]? = some x ∧ x.isHistory = true := by
    cases w.sources[s]? <;> simp
  simp only [pageKept,Bool.or_eq_true,List.any_eq_true,List.mem_range,Bool.and_eq_true,hhistory]
  refine or_congr_right ⟨?_,?_⟩
  · rintro ⟨s,-,⟨x,hs,hx⟩,hkept⟩
    exact ⟨s,x,hs,hx,hkept⟩
  · rintro ⟨s,x,hs,hx,hkept⟩
    exact ⟨s,(List.getElem?_eq_some_iff.mp hs).1,⟨x,hs,hx⟩,hkept⟩

/-- A page can be read exactly as long as it is kept. -/
theorem pageKept_iff : w.pageKept = true ↔ w.Kept .page := by
  rw [pageKept_cases]
  simp only [sourceKept_iff]
  constructor
  · rintro (hheld | ⟨s,x,hs,hx,⟨y,hy,hheld⟩ | ⟨t,hload⟩ | ⟨t,hstart⟩⟩)
    · exact (Pins.page hheld).kept
    · exact (Pins.source hy hheld).kept.refers (.visits hs hx)
    · exact ⟨.page,.inr (page_cycle_iff.mpr ⟨t,s,x,hload,hs,hx⟩),.refl⟩
    · exact ((Pins.start hstart).kept.refers (.observes t s)).refers (.visits hs hx)
  · intro h
    rcases h.page with hheld | ⟨s,x,hs,hx,hsource⟩
    · exact .inl hheld
    · refine .inr ⟨s,x,hs,hx,?_⟩
      rcases hsource.source with hheld | ⟨t,hload⟩
      · exact .inl hheld
      · rcases hload.load with hstart | ⟨-,hwaits⟩
        · exact .inr (.inr ⟨t,hstart⟩)
        · exact .inr (.inl ⟨t,hwaits⟩)

/-- A tracker hears a signal exactly as long as it is kept. -/
theorem trackerKept_iff : w.trackerKept t = true ↔ w.Kept (.tracker t) := by
  have hcases : w.trackerKept t = true ↔ t ∈ w.handles ∨ (∃ source, .start t source ∈ w.agenda) ∨
      w.Kept .page ∧ ((∃ name, (name,t) ∈ w.page.globals) ∨ ∃ source, .start t source ∈ w.page.onLoad) := by
    simp only [trackerKept,Bool.or_eq_true,Bool.and_eq_true,List.any_eq_true,List.contains_iff_mem,
      task_keepsTracker_iff,keepsTracker_iff,pageKept_iff,or_assoc,beq_iff_eq]
    refine or_congr_right (or_congr ⟨?_,?_⟩ (and_congr_right fun _ => or_congr ⟨?_,?_⟩ ⟨?_,?_⟩))
    · rintro ⟨_,ht,source,rfl⟩; exact ⟨source,ht⟩
    · rintro ⟨source,ht⟩; exact ⟨_,ht,source,rfl⟩
    · rintro ⟨⟨name,_⟩,ht,rfl⟩; exact ⟨name,ht⟩
    · rintro ⟨name,ht⟩; exact ⟨_,ht,rfl⟩
    · rintro ⟨_,ht,source,rfl⟩; exact ⟨source,ht⟩
    · rintro ⟨source,ht⟩; exact ⟨_,ht,source,rfl⟩
  rw [hcases]
  constructor
  · rintro (hhandle | ⟨source,hstart⟩ | ⟨hpage,⟨name,hglobal⟩ | ⟨source,hload⟩⟩)
    · exact (Pins.api hhandle).kept.refers (.api t)
    · exact (Pins.start hstart).kept.refers (.begins t source)
    · exact (hpage.refers (.global hglobal)).refers (.api t)
    · exact (hpage.refers (.load hload)).refers (.begins t source)
  · intro h
    rcases h.tracker with hapi | ⟨source,hload⟩
    · rcases hapi.api with hhandle | ⟨hpage,hglobal⟩
      · exact .inl hhandle
      · exact .inr (.inr ⟨hpage,.inl hglobal⟩)
    · rcases hload.load with hstart | ⟨hpage,hwaits⟩
      · exact .inr (.inl ⟨source,hstart⟩)
      · exact .inr (.inr ⟨hpage,.inr ⟨source,hwaits⟩⟩)

/-- The embedder has given everything up, and no dispatch is under way. -/
structure Abandoned (w : World) : Prop where
  page : w.pageHeld = false
  handles : w.handles = []
  sources : ∀ x ∈ w.sources, x.held = false
  agenda : w.agenda = []

/-- A page that is given up stays exactly if a start that waits for its document holds a history source. -/
lemma Abandoned.kept_page_iff (h : w.Abandoned) : w.Kept .page ↔ w.Entangled := by
  constructor
  · intro hkept
    rcases hkept.page with hheld | ⟨s,x,hs,hx,hsource⟩
    · simp [h.page] at hheld
    · rcases hsource.source with ⟨y,hy,hheld⟩ | ⟨t,hload⟩
      · simp [h.sources y (List.mem_of_getElem? hy)] at hheld
      · rcases hload.load with hstart | ⟨-,hwaits⟩
        · simp [h.agenda] at hstart
        · exact ⟨t,s,x,hwaits,hs,hx⟩
  · exact fun hentangled => ⟨.page,.inr (page_cycle_iff.mpr hentangled),.refl⟩

/-- No tracker outlives a page that is given up. -/
lemma Abandoned.kept_tracker (h : w.Abandoned) (hkept : w.Kept (.tracker t)) : w.Kept .page := by
  rcases hkept.tracker with hapi | ⟨source,hload⟩
  · rcases hapi.api with hhandle | ⟨hpage,-⟩
    · simp [h.handles] at hhandle
    · exact hpage
  · rcases hload.load with hstart | ⟨hpage,-⟩
    · simp [h.agenda] at hstart
    · exact hpage

/-! What becomes of the functions that wait for the document. -/

/-- A source that is driven by hand stays one. -/
def KeepsKinds (w w' : World) : Prop :=
  ∀ s subscriber, w.sourceKind? s = some (.memory subscriber) →
    ∃ subscriber', w'.sourceKind? s = some (.memory subscriber')

/-- Nothing else waits, and the page is as complete as it was. -/
structure Undisturbed (w w' : World) : Prop where
  ready : w'.page.ready = w.page.ready
  onLoad : w'.page.onLoad = w.page.onLoad
  kinds : w.KeepsKinds w'

/-- Nothing else waits, or nothing at all, or on a page that is not complete one more function waits; if that is a start
with a source, an installation that was allowed has brought it there. -/
structure Alters (allowed : Act → Prop) (w w' : World) : Prop where
  kinds : w.KeepsKinds w'
  waiting : w'.page.ready = w.page.ready ∧ w'.page.onLoad = w.page.onLoad ∨ w'.page.onLoad = [] ∨
    (w'.page.ready = w.page.ready ∧ w.page.ready ≠ .complete) ∧ ∃ c, w'.page.onLoad = w.page.onLoad ++ [c] ∧
      ∀ t s, c = .start t (some s) → ∃ config outlet, allowed (.install config (some s) outlet)

variable {allowed : Act → Prop} {u : World}

lemma KeepsKinds.of_same (h : w'.sources = w.sources) : w.KeepsKinds w' := by
  intro s subscriber hs
  exact ⟨subscriber,by rw [sourceKind?,h]; exact hs⟩

lemma KeepsKinds.setSource {k k' : SourceKind} (hk : w.sourceKind? s = some k)
    (h : (∃ subscriber, k = .memory subscriber) → ∃ subscriber, k' = .memory subscriber) :
    w.KeepsKinds (w.setSource s k') := by
  intro s' subscriber hs'
  rw [sourceKind?_setSource]
  split_ifs with heq
  · subst heq
    obtain ⟨subscriber',rfl⟩ := h ⟨subscriber,Option.some.inj (hk.symm.trans hs')⟩
    exact ⟨subscriber',by rw [hk]; rfl⟩
  · exact ⟨subscriber,hs'⟩

lemma Undisturbed.of_same (hready : w'.page.ready = w.page.ready) (hload : w'.page.onLoad = w.page.onLoad)
    (hsources : w'.sources = w.sources) : w.Undisturbed w' := ⟨hready,hload,.of_same hsources⟩

lemma Undisturbed.refl (w : World) : w.Undisturbed w := .of_same rfl rfl rfl

lemma Undisturbed.trans (h : w.Undisturbed u) (h' : u.Undisturbed w') : w.Undisturbed w' := by
  refine ⟨h'.ready.trans h.ready,h'.onLoad.trans h.onLoad,fun s subscriber hs => ?_⟩
  obtain ⟨subscriber',hs'⟩ := h.kinds s subscriber hs
  exact h'.kinds s subscriber' hs'

lemma Undisturbed.alters (h : w.Undisturbed w') : Alters allowed w w' := ⟨h.kinds,.inl ⟨h.ready,h.onLoad⟩⟩

lemma Alters.of_same (hready : w'.page.ready = w.page.ready) (hload : w'.page.onLoad = w.page.onLoad)
    (hsources : w'.sources = w.sources) : Alters allowed w w' := (Undisturbed.of_same hready hload hsources).alters

lemma Alters.refl (w : World) : Alters allowed w w := .of_same rfl rfl rfl

lemma Reported.undisturbed (h : w.Reported w') : w.Undisturbed w' := by
  obtain ⟨_,_,_,-,rfl⟩ := h
  exact .of_same rfl rfl rfl

lemma addSource_undisturbed (w : World) (kind : SourceKind) (held : Bool) :
    w.Undisturbed (w.addSource kind held).2 := by
  refine ⟨rfl,rfl,fun s subscriber hs => ⟨subscriber,?_⟩⟩
  obtain ⟨x,hx,-⟩ := Option.map_eq_some_iff.mp hs
  rw [sourceKind?,addSource,List.getElem?_append_left (List.getElem?_eq_some_iff.mp hx).1]
  exact hs

lemma subscribe_undisturbed (w : World) (s : SourceId) (h : Handler) : w.Undisturbed (w.subscribe s h).2 := by
  rcases w.subscribe_cases s h with ⟨hs,e⟩ | ⟨hs,e⟩ | e
  · rw [e]
    have hset : ({ w with page := w.interceptedPage h, lastHook := w.lastHook+1 } : World).KeepsKinds
        (w.intercepted s h) := .setSource hs (by rintro ⟨_,⟨⟩⟩)
    exact ⟨rfl,rfl,hset⟩
  · rw [e]
    exact ⟨rfl,rfl,.setSource hs fun _ => ⟨_,rfl⟩⟩
  · rw [e]
    exact .refl w

lemma restore_undisturbed (w : World) (s : SourceId) : w.Undisturbed (w.restore s).2 := by
  cases hi : w.interception? s with
  | none => rw [restore_free hi]; exact .refl w
  | some i =>
    rw [restore_installed hi]
    have hset : ({ w with page := w.restoredPage i } : World).KeepsKinds (w.restored s i) :=
      .setSource (sourceKind?_of_interception? hi) (by rintro ⟨_,⟨⟩⟩)
    have hpage : (w.restored s i).page = w.restoredPage i := rfl
    exact ⟨by rw [hpage,restoredPage_eq],by rw [hpage,restoredPage_eq],hset⟩

lemma start_undisturbed (w : World) (t : TrackerId) (source : Option SourceId) : w.Undisturbed (w.start t source) := by
  refine start_invariant (w.report_reported t _).undisturbed ?_ ?_ source
  · exact fun u hu => hu.trans (addSource_undisturbed ..)
  · exact fun u s hu => hu.trans (subscribe_undisturbed ..)

lemma install_alters (w : World) {c : Config} {source : Option SourceId} {outlet : OutletId}
    (ha : allowed (.install c source outlet)) : Alters allowed w (w.install c source outlet).2 := by
  have henrolled (st : Settings) : w.Undisturbed (w.enroll st outlet) := .of_same rfl rfl rfl
  simp only [install]
  split_ifs
  · exact .refl w
  · cases w.page.global? Page.namespaceName with
    | some id => exact .refl w
    | none =>
      cases c.resolve with
      | error e => exact .refl w
      | ok st =>
        dsimp only
        split_ifs with hready
        · exact ((henrolled st).trans (start_undisturbed _ _ source)).alters
        · refine ⟨.of_same rfl,.inr (.inr ⟨⟨rfl,hready⟩,_,rfl,fun t s hstart => ?_⟩)⟩
          obtain ⟨-,rfl⟩ := LoadCallback.start.inj hstart
          exact ⟨c,outlet,ha⟩

theorem act_alters (w : World) {a : Act} (ha : allowed a) : Alters allowed w (w.act a) := by
  cases a with
  | push | replace | setHref | setTitle | setWidth | reveal | unload | addPopState | addLifecycle
  | removePopState | removeLifecycle | wrapHook | removeHook => exact .of_same rfl rfl rfl
  | discard => exact ⟨.of_same rfl,.inr (.inl rfl)⟩
  | back =>
    simp only [act,back]
    cases w.page.history.back? <;> exact .of_same rfl rfl rfl
  | forward =>
    simp only [act,forward]
    cases w.page.history.forward? <;> exact .of_same rfl rfl rfl
  | hide =>
    simp only [act,hide]
    split_ifs <;> exact .of_same rfl rfl rfl
  | finishLoading =>
    simp only [act,finishLoading]
    split_ifs
    · exact .refl w
    · exact ⟨.of_same rfl,.inr (.inl rfl)⟩
  | track name =>
    simp only [act,trackExposed]
    cases w.page.global? Page.namespaceName with
    | none => exact .refl w
    | some id => exact (w.report_reported id _).undisturbed.alters
  | install c source outlet => exact w.install_alters ha
  | subscribe s h => exact (w.subscribe_undisturbed s h).alters
  | restore s => exact (w.restore_undisturbed s).alters
  | onLoad label ending acts =>
    simp only [act,onLoad]
    split_ifs with hready
    · exact .of_same rfl rfl rfl
    · exact ⟨.of_same rfl,.inr (.inr ⟨⟨rfl,hready⟩,_,rfl,fun t s hstart => by cases hstart⟩)⟩

lemma step_alters (w : World) (ha : ∀ a rest, w.agenda = .act a::rest → allowed a) : Alters allowed w w.step := by
  cases hagenda : w.agenda with
  | nil =>
    rw [step_of_agenda_nil hagenda]
    exact .refl w
  | cons task rest =>
    rw [step_of_agenda_cons hagenda]
    have hrest : w.Undisturbed { w with agenda := rest } := .of_same rfl rfl rfl
    by_cases hact : ∃ a, task = .act a
    · obtain ⟨a,rfl⟩ := hact
      have halters := act_alters { w with agenda := rest } (ha a rest hagenda)
      exact ⟨halters.kinds,halters.waiting⟩
    · refine Undisturbed.alters (perform_invariant (P := w.Undisturbed) hrest (fun _ _ hu hr => hu.trans hr.undisturbed)
        (fun _ _ hu => hu.trans (.of_same rfl rfl rfl)) (fun t source _ => ?_) fun a h => absurd ⟨a,h⟩ hact)
      exact hrest.trans (start_undisturbed _ t source)

/-! Runs. -/

/-- One thing that happens: a task is done, someone operates on the page, sources are made or given up, or something
changes that concerns neither sources nor functions that wait for the document. -/
inductive Passes (allowed : World → Act → Prop) : World → World → Prop
  | step (w : World) (h : ∀ a rest, w.agenda = .act a::rest → allowed w a) : Passes allowed w w.step
  | act (w : World) {a : Act} (h : allowed w a) : Passes allowed w (w.act a)
  | hold (w : World) (id : SourceId) (held : Bool) :
    Passes allowed w { w with sources := w.sources.modify id fun x => { x with held := held } }
  | addSource (w : World) (kind : SourceKind) (held : Bool) : Passes allowed w (w.addSource kind held).2
  | aside {w w' : World} (hready : w'.page.ready = w.page.ready) (hload : w'.page.onLoad = w.page.onLoad)
    (hsources : w'.sources = w.sources) : Passes allowed w w'

theorem Passes.alters {allowed : World → Act → Prop} (h : Passes allowed w w') : Alters (allowed w) w w' := by
  cases h with
  | step ha => exact w.step_alters ha
  | act ha => exact w.act_alters ha
  | hold id held =>
    refine ⟨fun s subscriber hs => ⟨subscriber,?_⟩,.inl ⟨rfl,rfl⟩⟩
    rwa [sourceKind?_hold]
  | addSource kind held => exact (w.addSource_undisturbed kind held).alters
  | aside hready hload hsources => exact .of_same hready hload hsources

lemma Passes.weaken {allowed : World → Act → Prop} (h : Passes allowed w w') : Passes (fun _ _ => True) w w' := by
  cases h with
  | step _ => exact .step w fun _ _ _ => trivial
  | act _ => exact .act w trivial
  | hold id held => exact .hold w id held
  | addSource kind held => exact .addSource w kind held
  | aside hready hload hsources => exact .aside hready hload hsources

/-- An installation whose tracker has to wait, and is given a source other than one that is driven by hand. -/
def Entangles (w : World) : Act → Prop
  | .install _ (some s) _ => w.page.ready ≠ .complete ∧ ∀ subscriber, w.sourceKind? s ≠ some (.memory subscriber)
  | _ => False

/-- Starts that wait for the document hold at most sources that are driven by hand. -/
def Clear (w : World) : Prop :=
  ∀ t s, .start t (some s) ∈ w.page.onLoad → ∃ subscriber, w.sourceKind? s = some (.memory subscriber)

lemma Clear.not_entangled (h : w.Clear) : ¬w.Entangled := by
  rintro ⟨t,s,x,hload,hs,hx⟩
  obtain ⟨subscriber,hkind⟩ := h t s hload
  simp only [sourceKind?,hs,Option.map_some,Option.some.injEq] at hkind
  simp [Source.isHistory,hkind] at hx

lemma Clear.alters (h : w.Clear) (ha : Alters (fun a => ¬w.Entangles a) w w') : w'.Clear := by
  intro t s hstart
  obtain ⟨subscriber,hs⟩ : ∃ subscriber, w.sourceKind? s = some (.memory subscriber) := by
    rcases ha.waiting with ⟨-,hsame⟩ | hnone | ⟨⟨-,hready⟩,c,hmore,hinstalled⟩
    · exact h t s (hsame ▸ hstart)
    · simp [hnone] at hstart
    · rw [hmore] at hstart
      rcases List.mem_append.mp hstart with hstart | hstart
      · exact h t s hstart
      · obtain ⟨config,outlet,hallowed⟩ := hinstalled t s (List.mem_singleton.mp hstart).symm
        by_contra hnone
        push Not at hnone
        exact hallowed ⟨hready,hnone⟩
  exact ha.kinds s subscriber hs

/-- Nothing waits for a document that is complete. -/
def Loaded (w : World) : Prop := w.page.ready = .complete → w.page.onLoad = []

lemma Loaded.alters (h : w.Loaded) (ha : Alters allowed w w') : w'.Loaded := by
  intro hcomplete
  rcases ha.waiting with ⟨hready,hsame⟩ | hnone | ⟨⟨hready,hincomplete⟩,-⟩
  · rw [hsame,h (hready ▸ hcomplete)]
  · exact hnone
  · exact absurd (hready ▸ hcomplete) hincomplete

/-- In every run that begins on a page on which nothing waits, something leads from the page back to it exactly while
a start that waits for the document holds a history source. If the embedder then gives everything up, the page is kept
exactly in that case, and no tracker is kept in any other. It is never the case once the document is complete, and
never at all if no installation gives such a source to a tracker that has to wait. -/
theorem page_released {w₀ : World} (h₀ : w₀.page.onLoad = [])
    (hrun : Relation.ReflTransGen (Passes fun _ _ => True) w₀ w) :
    (Relation.TransGen w.Refers .page .page ↔ w.Entangled) ∧
    (w.Abandoned → (w.pageKept = true ↔ w.Entangled) ∧ ∀ t, w.trackerKept t = true → w.Entangled) ∧
    (w.page.ready = .complete → ¬w.Entangled) ∧
    (Relation.ReflTransGen (Passes fun u a => ¬u.Entangles a) w₀ w → ¬w.Entangled) := by
  have hloaded : w.Loaded := by
    induction hrun with
    | refl => exact fun _ => h₀
    | tail _ hlast ih => exact ih.alters hlast.alters
  refine ⟨page_cycle_iff,fun habandoned => ⟨pageKept_iff.trans habandoned.kept_page_iff,fun t hkept => ?_⟩,
    fun hcomplete => ?_,fun hcareful => Clear.not_entangled ?_⟩
  · exact habandoned.kept_page_iff.mp (habandoned.kept_tracker (trackerKept_iff.mp hkept))
  · rintro ⟨t,s,x,hload,-⟩
    simp [hloaded hcomplete] at hload
  · clear hloaded hrun
    induction hcareful with
    | refl =>
      intro t s hstart
      simp [h₀] at hstart
    | tail _ hlast ih => exact ih.alters hlast.alters

/-- The embedder gives up the page, the APIs and the first of the sources. -/
def abandon (w : World) : World :=
  { w with
    pageHeld := false
    handles := []
    sources := w.sources.modify 0 fun x => { x with held := false } }

lemma abandoned_of_idle (hidle : w.agenda.isEmpty = true)
    (hheld : w.sources.all (fun x => !x.held) = true) (hpage : w.pageHeld = false) (hhandles : w.handles = []) :
    w.Abandoned :=
  ⟨hpage,hhandles,by simpa using hheld,List.isEmpty_iff.mp hidle⟩

/-- A page is loaded, its tracker begins, and a visitor goes on. -/
def outlived : World := (((unvisited .loading).act (.install siteConfig none 0)).act .finishLoading).step.act (.push "/c")

/-- A run in which no tracker that has to wait is given a history source. -/
abbrev Careful : World → World → Prop := Relation.ReflTransGen (Passes fun u a => ¬u.Entangles a)

lemma outlived_careful : Careful (unvisited .loading) outlived.step.step.abandon := by
  have hstep {w : World} (h : w.agenda.all (fun | .act _ => false | _ => true) = true) :
      Passes (fun u a => ¬u.Entangles a) w w.step := by
    refine .step w fun a rest hagenda => ?_
    simp [hagenda] at h
  have hbegun : Careful (unvisited .loading)
      (((unvisited .loading).act (.install siteConfig none 0)).act .finishLoading).step :=
    ((Relation.ReflTransGen.single (.act _ id)).tail (.act _ id)).tail (hstep (by decide +kernel))
  have hmoved := ((hbegun.tail (.act _ id)).tail (hstep (w := outlived) (by decide +kernel))).tail
    (hstep (w := outlived.step) (by decide +kernel))
  exact (hmoved.tail (.hold _ 0 false)).tail (.aside rfl rfl rfl)

/-- A tracker that waits for the document is given a source that is driven by hand. -/
def steered : World := ((unvisited .loading).addSource (.memory none) true).2.act (.install siteConfig (some 1) 0)

/-- The embedder gives up that source, and then all else. -/
def unsteered : World :=
  { steered with sources := steered.sources.modify 1 fun x => { x with held := false } }.abandon

lemma unsteered_careful : Careful (unvisited .loading) unsteered := by
  have hmade : Careful (unvisited .loading) ((unvisited .loading).addSource (.memory none) true).2 :=
    .single (.addSource _ _ true)
  have hgiven : Careful (unvisited .loading) steered := hmade.tail (.act _ fun h => h.2 none rfl)
  exact ((hgiven.tail (.hold _ 1 false)).tail (.hold _ 0 false)).tail (.aside rfl rfl rfl)

/-- A tracker that begins at once is given the history source of the embedder, who then gives everything up. -/
def settled : World := ((unvisited .complete).act (.install siteConfig (some 0) 0)).abandon

lemma settled_careful : Careful (unvisited .complete) settled := by
  have hgiven : Careful (unvisited .complete) ((unvisited .complete).act (.install siteConfig (some 0) 0)) :=
    .single (.act _ fun h => h.1 rfl)
  exact (hgiven.tail (.hold _ 0 false)).tail (.aside rfl rfl rfl)

/-- A tracker has reported two page views and left its hook on the page, another waits with a source that is driven by
hand, and a third has made the embedder's source intercept the history: all of it goes with the page. -/
theorem page_released_outlived :
    (outlived.step.step.abandon.sent.length = 2 ∧ outlived.step.step.abandon.page.hook.isSome = true ∧
      ¬Relation.TransGen outlived.step.step.abandon.Refers .page .page ∧
      outlived.step.step.abandon.pageKept = false ∧ ∀ t, outlived.step.step.abandon.trackerKept t = false) ∧
    (unsteered.page.onLoad.any (LoadCallback.keepsSource · 1) = true ∧
      ¬Relation.TransGen unsteered.Refers .page .page ∧
      unsteered.pageKept = false ∧ ∀ t, unsteered.trackerKept t = false) ∧
    (settled.interception? 0).isSome = true ∧ ¬Relation.TransGen settled.Refers .page .page ∧
      settled.pageKept = false ∧ ∀ t, settled.trackerKept t = false := by
  have hgone {w₀ w : World} (h₀ : w₀.page.onLoad = []) (hcareful : Careful w₀ w) (habandoned : w.Abandoned) :
      ¬Relation.TransGen w.Refers .page .page ∧ w.pageKept = false ∧ ∀ t, w.trackerKept t = false := by
    have hrun : Relation.ReflTransGen (Passes fun _ _ => True) w₀ w := hcareful.lift id fun _ _ => Passes.weaken
    obtain ⟨hcycle,hreleased,-,hclear⟩ := page_released h₀ hrun
    obtain ⟨hpage,htrackers⟩ := hreleased habandoned
    have hfree := hclear hcareful
    refine ⟨fun h => hfree (hcycle.mp h),?_,fun t => ?_⟩
    · rw [← Bool.not_eq_true,hpage]
      exact hfree
    · rw [← Bool.not_eq_true]
      exact fun h => hfree (htrackers t h)
  refine ⟨⟨by decide +kernel,by decide +kernel,?_⟩,⟨by decide +kernel,?_⟩,by decide +kernel,?_⟩
  · exact hgone rfl outlived_careful (abandoned_of_idle (by decide +kernel) (by decide +kernel) rfl rfl)
  · exact hgone rfl unsteered_careful (abandoned_of_idle (by decide +kernel) (by decide +kernel) rfl rfl)
  · exact hgone rfl settled_careful (abandoned_of_idle (by decide +kernel) (by decide +kernel) rfl rfl)

/-- A tracker that waits for the document is given the history source of the embedder, who then gives everything up. -/
def stranded : World := ((unvisited .loading).act (.install siteConfig (some 0) 0)).abandon

/-- The page leads back to itself, and neither it nor its tracker is ever freed. -/
theorem stranded_kept : stranded.Abandoned ∧ Relation.TransGen stranded.Refers .page .page ∧
    stranded.pageKept = true ∧ stranded.trackerKept 0 = true := by
  have hwaits : ∃ t, .start t (some 0) ∈ stranded.page.onLoad := by
    have hany : stranded.page.onLoad.any (LoadCallback.keepsSource · 0) = true := by decide +kernel
    obtain ⟨c,hc,hkeeps⟩ := List.any_eq_true.mp hany
    obtain ⟨t,rfl⟩ := keepsSource_iff.mp hkeeps
    exact ⟨t,hc⟩
  obtain ⟨t,hwaits⟩ := hwaits
  have hkind : stranded.sources[0]?.map Source.isHistory = some true := by decide +kernel
  obtain ⟨x,hs,hx⟩ := Option.map_eq_some_iff.mp hkind
  exact ⟨abandoned_of_idle (by decide +kernel) (by decide +kernel) rfl rfl,
    page_cycle_iff.mpr ⟨t,0,x,hwaits,hs,hx⟩,by decide +kernel,by decide +kernel⟩

end PageTelemetry.World
