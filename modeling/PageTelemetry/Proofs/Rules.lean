import PageTelemetry.Proofs.Reports
import PageTelemetry.Proofs.Settling
import PageTelemetry.Proofs.Sources

/-! Rules about what may ever happen on a page: which operations anyone performs, which trackers may begin,
and which handlers stand where. What a page holds is all that its next step can bring about, so a world that
obeys rules goes on obeying them. -/
namespace PageTelemetry

/-- What the listener that an operation leaves on the page will do. -/
def Act.reaction : Act → List Act
  | .onLoad _ _ acts | .addPopState _ _ acts | .addLifecycle _ _ acts | .wrapHook _ _ acts _ _ => acts
  | _ => []

lemma Act.sizeOf_reaction {a b : Act} (hb : b ∈ a.reaction) : sizeOf b < sizeOf a := by
  cases a with
  | onLoad label ending acts | addPopState label ending acts | addLifecycle label ending acts
  | wrapHook label ending acts chained last =>
    have hlt : sizeOf b < sizeOf acts := List.sizeOf_lt_of_mem hb
    simp
    omega
  | push | replace | setHref | back | forward | setTitle | setWidth | hide | reveal | unload | finishLoading
  | discard | track | install | subscribe | restore | removePopState | removeLifecycle | removeHook => cases hb

/-- Where a handler stands on a page. -/
inductive Place
  | hook (id : HookId)
  | popState (id : ListenerId)
  | lifecycle (id : ListenerId)

structure Rules where
  act : Act → Prop
  start : TrackerId → Option SourceId → Prop
  place : Place → Handler → Prop

namespace Rules
variable (R : Rules)

/-- An operation that is allowed, with all that it leaves on the page. -/
inductive Allows : Act → Prop
  | intro {a : Act} (own : R.act a) (reaction : ∀ b ∈ a.reaction, Allows b) : Allows a

variable {R} in
lemma Allows.own {a : Act} (h : R.Allows a) : R.act a := by
  obtain ⟨own,-⟩ := h
  exact own

variable {R} in
/-- Where every operation may be performed, every reaction is allowed. -/
lemma allows_of_forall (h : ∀ a, R.act a) : ∀ a, R.Allows a
  | a => .intro (h a) fun b _ => allows_of_forall h b
termination_by a => sizeOf a
decreasing_by exact Act.sizeOf_reaction ‹_›

def AllowsListener (l : Listener) : Prop := ∀ a ∈ l.acts, R.Allows a

inductive AllowsHook : Hook → Prop
  | observer {id : HookId} {h : Handler} {previous : Option Hook} (own : R.place (.hook id) h)
    (rest : ∀ k ∈ previous, AllowsHook k) : AllowsHook (.observer id h previous)
  | custom {id : HookId} {l : Listener} {chained : Option Hook} {last : Bool} (own : R.AllowsListener l)
    (rest : ∀ k ∈ chained, AllowsHook k) : AllowsHook (.custom id l chained last)

def AllowsCallback (p : Place) : Callback → Prop
  | .handler h => R.place p h
  | .listener l => R.AllowsListener l

def AllowsLoad : LoadCallback → Prop
  | .start t source => R.start t source
  | .listener l => R.AllowsListener l

def AllowsTask : Task → Prop
  | .hook h _ => R.AllowsHook h
  | .relay id h _ => R.place (.hook id) h
  | .call l _ => R.AllowsListener l
  | .signal _ _ => True
  | .start t source => R.start t source
  | .act a => R.Allows a

/-- What is allowed to subscribe, and to begin, may stand anywhere; trackers that are yet to come may begin. -/
structure Sound (trackers : ℕ) : Prop where
  subscribe : ∀ {source h}, R.act (.subscribe source h) → ∀ p, R.place p h
  start : ∀ {t source}, R.start t source → ∀ p, R.place p (.tracker t)
  install : ∀ {c source outlet t}, R.act (.install c source outlet) → trackers ≤ t → R.start t source

section Weaken
variable {R R' : Rules}

lemma Allows.weaken (hact : ∀ a, R.act a → R'.act a) {a : Act} (h : R.Allows a) : R'.Allows a := by
  induction h with
  | intro own _ ih => exact .intro (hact _ own) ih

lemma AllowsListener.weaken (hact : ∀ a, R.act a → R'.act a) {l : Listener} (h : R.AllowsListener l) :
    R'.AllowsListener l := fun a ha => (h a ha).weaken hact

lemma AllowsHook.weaken (hact : ∀ a, R.act a → R'.act a)
    (hplace : ∀ id h, R.place (.hook id) h → R'.place (.hook id) h) {k : Hook} (h : R.AllowsHook k) :
    R'.AllowsHook k := by
  induction h with
  | observer own _ ih => exact .observer (hplace _ _ own) ih
  | custom own _ ih => exact .custom (own.weaken hact) ih

lemma AllowsCallback.weaken (hact : ∀ a, R.act a → R'.act a) {p : Place}
    (hplace : ∀ h, R.place p h → R'.place p h) {c : Callback} (h : R.AllowsCallback p c) :
    R'.AllowsCallback p c := by
  cases c with
  | handler hd => exact hplace hd h
  | listener l => exact AllowsListener.weaken hact h

lemma AllowsLoad.weaken (hact : ∀ a, R.act a → R'.act a) (hstart : ∀ t s, R.start t s → R'.start t s)
    {c : LoadCallback} (h : R.AllowsLoad c) : R'.AllowsLoad c := by
  cases c with
  | start t source => exact hstart t source h
  | listener l => exact AllowsListener.weaken hact h

lemma AllowsTask.weaken (hact : ∀ a, R.act a → R'.act a) (hstart : ∀ t s, R.start t s → R'.start t s)
    (hplace : ∀ id h, R.place (.hook id) h → R'.place (.hook id) h) {t : Task} (h : R.AllowsTask t) :
    R'.AllowsTask t := by
  cases t with
  | hook k kind => exact AllowsHook.weaken hact hplace h
  | relay id hd kind => exact hplace id hd h
  | call l o => exact AllowsListener.weaken hact h
  | signal hd s => trivial
  | start t source => exact hstart t source h
  | act a => exact Allows.weaken hact h

end Weaken

end Rules

namespace World
variable {R : Rules} {w w' : World}

/-- Everything that stands on the page, waits on the agenda or can be put back obeys the rules. -/
structure Obeys (R : Rules) (w : World) : Prop where
  hook : ∀ k ∈ w.page.hook, R.AllowsHook k
  popState : ∀ e ∈ w.page.popState, R.AllowsCallback (.popState e.1) e.2
  lifecycle : ∀ e ∈ w.page.lifecycle, R.AllowsCallback (.lifecycle e.1) e.2
  onLoad : ∀ c ∈ w.page.onLoad, R.AllowsLoad c
  agenda : ∀ t ∈ w.agenda, R.AllowsTask t
  previous : ∀ s i, w.interception? s = some i → ∀ k ∈ i.previous, R.AllowsHook k

lemma Obeys.enqueue (h : w.Obeys R) {tasks : List Task} (ht : ∀ t ∈ tasks, R.AllowsTask t) :
    (w.enqueue tasks).Obeys R := by
  refine ⟨h.hook,h.popState,h.lifecycle,h.onLoad,?_,h.previous⟩
  intro t hmem
  rcases List.mem_append.mp hmem with hnew | hold
  · exact ht t hnew
  · exact h.agenda t hold

/-- Nothing counts but what waits and whom it may come to call. -/
lemma Obeys.of_same (h : w.Obeys R) (hhook : w'.page.hook = w.page.hook := by rfl)
    (hpop : w'.page.popState = w.page.popState := by rfl) (hlife : w'.page.lifecycle = w.page.lifecycle := by rfl)
    (hload : w'.page.onLoad = w.page.onLoad := by rfl) (hagenda : w'.agenda = w.agenda := by rfl)
    (hsources : w'.sources = w.sources := by rfl) : w'.Obeys R := by
  have hinterceptions (s : SourceId) : w'.interception? s = w.interception? s := by
    simp only [interception?,sourceKind?,hsources]
  refine ⟨hhook ▸ h.hook,hpop ▸ h.popState,hlife ▸ h.lifecycle,hload ▸ h.onLoad,hagenda ▸ h.agenda,fun s i hi => ?_⟩
  exact h.previous s i ((hinterceptions s).symm.trans hi)

lemma Obeys.reported (h : w.Obeys R) (hr : w.Reported w') : w'.Obeys R := by
  obtain ⟨_,_,_,-,rfl⟩ := hr
  exact h.of_same

/-- Rules that ask for less, and for no more of the handlers that are there. -/
lemma Obeys.weaken {R' : Rules} (h : w.Obeys R) (hact : ∀ a, R.act a → R'.act a)
    (hstart : ∀ t s, R.start t s → R'.start t s)
    (hhook : ∀ id hd, R.place (.hook id) hd → R'.place (.hook id) hd)
    (hpop : ∀ e ∈ w.page.popState, ∀ hd, R.place (.popState e.1) hd → R'.place (.popState e.1) hd)
    (hlife : ∀ e ∈ w.page.lifecycle, ∀ hd, R.place (.lifecycle e.1) hd → R'.place (.lifecycle e.1) hd) :
    w.Obeys R' :=
  ⟨fun k hk => (h.hook k hk).weaken hact hhook,
    fun e he => (h.popState e he).weaken hact (hpop e he),
    fun e he => (h.lifecycle e he).weaken hact (hlife e he),
    fun c hc => (h.onLoad c hc).weaken hact hstart,
    fun t ht => (h.agenda t ht).weaken hact hstart hhook,
    fun s i hi k hk => (h.previous s i hi k hk).weaken hact hhook⟩

lemma Obeys.intercepted (h : w.Obeys R) {source : SourceId}
    (hs : w.sourceKind? source = some (.history none)) {hd : Handler}
    (hhook : R.place (.hook (w.lastHook+1)) hd) (hpop : R.place (.popState (w.page.lastListener+1)) hd)
    (hlife : R.place (.lifecycle (w.page.lastListener+2)) hd) : (w.intercepted source hd).Obeys R := by
  refine ⟨?_,?_,?_,h.onLoad,h.agenda,?_⟩
  · rintro _ ⟨⟩
    exact .observer hhook h.hook
  · intro e he
    rcases List.mem_append.mp he with hold | hnew
    · exact h.popState e hold
    · obtain rfl := List.mem_singleton.mp hnew
      exact hpop
  · intro e he
    rcases List.mem_append.mp he with hold | hnew
    · exact h.lifecycle e hold
    · obtain rfl := List.mem_singleton.mp hnew
      exact hlife
  · intro s i hi
    rw [interception?_intercepted hs] at hi
    split_ifs at hi
    · obtain rfl := Option.some.inj hi
      exact h.hook
    · exact h.previous s i hi

lemma Obeys.subscribe (h : w.Obeys R) {hd : Handler} (hp : ∀ p, R.place p hd) (source : SourceId) :
    (w.subscribe source hd).2.Obeys R := by
  rcases w.subscribe_cases source hd with ⟨hs,e⟩ | ⟨hs,e⟩ | e
  · rw [e]
    exact h.intercepted hs (hp _) (hp _) (hp _)
  · rw [e]
    refine ⟨h.hook,h.popState,h.lifecycle,h.onLoad,h.agenda,?_⟩
    intro s i hi
    rw [interception?_setSource_memory hs] at hi
    exact h.previous s i hi
  · rw [e]
    exact h

lemma Obeys.restore (h : w.Obeys R) (source : SourceId) : (w.restore source).2.Obeys R := by
  cases hi : w.interception? source with
  | none =>
    rw [restore_free hi]
    exact h
  | some i =>
    rw [restore_installed hi]
    have hpage : (w.restored source i).page = w.restoredPage i := rfl
    rw [w.restoredPage_eq i] at hpage
    refine ⟨?_,?_,?_,?_,h.agenda,?_⟩
    · rw [hpage]
      rcases w.restoredPage_hook i with ⟨e,-⟩ | ⟨e,-⟩ <;> simp only [e]
      · exact h.previous source i hi
      · exact h.hook
    · rw [hpage]
      exact fun e he => h.popState e (List.mem_filter.mp he).1
    · rw [hpage]
      exact fun e he => h.lifecycle e (List.mem_filter.mp he).1
    · rw [hpage]
      exact h.onLoad
    · intro s j hj
      rw [interception?_restored hi] at hj
      split_ifs at hj
      exact h.previous s j hj

lemma Obeys.start (h : w.Obeys R) {t : TrackerId} {source : Option SourceId}
    (hp : ∀ p, R.place p (.tracker t)) : (w.start t source).Obeys R := by
  refine start_invariant (h.reported (w.report_reported t _)) ?_ (fun u s hu => hu.subscribe hp s) source
  intro u hu
  refine ⟨hu.hook,hu.popState,hu.lifecycle,hu.onLoad,hu.agenda,fun s i hi => ?_⟩
  rw [interception?_addSource _ (by simp)] at hi
  exact hu.previous s i hi

lemma Obeys.await (h : w.Obeys R) {t : TrackerId} {source : Option SourceId} (hs : R.start t source) :
    (w.await t source).Obeys R := by
  refine ⟨h.hook,h.popState,h.lifecycle,?_,h.agenda,h.previous⟩
  intro c hc
  rcases List.mem_append.mp hc with hold | hnew
  · exact h.onLoad c hold
  · obtain rfl := List.mem_singleton.mp hnew
    exact hs

lemma Obeys.install (h : w.Obeys R) (hR : R.Sound w.trackers.length) {c : Config}
    {source : Option SourceId} {outlet : OutletId} (ha : R.act (.install c source outlet)) :
    (w.install c source outlet).2.Obeys R := by
  have hs : R.start w.trackers.length source := hR.install ha le_rfl
  have henroll (st : Settings) : (w.enroll st outlet).Obeys R := h.of_same
  rcases w.install_cases c source outlet with e | ⟨-,st,e | e⟩
  · rw [e]
    exact h
  · rw [e]
    exact (henroll st).start (hR.start hs)
  · rw [e]
    exact (henroll st).await hs

lemma Obeys.hookTasks (h : w.Obeys R) (kind : NavigationKind) :
    ∀ t ∈ hookTasks w.page kind, R.AllowsTask t := by
  intro t ht
  obtain ⟨k,hk,rfl⟩ : ∃ k, w.page.hook = some k ∧ Task.hook k kind = t := by
    simpa [World.hookTasks] using ht
  exact h.hook k hk

lemma Obeys.moveTo (h : w.Obeys R) (target : Option History) : (w.moveTo target).2.Obeys R := by
  cases target with
  | none => exact h
  | some target =>
    refine Obeys.enqueue (w := w.modifyPage fun p => { p with history := target }) h.of_same ?_
    intro t ht
    obtain ⟨⟨id,c⟩,he,rfl⟩ := List.mem_map.mp ht
    cases c with
    | handler hd => trivial
    | listener l => exact h.popState _ he

lemma Obeys.dispatch (h : w.Obeys R) (e : LifecycleEvent) : (w.dispatch e).Obeys R := by
  refine h.enqueue ?_
  intro t ht
  obtain ⟨⟨id,c⟩,he,rfl⟩ := List.mem_map.mp ht
  cases c with
  | handler hd => trivial
  | listener l => exact h.lifecycle _ he

lemma Obeys.finishLoading (h : w.Obeys R) : w.finishLoading.Obeys R := by
  simp only [World.finishLoading]
  split_ifs
  · exact h
  · refine Obeys.enqueue (w := w.modifyPage fun p => { p with ready := .complete, onLoad := [] })
      ⟨h.hook,h.popState,h.lifecycle,by simp [modifyPage],h.agenda,h.previous⟩ ?_
    intro t ht
    obtain ⟨c,hc,rfl⟩ := List.mem_map.mp ht
    cases c with
    | start id source => exact h.onLoad _ hc
    | listener l => exact h.onLoad _ hc

/-- An allowed operation keeps the rules, unless it brings a handler that does not. -/
theorem Obeys.act_of (h : w.Obeys R) {a : Act} (ha : R.Allows a)
    (hsubscribe : ∀ source hd, a = .subscribe source hd → (w.subscribe source hd).2.Obeys R)
    (hinstall : ∀ c source outlet, a = .install c source outlet → (w.install c source outlet).2.Obeys R) :
    (w.act a).Obeys R := by
  obtain ⟨own,reaction⟩ := ha
  cases a with
  | push url =>
    have hmoved : (w.modifyPage fun p => { p with history := p.history.push (p.resolve url) }).Obeys R := h.of_same
    exact hmoved.enqueue (hmoved.hookTasks _)
  | replace url =>
    have hmoved : (w.modifyPage fun p => { p with history := p.history.replace (p.resolve url) }).Obeys R := h.of_same
    exact hmoved.enqueue (hmoved.hookTasks _)
  | setHref | setTitle | setWidth | reveal => exact h.of_same
  | back => exact h.moveTo _
  | forward => exact h.moveTo _
  | hide =>
    have hhidden : (w.modifyPage fun p => { p with visibility := .hidden }).Obeys R := h.of_same
    simp only [World.act,World.hide]
    split_ifs
    · exact hhidden.dispatch .hidden
    · exact hhidden
  | unload => exact h.dispatch .unload
  | finishLoading => exact h.finishLoading
  | discard =>
    exact ⟨by simp [World.act,World.discard,modifyPage,Page.discard],
      by simp [World.act,World.discard,modifyPage,Page.discard],
      by simp [World.act,World.discard,modifyPage,Page.discard],
      by simp [World.act,World.discard,modifyPage,Page.discard],h.agenda,h.previous⟩
  | track name =>
    simp only [World.act,trackExposed]
    split
    · exact h
    · exact h.reported (w.report_reported _ _)
  | install c source outlet => exact hinstall c source outlet rfl
  | subscribe source hd => exact hsubscribe source hd rfl
  | restore source => exact h.restore source
  | onLoad label ending acts =>
    simp only [World.act,World.onLoad]
    split_ifs
    · refine h.enqueue ?_
      intro t ht
      obtain rfl := List.mem_singleton.mp ht
      exact reaction
    · refine ⟨h.hook,h.popState,h.lifecycle,?_,h.agenda,h.previous⟩
      intro e he
      rcases List.mem_append.mp he with hold | hnew
      · exact h.onLoad e hold
      · obtain rfl := List.mem_singleton.mp hnew
        exact reaction
  | addPopState label ending acts =>
    refine ⟨h.hook,?_,h.lifecycle,h.onLoad,h.agenda,h.previous⟩
    intro e he
    rcases List.mem_append.mp he with hold | hnew
    · exact h.popState e hold
    · obtain rfl := List.mem_singleton.mp hnew
      exact reaction
  | addLifecycle label ending acts =>
    refine ⟨h.hook,h.popState,?_,h.onLoad,h.agenda,h.previous⟩
    intro e he
    rcases List.mem_append.mp he with hold | hnew
    · exact h.lifecycle e hold
    · obtain rfl := List.mem_singleton.mp hnew
      exact reaction
  | removePopState id =>
    exact ⟨h.hook,fun e he => h.popState e (List.mem_filter.mp he).1,h.lifecycle,h.onLoad,h.agenda,h.previous⟩
  | removeLifecycle id =>
    exact ⟨h.hook,h.popState,fun e he => h.lifecycle e (List.mem_filter.mp he).1,h.onLoad,h.agenda,h.previous⟩
  | wrapHook label ending acts chained last =>
    refine ⟨?_,h.popState,h.lifecycle,h.onLoad,h.agenda,h.previous⟩
    rintro _ ⟨⟩
    refine .custom reaction ?_
    split_ifs
    · exact h.hook
    · simp
  | removeHook =>
    exact ⟨by simp [World.act,World.removeHook,modifyPage],h.popState,h.lifecycle,h.onLoad,h.agenda,h.previous⟩

theorem Obeys.act (h : w.Obeys R) (hR : R.Sound w.trackers.length) {a : Act} (ha : R.Allows a) :
    (w.act a).Obeys R := by
  refine h.act_of ha ?_ ?_
  · rintro source hd rfl
    exact h.subscribe (hR.subscribe ha.own) source
  · rintro c source outlet rfl
    exact h.install hR ha.own

lemma Obeys.callHook (h : w.Obeys R) {k : Hook} (hk : R.AllowsHook k) (kind : NavigationKind) :
    (w.callHook kind k).Obeys R := by
  have hinner {rest : Option Hook} (hrest : ∀ k ∈ rest, R.AllowsHook k) :
      ∀ t ∈ (rest.map (Task.hook · kind)).toList, R.AllowsTask t := by
    intro t ht
    obtain ⟨k,hk,rfl⟩ : ∃ k, rest = some k ∧ Task.hook k kind = t := by simpa using ht
    exact hrest k hk
  cases hk with
  | observer own rest =>
    refine h.enqueue ?_
    intro t ht
    rcases List.mem_append.mp ht with hold | hnew
    · exact hinner rest t hold
    · obtain rfl := List.mem_singleton.mp hnew
      exact own
  | @custom id l chained last own rest =>
    refine h.enqueue ?_
    cases last with
    | true =>
      intro t ht
      rcases List.mem_append.mp ht with hold | hnew
      · exact hinner rest t hold
      · obtain rfl := List.mem_singleton.mp hnew
        exact own
    | false =>
      intro t ht
      rcases List.mem_cons.mp ht with rfl | hold
      · exact own
      · exact hinner rest t hold

lemma Obeys.call (h : w.Obeys R) {l : Listener} (hl : R.AllowsListener l) (o : Occasion) :
    (w.call l o).Obeys R := by
  have hnoted : (w.note (.heard l.label o w.ambient.href)).Obeys R := h.reported ⟨_,_,_,rfl,rfl⟩
  simp only [World.call]
  split_ifs
  · refine hnoted.enqueue ?_
    intro t ht
    obtain ⟨a,ha,rfl⟩ := List.mem_map.mp ht
    exact hl a ha
  · exact hnoted

lemma Obeys.perform (h : w.Obeys R) (hR : R.Sound w.trackers.length) {t : Task} (ht : R.AllowsTask t) :
    (w.perform t).Obeys R := by
  cases t with
  | hook k kind => exact h.callHook ht kind
  | relay id hd kind =>
    simp only [World.perform]
    split_ifs
    · exact h.reported (w.signal_reported hd _)
    · exact h
  | call l o => exact h.call ht o
  | signal hd s => exact h.reported (w.signal_reported hd s)
  | start t source => exact h.start (hR.start ht)
  | act a => exact h.act hR ht

/-- One step keeps the rules. -/
theorem Obeys.step (h : w.Obeys R) (hR : R.Sound w.trackers.length) : w.step.Obeys R := by
  cases hagenda : w.agenda with
  | nil => rwa [step_of_agenda_nil hagenda]
  | cons t rest =>
    rw [step_of_agenda_cons hagenda]
    have hagenda' := h.agenda
    rw [hagenda] at hagenda'
    exact Obeys.perform (w := { w with agenda := rest })
      ⟨h.hook,h.popState,h.lifecycle,h.onLoad,fun t ht => hagenda' t (List.mem_cons_of_mem _ ht),h.previous⟩ hR
      (hagenda' t List.mem_cons_self)

end World
end PageTelemetry
