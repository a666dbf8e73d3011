import PageTelemetry.Proofs.Agenda
import PageTelemetry.Proofs.Patching.Quiet

/-! Trackers that observe a page. Where everyone who puts a hook on the page chains the one before it, and nobody
takes anything away, a tracker that has been installed begins once the document is complete, and its hook stays
within reach from then on. -/
namespace PageTelemetry

/-- Whether an operation leaves hooks and listeners where they are, and never moves the page without telling. -/
def Act.isChaining : Act → Bool
  | .wrapHook _ _ _ chained _ => chained
  | .setHref _ | .discard | .install _ _ _ | .restore _ | .removePopState _ | .removeHook => false
  | _ => true

/-- Only such operations are performed. -/
def Rules.chaining : Rules where
  act a := a.isChaining = true
  start _ _ := True
  place _ _ := True

lemma Rules.chaining_sound (n : ℕ) : Rules.chaining.Sound n :=
  ⟨fun _ _ => trivial,fun _ _ => trivial,fun _ _ => trivial⟩

/-- A hook calls that of a source, itself or through those that it chains. -/
inductive Hook.Reaches (id : HookId) (h : Handler) : Hook → Prop
  | own {previous : Option Hook} : Reaches id h (.observer id h previous)
  | observer {other : HookId} {hd : Handler} {previous : Hook} (rest : Reaches id h previous) :
    Reaches id h (.observer other hd (some previous))
  | custom {other : HookId} {l : Listener} {inner : Hook} {last : Bool} (rest : Reaches id h inner) :
    Reaches id h (.custom other l (some inner) last)

namespace World
variable {w w' : World} {t : TrackerId} {k : HookId}

/-- A tracker that was installed on a page that the embedder keeps. -/
structure Exposed (t : TrackerId) (w : World) : Prop where
  held : w.pageHeld = true
  global : ∃ name, (name,t) ∈ w.page.globals
  tracker : t < w.trackers.length

/-- A tracker observes the page through a hook with this id. -/
structure Watched (k : HookId) (t : TrackerId) (w : World) : Prop where
  hook : ∃ o, w.page.hook = some o ∧ o.Reaches k (.tracker t)
  active : w.hookActive k = true
  popState : ∃ id, (id,.handler (.tracker t)) ∈ w.page.popState

/-- A tracker is about to begin, or will once the document is complete. -/
def Begins (t : TrackerId) (w : World) : Prop :=
  .start t none ∈ w.agenda ∨ w.page.ready ≠ .complete ∧ .start t none ∈ w.page.onLoad

lemma pageKept_held (h : w.pageHeld = true) : w.pageKept = true := by
  simp [pageKept,h]

lemma Exposed.trackerKept (h : w.Exposed t) : w.trackerKept t = true := by
  obtain ⟨name,hname⟩ := h.global
  have hglobal : w.page.globals.any (·.2 == t) = true := List.any_eq_true.mpr ⟨_,hname,by simp⟩
  simp [World.trackerKept,pageKept_held h.held,hglobal]

/-! Trackers that were installed stay. -/

lemma Exposed.of_same (h : w.Exposed t) (hheld : w'.pageHeld = w.pageHeld)
    (hglobals : w'.page.globals = w.page.globals) (htrackers : w'.trackers.length = w.trackers.length) :
    w'.Exposed t :=
  ⟨hheld.trans h.held,by rw [hglobals]; exact h.global,by rw [htrackers]; exact h.tracker⟩

lemma Exposed.reported (h : w.Exposed t) (hr : w.Reported w') : w'.Exposed t := by
  obtain ⟨_,_,_,hl,rfl⟩ := hr
  exact h.of_same rfl rfl hl

lemma Exposed.subscribe (h : w.Exposed t) (s : SourceId) (hd : Handler) : (w.subscribe s hd).2.Exposed t := by
  rcases w.subscribe_cases s hd with ⟨-,e⟩ | ⟨-,e⟩ | e <;> rw [e] <;> exact ⟨h.held,h.global,h.tracker⟩

lemma Exposed.start (h : w.Exposed t) (id : TrackerId) (source : Option SourceId) :
    (w.start id source).Exposed t := by
  refine start_invariant (h.reported (w.report_reported id _)) ?_ ?_ source
  · exact fun u hu => ⟨hu.held,hu.global,hu.tracker⟩
  · exact fun u s hu => hu.subscribe s _

lemma Exposed.moveTo (h : w.Exposed t) (target : Option History) : (w.moveTo target).2.Exposed t := by
  cases target <;> exact ⟨h.held,h.global,h.tracker⟩

lemma Exposed.act (h : w.Exposed t) {a : Act} (ha : a.isChaining = true) : (w.act a).Exposed t := by
  cases a with
  | push | replace | setTitle | setWidth | reveal | unload | addPopState | addLifecycle | removeLifecycle
  | wrapHook => exact ⟨h.held,h.global,h.tracker⟩
  | back => exact h.moveTo _
  | forward => exact h.moveTo _
  | hide =>
    simp only [World.act,World.hide]
    split_ifs <;> exact ⟨h.held,h.global,h.tracker⟩
  | finishLoading =>
    simp only [World.act,World.finishLoading]
    split_ifs <;> exact ⟨h.held,h.global,h.tracker⟩
  | track name =>
    simp only [World.act,trackExposed]
    split
    · exact h
    · exact h.reported (w.report_reported _ _)
  | onLoad label ending acts =>
    simp only [World.act,World.onLoad]
    split_ifs <;> exact ⟨h.held,h.global,h.tracker⟩
  | subscribe s hd => exact h.subscribe s hd
  | setHref | discard | install | restore | removePopState | removeHook => cases ha

lemma Exposed.perform (h : w.Exposed t) {task : Task} (ht : Rules.chaining.AllowsTask task) :
    (w.perform task).Exposed t := by
  refine perform_invariant h (fun _ _ hu hr => hu.reported hr) ?_ ?_ ?_
  · exact fun u tasks hu => ⟨hu.held,hu.global,hu.tracker⟩
  · exact fun id source _ => h.start id source
  · rintro a rfl
    exact h.act ht.own

/-! Their hooks stay within reach. -/

lemma Watched.same (h : w.Watched k t) (hsame : w.SameRegistrations w') : w'.Watched k t :=
  ⟨by rw [hsame.hook]; exact h.hook,by rw [hsame.hookActive]; exact h.active,
    by rw [hsame.popState]; exact h.popState⟩

lemma hookActive_intercepted {s : SourceId} (hs : w.sourceKind? s = some (.history none)) (hd : Handler)
    (h : w.hookActive k = true) : (w.intercepted s hd).hookActive k = true := by
  obtain ⟨r,i,hi,hik⟩ := (w.hookActive_iff k).mp h
  refine (hookActive_iff _ k).mpr ⟨r,i,?_,hik⟩
  rw [interception?_intercepted hs,if_neg,hi]
  rintro rfl
  rw [interception?_of_sourceKind? hs] at hi
  cases hi

/-- A source that comes later chains the hook. -/
lemma Watched.subscribe (h : w.Watched k t) (s : SourceId) (hd : Handler) : (w.subscribe s hd).2.Watched k t := by
  rcases w.subscribe_cases s hd with ⟨hs,e⟩ | ⟨hs,e⟩ | e
  · rw [e]
    obtain ⟨o,ho,hreach⟩ := h.hook
    obtain ⟨id,hid⟩ := h.popState
    refine ⟨⟨(w.intercept hd).hook,rfl,?_⟩,hookActive_intercepted hs hd h.active,
      ⟨id,List.mem_append_left _ hid⟩⟩
    rw [intercept,ho]
    exact .observer hreach
  · rw [e]
    refine ⟨h.hook,?_,h.popState⟩
    rw [hookActive_congr (interception?_setSource_memory hs _)]
    exact h.active
  · rw [e]
    exact h

lemma Watched.addSource (h : w.Watched k t) {kind : SourceKind} (hfree : ∀ i, kind ≠ .history (some i))
    (held : Bool) : (w.addSource kind held).2.Watched k t := by
  refine ⟨h.hook,?_,h.popState⟩
  rw [hookActive_congr (interception?_addSource w hfree held)]
  exact h.active

lemma Watched.reported (h : w.Watched k t) (hr : w.Reported w') : w'.Watched k t :=
  h.same hr.sameRegistrations

lemma Watched.start (h : w.Watched k t) (id : TrackerId) (source : Option SourceId) :
    (w.start id source).Watched k t := by
  refine start_invariant (h.reported (w.report_reported id _)) ?_ ?_ source
  · exact fun u hu => hu.addSource (by simp) false
  · exact fun u s hu => hu.subscribe s _

lemma Watched.act (h : w.Watched k t) {a : Act} (ha : a.isChaining = true) : (w.act a).Watched k t := by
  by_cases hquiet : a.isQuiet = true
  · exact h.same (w.act_sameRegistrations hquiet)
  · cases a with
    | subscribe s hd => exact h.subscribe s hd
    | addPopState label ending acts =>
      obtain ⟨id,hid⟩ := h.popState
      exact ⟨h.hook,h.active,⟨id,List.mem_append_left _ hid⟩⟩
    | addLifecycle | removeLifecycle => exact ⟨h.hook,h.active,h.popState⟩
    | wrapHook label ending acts chained last =>
      obtain ⟨o,ho,hreach⟩ := h.hook
      obtain rfl : chained = true := ha
      refine ⟨⟨_,rfl,?_⟩,h.active,h.popState⟩
      rw [if_pos rfl,ho]
      exact .custom hreach
    | setHref | discard | install | restore | removePopState | removeHook => cases ha
    | push | replace | back | forward | setTitle | setWidth | hide | reveal | unload | finishLoading | track
    | onLoad => exact absurd rfl hquiet

lemma Watched.perform (h : w.Watched k t) {task : Task} (ht : Rules.chaining.AllowsTask task) :
    (w.perform task).Watched k t := by
  refine perform_invariant h (fun _ _ hu hr => hu.reported hr) ?_ ?_ ?_
  · exact fun u tasks hu => ⟨hu.hook,hu.active,hu.popState⟩
  · exact fun id source _ => h.start id source
  · rintro a rfl
    exact h.act ht.own

/-- A tracker that begins without a source observes the page. -/
theorem Exposed.start_watched (h : w.Exposed t) : ∃ k, (w.start t none).Watched k t := by
  have hview : (w.trackPageView t).2.Exposed t := h.reported (w.report_reported t _)
  have hstart := start_default (pageKept_held hview.held)
  refine ⟨(w.trackPageView t).2.lastHook+1,?_⟩
  rw [hstart]
  refine ⟨⟨_,rfl,.own⟩,?_,⟨_,List.mem_append_right _ List.mem_cons_self⟩⟩
  simp [hookActive,Source.hasHook,intercept,Hook.id]

/-! Until then a tracker that was installed is about to begin. -/

lemma Begins.of_same (h : w.Begins t) (hagenda : ∃ new, w'.agenda = new ++ w.agenda)
    (hready : w'.page.ready = w.page.ready) (honLoad : ∀ c ∈ w.page.onLoad, c ∈ w'.page.onLoad) :
    w'.Begins t := by
  rcases h with hmem | ⟨hloading,hmem⟩
  · obtain ⟨new,he⟩ := hagenda
    rw [Begins,he]
    exact .inl (List.mem_append_right _ hmem)
  · exact .inr ⟨by rwa [hready],honLoad _ hmem⟩

lemma Begins.reported (h : w.Begins t) (hr : w.Reported w') : w'.Begins t := by
  obtain ⟨_,_,_,-,rfl⟩ := hr
  exact h

lemma Begins.subscribe (h : w.Begins t) (s : SourceId) (hd : Handler) : (w.subscribe s hd).2.Begins t := by
  rcases w.subscribe_cases s hd with ⟨-,e⟩ | ⟨-,e⟩ | e <;> rw [e] <;> exact h

lemma Begins.start (h : w.Begins t) (id : TrackerId) (source : Option SourceId) : (w.start id source).Begins t := by
  refine start_invariant (h.reported (w.report_reported id _)) ?_ ?_ source
  · exact fun u hu => hu
  · exact fun u s hu => hu.subscribe s _

lemma Begins.moveTo (h : w.Begins t) (target : Option History) : (w.moveTo target).2.Begins t := by
  cases target with
  | none => exact h
  | some target => exact h.of_same ⟨_,rfl⟩ rfl fun _ hc => hc

lemma Begins.act (h : w.Begins t) {a : Act} (ha : a.isChaining = true) : (w.act a).Begins t := by
  have hagenda : ∃ new, (w.act a).agenda = new ++ w.agenda := by
    obtain ⟨new,he,-⟩ := w.act_agenda a
    exact ⟨new,he⟩
  cases a with
  | push | replace | setTitle | setWidth | reveal | unload | addPopState | addLifecycle | removeLifecycle
  | wrapHook => exact h.of_same hagenda rfl fun _ hc => hc
  | back => exact h.moveTo _
  | forward => exact h.moveTo _
  | hide =>
    simp only [World.act,World.hide] at hagenda ⊢
    split_ifs at hagenda ⊢ <;> exact h.of_same hagenda rfl fun _ hc => hc
  | finishLoading =>
    rcases h with hmem | ⟨hloading,hmem⟩
    · obtain ⟨new,he⟩ := hagenda
      exact .inl (by rw [he]; exact List.mem_append_right _ hmem)
    · simp only [World.act,World.finishLoading,if_neg hloading]
      exact .inl (List.mem_append_left _ (List.mem_map.mpr ⟨_,hmem,rfl⟩))
  | track name =>
    simp only [World.act,trackExposed]
    split
    · exact h
    · exact h.reported (w.report_reported _ _)
  | onLoad label ending acts =>
    simp only [World.act,World.onLoad] at hagenda ⊢
    split_ifs at hagenda ⊢
    · exact h.of_same hagenda rfl fun _ hc => hc
    · exact h.of_same hagenda rfl fun _ hc => List.mem_append_left _ hc
  | subscribe s hd => exact h.subscribe s hd
  | setHref | discard | install | restore | removePopState | removeHook => cases ha

lemma Begins.perform (h : w.Begins t) {task : Task} (ht : Rules.chaining.AllowsTask task) :
    (w.perform task).Begins t := by
  refine perform_invariant h (fun _ _ hu hr => hu.reported hr) ?_ ?_ ?_
  · exact fun u tasks hu => hu.of_same ⟨tasks,rfl⟩ rfl fun _ hc => hc
  · exact fun id source _ => h.start id source
  · rintro a rfl
    exact h.act ht.own

/-- A tracker that was installed on a page where everyone chains: it observes the page, or is about to begin. -/
structure Observed (t : TrackerId) (w : World) : Prop where
  obeys : w.Obeys Rules.chaining
  exposed : w.Exposed t
  observing : w.Begins t ∨ ∃ k, w.Watched k t

theorem Observed.step (h : w.Observed t) : w.step.Observed t := by
  cases hagenda : w.agenda with
  | nil => rwa [step_of_agenda_nil hagenda]
  | cons task rest =>
    have hobeys := h.obeys.step (Rules.chaining_sound _)
    have ht := h.obeys.agenda task (by rw [hagenda]; exact List.mem_cons_self)
    rw [step_of_agenda_cons hagenda] at hobeys ⊢
    have hexposed : ({ w with agenda := rest } : World).Exposed t :=
      ⟨h.exposed.held,h.exposed.global,h.exposed.tracker⟩
    refine ⟨hobeys,hexposed.perform ht,?_⟩
    rcases h.observing with (hmem | hload) | ⟨k,hk⟩
    · rw [hagenda] at hmem
      rcases List.mem_cons.mp hmem with rfl | hmem
      · exact .inr hexposed.start_watched
      · exact .inl (Begins.perform (w := { w with agenda := rest }) (.inl hmem) ht)
    · exact .inl (Begins.perform (w := { w with agenda := rest }) (.inr hload) ht)
    · exact .inr ⟨k,Watched.perform (w := { w with agenda := rest }) ⟨hk.hook,hk.active,hk.popState⟩ ht⟩

/-- What may happen on such a page at any time; whoever has the page may also move it without telling. -/
def Tolerates (a : Act) : Prop := Rules.chaining.Allows a ∨ ∃ url, a = .setHref url

theorem Observed.act (h : w.Observed t) {a : Act} (ha : Tolerates a) : (w.act a).Observed t := by
  rcases ha with ha | ⟨url,rfl⟩
  · refine ⟨h.obeys.act (Rules.chaining_sound _) ha,h.exposed.act ha.own,h.observing.imp ?_ ?_⟩
    · exact fun hbegins => hbegins.act ha.own
    · exact Exists.imp fun _ hk => hk.act ha.own
  · refine ⟨h.obeys.of_same,⟨h.exposed.held,h.exposed.global,h.exposed.tracker⟩,h.observing.imp_right ?_⟩
    exact Exists.imp fun _ hk => ⟨hk.hook,hk.active,hk.popState⟩

lemma Watched.hold (h : w.Watched k t) (id : SourceId) (held : Bool) :
    ({ w with sources := w.sources.modify id fun x => { x with held := held } } : World).Watched k t := by
  refine ⟨h.hook,?_,h.popState⟩
  rw [hookActive_congr (interception?_hold w id held)]
  exact h.active

theorem Observed.happens (h : w.Observed t) (hw : Happens Tolerates w w') (hheld : w'.pageHeld = true) :
    w'.Observed t := by
  have hobeys : w'.Obeys Rules.chaining :=
    h.obeys.happens (Rules.chaining_sound _) (fun a ha => (h.act ha).obeys) hw
  cases hw with
  | step => exact h.step
  | act ha => exact h.act ha
  | report hr =>
    refine ⟨hobeys,h.exposed.reported hr,h.observing.imp ?_ ?_⟩
    · exact fun hbegins => hbegins.reported hr
    · exact Exists.imp fun _ hk => hk.reported hr
  | keep =>
    refine ⟨hobeys,⟨hheld,h.exposed.global,h.exposed.tracker⟩,h.observing.imp_right ?_⟩
    exact Exists.imp fun _ hk => ⟨hk.hook,hk.active,hk.popState⟩
  | hold id held =>
    refine ⟨hobeys,⟨hheld,h.exposed.global,h.exposed.tracker⟩,h.observing.imp_right ?_⟩
    exact Exists.imp fun _ hk => hk.hold id held
  | addTracker s outlet =>
    have htracker : t < (w.addTracker s outlet).2.trackers.length :=
      h.exposed.tracker.trans_le (by simp [addTracker])
    refine ⟨hobeys,⟨hheld,h.exposed.global,htracker⟩,h.observing.imp_right ?_⟩
    exact Exists.imp fun _ hk => ⟨hk.hook,hk.active,hk.popState⟩
  | addSource hfree held =>
    refine ⟨hobeys,⟨hheld,h.exposed.global,h.exposed.tracker⟩,h.observing.imp_right ?_⟩
    exact Exists.imp fun _ hk => hk.addSource hfree held

/-- A tracker that is installed without a source. -/
theorem install_observed (h : w.Obeys Rules.chaining) (hheld : w.pageHeld = true)
    (hnew : w.page.global? Page.namespaceName = none) {c : Config} {outlet : OutletId}
    (hinstall : w.install c none outlet = (some t,w')) : w'.Observed t := by
  simp only [install,hnew] at hinstall
  split_ifs at hinstall with henabled
  · cases hinstall
  cases hresolve : c.resolve with
  | error e =>
    rw [hresolve] at hinstall
    cases hinstall
  | ok s =>
    rw [hresolve] at hinstall
    dsimp only at hinstall
    have hadd : ((w.addTracker s outlet).2.modifyPage
        (·.expose Page.namespaceName w.trackers.length)).Obeys Rules.chaining := h.of_same
    have hexposed : ((w.addTracker s outlet).2.modifyPage
        (·.expose Page.namespaceName w.trackers.length)).Exposed w.trackers.length :=
      ⟨hheld,⟨_,List.mem_cons_self⟩,by simp [addTracker,modifyPage]⟩
    split_ifs at hinstall with hready
    · obtain ⟨ht,rfl⟩ := Prod.mk.inj hinstall
      obtain rfl := Option.some.inj ht
      exact ⟨hadd.start fun _ => trivial,hexposed.start _ _,.inr hexposed.start_watched⟩
    · obtain ⟨ht,rfl⟩ := Prod.mk.inj hinstall
      obtain rfl := Option.some.inj ht
      refine ⟨hadd.await trivial,⟨hexposed.held,hexposed.global,hexposed.tracker⟩,.inl (.inr ⟨hready,?_⟩)⟩
      exact List.mem_append_right _ List.mem_cons_self

end World
end PageTelemetry
