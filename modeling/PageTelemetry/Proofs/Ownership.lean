import PageTelemetry.Proofs.Patching.Quiet
import PageTelemetry.Proofs.Runs

/-! Whose a handler is. In every world that can be reached, a listener for popstate or lifecycle events that
tells a handler is that of a source which has the handler installed, and a hook whose source is still installed
tells the handler of that source. -/
namespace PageTelemetry

/-- The handler that an interception tells. -/
def Interception.handler? (i : Interception) : Option Handler :=
  match i.hook with
  | .observer _ h _ => some h
  | .custom _ _ _ _ => none

/-- Anyone may do anything, but a handler stands only where a source has put it. -/
def Rules.owned (w : World) : Rules where
  act _ := True
  start _ _ := True
  place
    | .hook id, h => id ≤ w.lastHook ∧
        ∀ s i, w.interception? s = some i → i.hook.id = id → i.handler? = some h
    | .popState id, h => ∃ s i, w.interception? s = some i ∧ i.popState = id ∧ i.handler? = some h
    | .lifecycle id, h => ∃ s i, w.interception? s = some i ∧ i.lifecycle = id ∧ i.handler? = some h

namespace World
variable {w w' : World}

structure Owned (w : World) : Prop where
  obeys : w.Obeys (.owned w)
  lastHook : ∀ s i, w.interception? s = some i → i.hook.id ≤ w.lastHook

/-- The same interceptions, and ids for hooks that were not given before. -/
structure SameInterceptions (w w' : World) : Prop where
  interceptions : ∀ s, w'.interception? s = w.interception? s
  lastHook : w.lastHook ≤ w'.lastHook

lemma SameRegistrations.sameInterceptions (h : w.SameRegistrations w') : w.SameInterceptions w' := by
  refine ⟨fun s => ?_,h.lastHook.ge⟩
  rw [interception?,sourceKind?,h.sources]
  rfl

lemma Reported.sameInterceptions (h : w.Reported w') : w.SameInterceptions w' :=
  h.sameRegistrations.sameInterceptions

/-- Only subscribing, restoring and installing change who intercepts the page. -/
lemma act_sameInterceptions (w : World) {a : Act} (hsubscribe : ∀ s h, a ≠ .subscribe s h)
    (hrestore : ∀ s, a ≠ .restore s) (hinstall : ∀ c s o, a ≠ .install c s o) :
    w.SameInterceptions (w.act a) := by
  by_cases hquiet : a.isQuiet = true
  · exact (w.act_sameRegistrations hquiet).sameInterceptions
  · cases a with
    | discard | addPopState | addLifecycle | removePopState | removeLifecycle | removeHook =>
      exact ⟨fun _ => rfl,le_rfl⟩
    | wrapHook => exact ⟨fun _ => rfl,Nat.le_succ _⟩
    | subscribe s h => exact absurd rfl (hsubscribe s h)
    | restore s => exact absurd rfl (hrestore s)
    | install c s o => exact absurd rfl (hinstall c s o)
    | push | replace | setHref | back | forward | setTitle | setWidth | hide | reveal | unload | finishLoading
    | track | onLoad => exact absurd rfl hquiet

lemma Owned.of_same (h : w.Owned) (hobeys : w'.Obeys (.owned w)) (hsame : w.SameInterceptions w') : w'.Owned := by
  refine ⟨hobeys.weaken (fun _ _ => trivial) (fun _ _ _ => trivial) ?_ ?_ ?_,?_⟩
  · rintro id hd ⟨hle,hid⟩
    refine ⟨hle.trans hsame.lastHook,fun s i hi => hid s i ?_⟩
    rwa [← hsame.interceptions]
  · rintro e - hd ⟨s,i,hi,hid⟩
    exact ⟨s,i,(hsame.interceptions s).trans hi,hid⟩
  · rintro e - hd ⟨s,i,hi,hid⟩
    exact ⟨s,i,(hsame.interceptions s).trans hi,hid⟩
  · intro s i hi
    rw [hsame.interceptions] at hi
    exact (h.lastHook s i hi).trans hsame.lastHook

lemma Owned.reported (h : w.Owned) (hr : w.Reported w') : w'.Owned :=
  h.of_same (h.obeys.reported hr) hr.sameInterceptions

lemma Owned.intercepted (h : w.Owned) {s : SourceId} (hs : w.sourceKind? s = some (.history none))
    (hd : Handler) : (w.intercepted s hd).Owned := by
  have hnew : (w.intercepted s hd).interception? s = some (w.intercept hd) := by
    rw [interception?_intercepted hs,if_pos rfl]
  have hold {t : SourceId} {i : Interception} (hi : w.interception? t = some i) :
      (w.intercepted s hd).interception? t = some i := by
    rw [interception?_intercepted hs,if_neg,hi]
    rintro rfl
    rw [interception?_of_sourceKind? hs] at hi
    cases hi
  have hobeys : w.Obeys (.owned (w.intercepted s hd)) := by
    refine h.obeys.weaken (fun _ _ => trivial) (fun _ _ _ => trivial) ?_ ?_ ?_
    · rintro id hd' ⟨hle,hid⟩
      refine ⟨hle.trans (Nat.le_succ _),fun t i hi => ?_⟩
      rw [interception?_intercepted hs] at hi
      split_ifs at hi
      · obtain rfl := Option.some.inj hi
        rintro rfl
        exact absurd hle (Nat.not_succ_le_self _)
      · exact hid t i hi
    · rintro e - hd' ⟨t,i,hi,hid⟩
      exact ⟨t,i,hold hi,hid⟩
    · rintro e - hd' ⟨t,i,hi,hid⟩
      exact ⟨t,i,hold hi,hid⟩
  refine ⟨hobeys.intercepted hs ?_ ⟨s,_,hnew,rfl,rfl⟩ ⟨s,_,hnew,rfl,rfl⟩,?_⟩
  · refine ⟨le_rfl,fun t i hi hid => ?_⟩
    rw [interception?_intercepted hs] at hi
    split_ifs at hi
    · obtain rfl := Option.some.inj hi
      rfl
    · exact absurd (h.lastHook t i hi) (Nat.not_le.mpr (hid ▸ Nat.lt_succ_self _))
  · intro t i hi
    rw [interception?_intercepted hs] at hi
    split_ifs at hi
    · obtain rfl := Option.some.inj hi
      exact le_rfl
    · exact (h.lastHook t i hi).trans (Nat.le_succ _)

lemma Owned.subscribe (h : w.Owned) (s : SourceId) (hd : Handler) : (w.subscribe s hd).2.Owned := by
  rcases w.subscribe_cases s hd with ⟨hs,e⟩ | ⟨hs,e⟩ | e
  · rw [e]
    exact h.intercepted hs hd
  · rw [e]
    have hsame := interception?_setSource_memory hs (some hd)
    refine h.of_same ⟨h.obeys.hook,h.obeys.popState,h.obeys.lifecycle,h.obeys.onLoad,h.obeys.agenda,?_⟩
      ⟨hsame,le_rfl⟩
    intro t i hi
    exact h.obeys.previous t i ((hsame t).symm.trans hi)
  · rw [e]
    exact h

/-- With a source its two listeners go, so those that stay are those of other sources. -/
lemma Owned.restore (h : w.Owned) (s : SourceId) : (w.restore s).2.Owned := by
  have hobeys := h.obeys.restore s
  cases hi : w.interception? s with
  | none =>
    rw [restore_free hi]
    exact h
  | some i =>
    rw [restore_installed hi] at hobeys ⊢
    have hpage : (w.restored s i).page = w.restoredPage i := rfl
    rw [w.restoredPage_eq i] at hpage
    have hother {t : SourceId} {j : Interception} (hj : w.interception? t = some j)
        (hne : j.popState ≠ i.popState ∨ j.lifecycle ≠ i.lifecycle) :
        (w.restored s i).interception? t = some j := by
      rw [interception?_restored hi,if_neg,hj]
      rintro rfl
      obtain rfl := Option.some.inj (hi.symm.trans hj)
      simp at hne
    refine ⟨hobeys.weaken (fun _ _ => trivial) (fun _ _ _ => trivial) ?_ ?_ ?_,?_⟩
    · rintro id hd ⟨hle,hid⟩
      refine ⟨hle,fun t j hj => ?_⟩
      rw [interception?_restored hi] at hj
      split_ifs at hj
      exact hid t j hj
    · rintro e he hd ⟨t,j,hj,hid,hhd⟩
      rw [hpage] at he
      have hne : e.1 ≠ i.popState := by simpa using (List.mem_filter.mp he).2
      exact ⟨t,j,hother hj (.inl (hid ▸ hne)),hid,hhd⟩
    · rintro e he hd ⟨t,j,hj,hid,hhd⟩
      rw [hpage] at he
      have hne : e.1 ≠ i.lifecycle := by simpa using (List.mem_filter.mp he).2
      exact ⟨t,j,hother hj (.inr (hid ▸ hne)),hid,hhd⟩
    · intro t j hj
      rw [interception?_restored hi] at hj
      split_ifs at hj
      exact h.lastHook t j hj

lemma Owned.addSource (h : w.Owned) {kind : SourceKind} (hfree : ∀ i, kind ≠ .history (some i)) (held : Bool) :
    (w.addSource kind held).2.Owned := by
  have hsame := interception?_addSource w hfree held
  refine h.of_same ⟨h.obeys.hook,h.obeys.popState,h.obeys.lifecycle,h.obeys.onLoad,h.obeys.agenda,?_⟩
    ⟨hsame,le_rfl⟩
  intro s i hi
  exact h.obeys.previous s i ((hsame s).symm.trans hi)

lemma Owned.start (h : w.Owned) (t : TrackerId) (source : Option SourceId) : (w.start t source).Owned := by
  refine start_invariant (h.reported (w.report_reported t _)) ?_ ?_ source
  · exact fun u hu => hu.addSource (by simp) false
  · exact fun u s hu => hu.subscribe s _

lemma Owned.install (h : w.Owned) (c : Config) (source : Option SourceId) (outlet : OutletId) :
    (w.install c source outlet).2.Owned := by
  have henroll (st : Settings) : (w.enroll st outlet).Owned := ⟨h.obeys.of_same,h.lastHook⟩
  rcases w.install_cases c source outlet with e | ⟨-,st,e | e⟩
  · rw [e]
    exact h
  · rw [e]
    exact (henroll st).start _ source
  · rw [e]
    exact ⟨(henroll st).obeys.await trivial,h.lastHook⟩

theorem Owned.act (h : w.Owned) (a : Act) : (w.act a).Owned := by
  by_cases hregisters : (∃ s hd, a = .subscribe s hd) ∨ (∃ s, a = .restore s) ∨ ∃ c s o, a = .install c s o
  · rcases hregisters with ⟨s,hd,rfl⟩ | ⟨s,rfl⟩ | ⟨c,s,o,rfl⟩
    · exact h.subscribe s hd
    · exact h.restore s
    · exact h.install c s o
  · push Not at hregisters
    obtain ⟨hsubscribe,hrestore,hinstall⟩ := hregisters
    refine h.of_same (h.obeys.act_of (Rules.allows_of_forall (fun _ => trivial) a) ?_ ?_)
      (w.act_sameInterceptions hsubscribe hrestore hinstall)
    · exact fun s hd ha => absurd ha (hsubscribe s hd)
    · exact fun c s o ha => absurd ha (hinstall c s o)

theorem Owned.perform (h : w.Owned) {t : Task} (ht : (Rules.owned w).AllowsTask t) : (w.perform t).Owned := by
  cases t with
  | hook k kind => exact h.of_same (h.obeys.callHook ht kind) (by cases k <;> exact ⟨fun _ => rfl,le_rfl⟩)
  | relay id hd kind =>
    simp only [World.perform]
    split_ifs
    · exact h.reported (w.signal_reported hd _)
    · exact h
  | call l o =>
    refine h.of_same (h.obeys.call ht o) ?_
    simp only [World.perform,World.call]
    split_ifs <;> exact ⟨fun _ => rfl,le_rfl⟩
  | signal hd s => exact h.reported (w.signal_reported hd s)
  | start t source => exact h.start t source
  | act a => exact h.act a

theorem Owned.step (h : w.Owned) : w.step.Owned := by
  cases hagenda : w.agenda with
  | nil => rwa [step_of_agenda_nil hagenda]
  | cons t rest =>
    rw [step_of_agenda_cons hagenda]
    have htasks := h.obeys.agenda
    rw [hagenda] at htasks
    exact Owned.perform (w := { w with agenda := rest })
      ⟨⟨h.obeys.hook,h.obeys.popState,h.obeys.lifecycle,h.obeys.onLoad,
        fun t ht => htasks t (List.mem_cons_of_mem _ ht),h.obeys.previous⟩,h.lastHook⟩
      (htasks t List.mem_cons_self)

theorem Owned.happens {allowed : Act → Prop} (h : w.Owned) (hw : Happens allowed w w') : w'.Owned := by
  cases hw with
  | step => exact h.step
  | @act a => exact h.act a
  | report hr => exact h.reported hr
  | keep => exact ⟨⟨h.obeys.hook,h.obeys.popState,h.obeys.lifecycle,h.obeys.onLoad,h.obeys.agenda,
      h.obeys.previous⟩,h.lastHook⟩
  | hold id held =>
    have hsame := interception?_hold w id held
    refine h.of_same ⟨h.obeys.hook,h.obeys.popState,h.obeys.lifecycle,h.obeys.onLoad,h.obeys.agenda,?_⟩
      ⟨hsame,le_rfl⟩
    intro s i hi
    exact h.obeys.previous s i ((hsame s).symm.trans hi)
  | addTracker => exact ⟨⟨h.obeys.hook,h.obeys.popState,h.obeys.lifecycle,h.obeys.onLoad,h.obeys.agenda,
      h.obeys.previous⟩,h.lastHook⟩
  | addSource hfree held => exact h.addSource hfree held

/-- A page on which nothing has been left, with no source installed and nothing to do. -/
structure Fresh (w : World) : Prop where
  hook : w.page.hook = none
  popState : w.page.popState = []
  lifecycle : w.page.lifecycle = []
  onLoad : w.page.onLoad = []
  agenda : w.agenda = []
  interceptions : ∀ s, w.interception? s = none

/-- Whatever has happened since the page was new. -/
def Reachable (w : World) : Prop := ∃ w₀, w₀.Fresh ∧ Runs (fun _ => True) (fun _ => True) w₀ w

lemma Fresh.owned (h : w.Fresh) : w.Owned := by
  refine ⟨⟨?_,?_,?_,?_,?_,?_⟩,?_⟩
  · simp [h.hook]
  · simp [h.popState]
  · simp [h.lifecycle]
  · simp [h.onLoad]
  · simp [h.agenda]
  · simp [h.interceptions]
  · simp [h.interceptions]

/-- In every world that can be reached, handlers are those of sources. -/
theorem Reachable.owned (h : w.Reachable) : w.Owned := by
  obtain ⟨w₀,h₀,hrun⟩ := h
  exact hrun.invariant h₀.owned fun _ _ hu hlast _ => hu.happens hlast

end World
end PageTelemetry
