import PageTelemetry.Proofs.Observing
import PageTelemetry.Proofs.Paths

/-! A tracker on a page whose hooks and listeners navigate again, to any depth. Between two tasks its last path is
that of the location, or a task that is still to be done will tell it to look. -/
namespace PageTelemetry

/-- A task that tells a tracker of a navigation, itself or through a hook that it calls. -/
def Task.Tells (k : HookId) (t : TrackerId) : Task → Prop
  | .hook o _ => o.Reaches k (.tracker t)
  | .relay id h _ => id = k ∧ h = .tracker t
  | .signal h (.navigate _) => h = .tracker t
  | _ => False

namespace World
variable {w w' u : World} {t : TrackerId} {k : HookId}

/-- A tracker knows the location, or will be told. -/
def Sees (k : HookId) (t : TrackerId) (w : World) : Prop := w.Current t ∨ ∃ task ∈ w.agenda, task.Tells k t

/-! Reports. -/

lemma signal_honest (hkept : w.pageKept = true) (h : Handler) (s : Signal) : Honest w (w.signal h s) := by
  cases h with
  | tracker id =>
    simp only [signal]
    split_ifs
    · exact report_honest (Tracker.handle_truthful s) hkept id
    · exact .refl w
  | log label => exact .of_same rfl rfl rfl

/-- A tracker that is told of a navigation knows the location. -/
lemma Exposed.navigate_current (h : w.Exposed t) (kind : NavigationKind) :
    (w.signal (.tracker t) (.navigate kind)).Current t := by
  rw [signal_tracker h.trackerKept]
  exact trackPageView_current (pageKept_held h.held) (List.getElem?_eq_getElem h.tracker)

lemma Honest.subscribe (h : Honest w w') (s : SourceId) (hd : Handler) : Honest w (w'.subscribe s hd).2 := by
  rcases w'.subscribe_cases s hd with ⟨-,e⟩ | ⟨-,e⟩ | e <;> rw [e] <;> exact h.frame rfl rfl rfl

lemma start_honest (hkept : w.pageKept = true) (id : TrackerId) (source : Option SourceId) :
    Honest w (w.start id source) := by
  refine start_invariant (report_honest Tracker.trackPageView_truthful hkept id) ?_ ?_ source
  · exact fun u hu => hu.frame rfl rfl rfl
  · exact fun u s hu => hu.subscribe s _

/-! Navigations. -/

/-- Who calls the hook of the page tells the tracker. -/
lemma Watched.hookTasks_tell (h : w.Watched k t) (kind : NavigationKind) :
    ∃ task ∈ hookTasks w.page kind, task.Tells k t := by
  obtain ⟨o,ho,hreach⟩ := h.hook
  exact ⟨.hook o kind,by simp [hookTasks,ho],hreach⟩

lemma Watched.push_sees (h : w.Watched k t) (url : String) : (w.push url).Sees k t := by
  obtain ⟨task,htask,htells⟩ := h.hookTasks_tell .push
  exact .inr ⟨task,List.mem_append_left _ htask,htells⟩

lemma Watched.replace_sees (h : w.Watched k t) (url : String) : (w.replace url).Sees k t := by
  obtain ⟨task,htask,htells⟩ := h.hookTasks_tell .replace
  exact .inr ⟨task,List.mem_append_left _ htask,htells⟩

/-- A move is told to the listeners, and the tracker is one of them. -/
lemma Watched.moveTo_sees (h : w.Watched k t) {target : Option History} (hmoves : (w.moveTo target).1 = true) :
    (w.moveTo target).2.Sees k t := by
  cases target with
  | none => cases hmoves
  | some target =>
    obtain ⟨id,hid⟩ := h.popState
    exact .inr ⟨_,List.mem_append_left _ (List.mem_map.mpr ⟨_,hid,rfl⟩),rfl⟩

lemma Watched.moveTo_keeps (h : w.Watched k t) (target : Option History) :
    w.Truthful (w.moveTo target).2 ∧ (w.Current t → (w.moveTo target).2.Sees k t) := by
  cases target with
  | none => exact ⟨.of_same rfl,.inl⟩
  | some target => exact ⟨.of_same rfl,fun _ => h.moveTo_sees rfl⟩

/-- An operation on the page tells the truth, and leaves a tracker that knew the location with a task that will
tell it of the new one. -/
theorem Watched.act_keeps (h : w.Watched k t) (hkept : w.pageKept = true) {a : Act} (ha : a.isChaining = true) :
    w.Truthful (w.act a) ∧ (w.Current t → (w.act a).Sees k t) := by
  have honest {w' : World} (hw : Honest w w') : w.Truthful w' ∧ (w.Current t → w'.Sees k t) :=
    ⟨hw.sent,fun hcurrent => .inl (hw.current t hcurrent)⟩
  cases a with
  | push url => exact ⟨.of_same rfl,fun _ => h.push_sees url⟩
  | replace url => exact ⟨.of_same rfl,fun _ => h.replace_sees url⟩
  | back => exact h.moveTo_keeps _
  | forward => exact h.moveTo_keeps _
  | setTitle | setWidth | reveal | unload | addPopState | addLifecycle | removeLifecycle | wrapHook =>
    exact honest (.of_same rfl rfl rfl)
  | hide =>
    refine honest ?_
    simp only [World.act,hide]
    split_ifs <;> exact .of_same rfl rfl rfl
  | finishLoading =>
    refine honest ?_
    simp only [World.act,finishLoading]
    split_ifs <;> exact .of_same rfl rfl rfl
  | track name =>
    refine honest ?_
    simp only [World.act,trackExposed]
    split
    · exact .refl w
    · exact report_honest (Tracker.track_truthful (Tracker.event_path name)) hkept _
  | onLoad label ending acts =>
    refine honest ?_
    simp only [World.act,World.onLoad]
    split_ifs <;> exact .of_same rfl rfl rfl
  | subscribe s hd => exact honest ((Honest.refl w).subscribe s hd)
  | setHref | discard | install | restore | removePopState | removeHook => cases ha

/-- A hook that reaches that of the tracker leaves a task that tells it. -/
lemma Hook.Reaches.callHook {o : Hook} (h : o.Reaches k (.tracker t)) (kind : NavigationKind) :
    ∃ task ∈ (w.callHook kind o).agenda, task.Tells k t := by
  cases h with
  | own => exact ⟨.relay k (.tracker t) kind,by simp [World.callHook,enqueue],rfl,rfl⟩
  | observer rest => exact ⟨.hook _ kind,by simp [World.callHook,enqueue],rest⟩
  | @custom _ _ _ last rest => exact ⟨.hook _ kind,by cases last <;> simp [World.callHook,enqueue],rest⟩

theorem Watched.perform_keeps (h : w.Watched k t) (hexposed : w.Exposed t) {task : Task}
    (ht : Rules.chaining.AllowsTask task) :
    w.Truthful (w.perform task) ∧ (w.Current t ∨ task.Tells k t → (w.perform task).Sees k t) := by
  have hkept := pageKept_held hexposed.held
  cases task with
  | hook o kind =>
    have hsame : Honest w (w.callHook kind o) := by cases o <;> exact .of_same rfl rfl rfl
    refine ⟨hsame.sent,?_⟩
    rintro (hcurrent | htells)
    · exact .inl (hsame.current t hcurrent)
    · exact .inr (Hook.Reaches.callHook htells kind)
  | relay id hd kind =>
    simp only [World.perform]
    split_ifs with hactive
    · have hsignal := signal_honest hkept hd (.navigate kind)
      refine ⟨hsignal.sent,?_⟩
      rintro (hcurrent | ⟨-,rfl⟩)
      · exact .inl (hsignal.current t hcurrent)
      · exact .inl (hexposed.navigate_current kind)
    · refine ⟨.of_same rfl,?_⟩
      rintro (hcurrent | ⟨rfl,-⟩)
      · exact .inl hcurrent
      · exact absurd h.active hactive
  | call l o =>
    have hsame : Honest w (w.call l o) := by
      simp only [call]
      split_ifs <;> exact .of_same rfl rfl rfl
    refine ⟨hsame.sent,?_⟩
    rintro (hcurrent | htells)
    · exact .inl (hsame.current t hcurrent)
    · exact htells.elim
  | signal hd s =>
    have hsignal := signal_honest hkept hd s
    refine ⟨hsignal.sent,?_⟩
    rintro (hcurrent | htells)
    · exact .inl (hsignal.current t hcurrent)
    · cases s with
      | navigate kind =>
        obtain rfl : hd = .tracker t := htells
        exact .inl (hexposed.navigate_current kind)
      | hidden => exact htells.elim
      | unload => exact htells.elim
  | start id source =>
    have hstart := start_honest hkept id source
    refine ⟨hstart.sent,?_⟩
    rintro (hcurrent | htells)
    · exact .inl (hstart.current t hcurrent)
    · exact htells.elim
  | act a =>
    obtain ⟨hsent,hsees⟩ := h.act_keeps hkept ht.own
    refine ⟨hsent,?_⟩
    rintro (hcurrent | htells)
    · exact hsees hcurrent
    · exact htells.elim

/-- Within a dispatch on a page that a tracker observes, where everyone chains. -/
structure Dispatching (k : HookId) (t : TrackerId) (w : World) : Prop where
  obeys : w.Obeys Rules.chaining
  exposed : w.Exposed t
  watched : w.Watched k t

/-- One step of such a dispatch, whoever's task it is. -/
theorem Dispatching.step (h : w.Dispatching k t) :
    w.step.Dispatching k t ∧ w.Truthful w.step ∧ (w.Sees k t → w.step.Sees k t) := by
  have hobeys := h.obeys.step (Rules.chaining_sound _)
  cases hagenda : w.agenda with
  | nil =>
    rw [step_of_agenda_nil hagenda]
    exact ⟨h,.of_same rfl,id⟩
  | cons task rest =>
    have ht := h.obeys.agenda task (by rw [hagenda]; exact List.mem_cons_self)
    rw [step_of_agenda_cons hagenda] at hobeys ⊢
    have hexposed : ({ w with agenda := rest } : World).Exposed t :=
      ⟨h.exposed.held,h.exposed.global,h.exposed.tracker⟩
    have hwatched : ({ w with agenda := rest } : World).Watched k t :=
      ⟨h.watched.hook,h.watched.active,h.watched.popState⟩
    obtain ⟨hsent,hsees⟩ := hwatched.perform_keeps hexposed ht
    refine ⟨⟨hobeys,hexposed.perform ht,hwatched.perform ht⟩,hsent,?_⟩
    rintro (hcurrent | ⟨teller,hmem,htells⟩)
    · exact hsees (.inl hcurrent)
    · rw [hagenda] at hmem
      rcases List.mem_cons.mp hmem with rfl | hmem
      · exact hsees (.inr htells)
      · -- What waits behind the task goes on waiting.
        obtain ⟨new,he,-⟩ := perform_agenda { w with agenda := rest } task
        exact .inr ⟨teller,by rw [he]; exact List.mem_append_right _ hmem,htells⟩

/-- Any number of steps, by induction on how many. -/
theorem Dispatching.iterate (h : w.Dispatching k t) (hsees : w.Sees k t) (n : ℕ) :
    (World.step^[n] w).Dispatching k t ∧ (World.step^[n] w).Sees k t := by
  induction n with
  | zero => exact ⟨h,hsees⟩
  | succ n ih =>
    rw [Function.iterate_succ_apply']
    obtain ⟨hstep,-,hkeeps⟩ := ih.1.step
    exact ⟨hstep,hkeeps ih.2⟩

/-- A navigation that moves the page, before anyone has been told. -/
inductive Moves (w : World) : World → Prop
  | push (url : String) : Moves w (w.push url)
  | replace (url : String) : Moves w (w.replace url)
  | back (h : w.back.1 = true) : Moves w w.back.2
  | forward (h : w.forward.1 = true) : Moves w w.forward.2

lemma Moves.act (h : w.Moves u) : ∃ a, Rules.chaining.Allows a ∧ u = w.act a := by
  cases h with
  | push url => exact ⟨.push url,.intro rfl (by simp [Act.reaction]),rfl⟩
  | replace url => exact ⟨.replace url,.intro rfl (by simp [Act.reaction]),rfl⟩
  | back => exact ⟨.back,.intro rfl (by simp [Act.reaction]),rfl⟩
  | forward => exact ⟨.forward,.intro rfl (by simp [Act.reaction]),rfl⟩

lemma Moves.sent (h : w.Moves u) : u.sent = w.sent := by
  have hmove (target : Option History) : (w.moveTo target).2.sent = w.sent := by cases target <;> rfl
  cases h with
  | push | replace => rfl
  | back => exact hmove _
  | forward => exact hmove _

lemma Watched.moves_sees (h : w.Watched k t) (hmove : w.Moves u) : u.Sees k t := by
  cases hmove with
  | push url => exact h.push_sees url
  | replace url => exact h.replace_sees url
  | back hmoves => exact h.moveTo_sees hmoves
  | forward hmoves => exact h.moveTo_sees hmoves

/-- When a document is complete and nothing is left to be done, a tracker that was installed observes the page. -/
lemma Observed.dispatching (h : w.Observed t) (hready : w.page.ready = .complete) (hidle : w.agenda = []) :
    ∃ k, w.Dispatching k t := by
  rcases h.observing with (hmem | ⟨hloading,-⟩) | ⟨k,hk⟩
  · rw [hidle] at hmem
    cases hmem
  · exact absurd hready hloading
  · exact ⟨k,h.obeys,h.exposed,hk⟩

/-- A tracker is installed on a page where everyone chains, before or after it, and may navigate again from
within a hook or a listener, to any depth. Then every navigation that moves the page, once all that it causes is
done, leaves the tracker with the path of the location, and each request that is sent meanwhile gives the path
that the location has at that moment. -/
theorem observed_path {w₀ w₁ : World} (h₀ : w₀.Obeys Rules.chaining) (hheld : w₀.pageHeld = true)
    (hnew : w₀.page.global? Page.namespaceName = none) {c : Config} {outlet : OutletId}
    (hinstall : w₀.install c none outlet = (some t,w₁))
    (hrun : Runs Tolerates (fun u => u.pageHeld = true) w₁ w) (hready : w.page.ready = .complete)
    (hidle : w.agenda = []) (hmove : w.Moves u) :
    (∀ W, u.Settles W → ∃ i, W.trackers[t]? = some i ∧
      i.tracker.lastPath = some (Location.path W.page.href i.tracker.settings.includeQuery)) ∧
    u.sent = w.sent ∧ ∀ n, (step^[n] u).Truthful (step^[n+1] u) := by
  have hobserved : w.Observed t := hrun.invariant (install_observed h₀ hheld hnew hinstall)
    fun _ _ hu hlast hu' => hu.happens hlast hu'
  obtain ⟨k,hk⟩ := hobserved.dispatching hready hidle
  have hu : u.Dispatching k t := by
    obtain ⟨a,ha,rfl⟩ := hmove.act
    exact ⟨hk.obeys.act (Rules.chaining_sound _) ha,hk.exposed.act ha.own,hk.watched.act ha.own⟩
  have hsteps := hu.iterate (hk.watched.moves_sees hmove)
  refine ⟨fun W hend => ?_,hmove.sent,fun n => ?_⟩
  · obtain ⟨hdone,n,rfl⟩ := (settles_iff_iterate u W).mp hend
    rcases (hsteps n).2 with hcurrent | ⟨task,htask,-⟩
    · exact hcurrent
    · rw [hdone] at htask
      cases htask
  · rw [Function.iterate_succ_apply']
    exact (hsteps n).1.step.2.1

/-- A page whose router turns every old location into a new one. -/
def routed : World where
  page :=
    { history := .ofHref "https://a.io/", ready := .complete
      hook := some (.custom 1 ⟨"router","/old",[.replace "/new"]⟩ none false) }
  outlets := [{ transport := .recording }]
  lastHook := 1

lemma routed_obeys : routed.Obeys Rules.chaining := by
  refine ⟨?_,by simp [routed],by simp [routed],by simp [routed],by simp [routed],?_⟩
  · rintro _ ⟨⟩
    refine .custom ?_ (by simp)
    intro a ha
    obtain rfl := List.mem_singleton.mp ha
    exact ⟨rfl,by simp [Act.reaction]⟩
  · intro s i hi
    simp [interception?,sourceKind?,routed] at hi

/-- That page with a tracker on it. -/
def tracked : World := (routed.install { siteKey := some "k", apiUrl := some "https://a.io" } none 0).2

/-- The router runs before the tracker is told, so the tracker never hears of the old location. -/
theorem observed_path_routed : ∃ W i, (tracked.push "/old").Settles W ∧ W.page.href = "https://a.io/new" ∧
    W.trackers[0]? = some i ∧
    i.tracker.lastPath = some (Location.path "https://a.io/new" i.tracker.settings.includeQuery) := by
  have hinstall : routed.install { siteKey := some "k", apiUrl := some "https://a.io" } none 0 =
      (some 0,tracked) := rfl
  have hend : (tracked.push "/old").Settles (settle 10 (tracked.push "/old")) := ⟨10,rfl,by decide +kernel⟩
  have hhref : (settle 10 (tracked.push "/old")).page.href = "https://a.io/new" := by decide +kernel
  obtain ⟨hpath,-,-⟩ := observed_path routed_obeys rfl rfl hinstall .refl rfl rfl (.push "/old")
  obtain ⟨i,hi,hlast⟩ := hpath _ hend
  rw [hhref] at hlast
  exact ⟨_,i,hend,hhref,hi,hlast⟩

end World
end PageTelemetry
