import PageTelemetry.Proofs.Agenda
import PageTelemetry.Proofs.Installing
import PageTelemetry.Proofs.Loading.Waiting

/-! What an operation or a task has to do with those who wait for the document, and what is heard of them. All that is
neither leaves them alone. -/
namespace PageTelemetry

def Act.discards : Act → Bool
  | .discard => true
  | _ => false

namespace Task

/-- Whose turn a task is, of those who waited. -/
def turn? : Task → Option LoadCallback
  | .call l .load => some (.listener l)
  | .start t source => some (.start t source)
  | _ => none

def discards : Task → Bool
  | .act a => a.discards
  | .hook _ _ | .relay _ _ _ | .call _ _ | .signal _ _ | .start _ _ => false

@[simp] lemma turn?_loadTask (c : LoadCallback) : (World.loadTask c).turn? = some c := by cases c <;> rfl

lemma turn?_eq_some {t : Task} {c : LoadCallback} (h : t.turn? = some c) : t = World.loadTask c := by
  unfold turn? at h
  split at h
  all_goals cases h
  all_goals rfl

end Task

/-- The label of a listener that was told that the document is complete. -/
def Event.loaded? : Event → Option String
  | .heard label .load _ => some label
  | _ => none

namespace World
variable {w w' : World} {c : Config} {st : Settings}

/-- The load listeners that have been called, by their labels. -/
def loaded (w : World) : List String := w.events.filterMap Event.loaded?

/-- Whose turns are on the agenda. -/
def turns (w : World) : List LoadCallback := w.agenda.filterMap Task.turn?

/-- Who asks, by an operation, to be called once the document is complete. An installation does so for its tracker,
unless the document is complete already. -/
def asks? (w : World) : Act → Option LoadCallback
  | .onLoad label ending acts => some (.listener ⟨label,ending,acts⟩)
  | .install c source _ =>
    if c.enabled && (w.page.global? Page.namespaceName).isNone && c.resolve.toOption.isSome &&
      w.page.ready != .complete then some (.start w.trackers.length source) else none
  | _ => none

def actMarks (w : World) : Act → List LoadMark
  | .finishLoading => [.finished]
  | a => (w.asks? a).toList.map .asked

def taskMarks (w : World) : Task → List LoadMark
  | .act a => w.actMarks a
  | .call l .load => [.called (.listener l)]
  | .start t source => [.called (.start t source)]
  | _ => []

/-- What the next task has to do with those who wait. -/
def nextMarks (w : World) : List LoadMark := w.agenda.head?.elim [] w.taskMarks

lemma taskMarks_eq_nil {t : Task} (hturn : t.turn? = none) (hact : ∀ b, t ≠ .act b) : w.taskMarks t = [] := by
  cases t with
  | act b => exact absurd rfl (hact b)
  | call l o =>
    cases o with
    | load => cases hturn
    | history | popState | lifecycle => rfl
  | start t source => cases hturn
  | hook | relay | signal => rfl

/-! The two entry points, by whether the document is complete. -/

lemma act_onLoad_complete (h : w.page.ready = .complete) (label ending : String) (reaction : List Act) :
    w.act (.onLoad label ending reaction) = w.enqueue [.call ⟨label,ending,reaction⟩ .load] := if_pos h

lemma act_onLoad_loading (h : w.page.ready ≠ .complete) (label ending : String) (reaction : List Act) :
    w.act (.onLoad label ending reaction) =
      w.modifyPage fun p => { p with onLoad := p.onLoad ++ [.listener ⟨label,ending,reaction⟩] } := if_neg h

lemma act_finishLoading_complete (h : w.page.ready = .complete) : w.act .finishLoading = w := if_pos h

lemma act_finishLoading_loading (h : w.page.ready ≠ .complete) : w.act .finishLoading =
    (w.modifyPage fun p => { p with ready := .complete, onLoad := [] }).enqueue (w.page.onLoad.map loadTask) :=
  if_neg h

/-! What does not concern those who wait. -/

/-- One world and another in which the same wait and have their turns. -/
structure Unconcerned (w w' : World) : Prop where
  ready : w'.page.ready = w.page.ready
  onLoad : w'.page.onLoad = w.page.onLoad
  turns : w'.turns = w.turns

lemma Unconcerned.refl (w : World) : w.Unconcerned w := ⟨rfl,rfl,rfl⟩

lemma Unconcerned.enqueue (h : w.Unconcerned w') {tasks : List Task} (ht : ∀ t ∈ tasks, t.turn? = none) :
    w.Unconcerned (w'.enqueue tasks) := by
  refine ⟨h.ready,h.onLoad,?_⟩
  have hnone : tasks.filterMap Task.turn? = [] := List.filterMap_eq_nil_iff.mpr ht
  change (tasks ++ w'.agenda).filterMap Task.turn? = _
  rw [List.filterMap_append,hnone,List.nil_append]
  exact h.turns

lemma Reported.unconcerned (h : w.Reported w') : w.Unconcerned w' := by
  obtain ⟨_,_,_,-,rfl⟩ := h
  exact ⟨rfl,rfl,rfl⟩

lemma subscribe_unconcerned (w : World) (s : SourceId) (h : Handler) : w.Unconcerned (w.subscribe s h).2 := by
  rcases w.subscribe_cases s h with ⟨-,e⟩ | ⟨-,e⟩ | e <;> rw [e] <;> exact ⟨rfl,rfl,rfl⟩

lemma restore_unconcerned (w : World) (s : SourceId) : w.Unconcerned (w.restore s).2 := by
  cases hi : w.interception? s with
  | none =>
    rw [restore_free hi]
    exact .refl w
  | some i =>
    have hpage : (w.restored s i).page = w.restoredPage i := rfl
    rw [w.restoredPage_eq i] at hpage
    rw [restore_installed hi]
    exact ⟨by rw [hpage],by rw [hpage],rfl⟩

lemma Unconcerned.trans {w'' : World} (h : w.Unconcerned w') (h' : w'.Unconcerned w'') : w.Unconcerned w'' :=
  ⟨h'.ready.trans h.ready,h'.onLoad.trans h.onLoad,h'.turns.trans h.turns⟩

lemma start_unconcerned (w : World) (t : TrackerId) (source : Option SourceId) :
    w.Unconcerned (w.start t source) := by
  refine start_invariant (w.report_reported t _).unconcerned ?_ ?_ source
  · exact fun u hu => hu.trans ⟨rfl,rfl,rfl⟩
  · exact fun u s hu => hu.trans (u.subscribe_unconcerned s _)

lemma hook_turn? (k : Option Hook) (kind : NavigationKind) :
    ∀ t ∈ (k.map (Task.hook · kind)).toList, t.turn? = none := by
  intro t ht
  obtain ⟨k,-,rfl⟩ : ∃ k', k = some k' ∧ Task.hook k' kind = t := by simpa using ht
  rfl

lemma popStateTask_turn? (e : ListenerId × Callback) : (popStateTask e).turn? = none := by
  obtain ⟨id,hd | l⟩ := e <;> rfl

lemma lifecycleTask_turn? (ev : LifecycleEvent) (e : ListenerId × Callback) : (lifecycleTask ev e).turn? = none := by
  obtain ⟨id,hd | l⟩ := e <;> rfl

lemma moveTo_unconcerned (w : World) (target : Option History) : w.Unconcerned (w.moveTo target).2 := by
  cases target with
  | none => exact .refl w
  | some h =>
    have hmoved : w.Unconcerned (w.modifyPage fun p => { p with history := h }) := ⟨rfl,rfl,rfl⟩
    exact hmoved.enqueue (List.forall_mem_map.mpr fun e _ => popStateTask_turn? e)

lemma asks?_admitted (h : w.Admits c st) (source : Option SourceId) (outlet : OutletId) :
    w.asks? (.install c source outlet) =
      if w.page.ready = .complete then none else some (.start w.trackers.length source) := by
  by_cases hready : w.page.ready = .complete <;>
    simp [asks?,h.enabled,h.vacant,h.resolved,Except.toOption,hready]

lemma asks?_refused (h : ∀ st, ¬w.Admits c st) (source : Option SourceId) (outlet : OutletId) :
    w.asks? (.install c source outlet) = none := by
  refine if_neg fun hasks => ?_
  simp only [Bool.and_eq_true,Option.isNone_iff_eq_none] at hasks
  obtain ⟨⟨⟨henabled,hvacant⟩,hresolved⟩,-⟩ := hasks
  cases hst : c.resolve with
  | error e => simp [hst,Except.toOption] at hresolved
  | ok st => exact h st ⟨henabled,hvacant,hst⟩

/-- An installation asks for its tracker, or leaves those who wait alone. -/
lemma install_concerns (w : World) (c : Config) (source : Option SourceId) (outlet : OutletId) :
    (w.asks? (.install c source outlet) = none ∧ w.Unconcerned (w.install c source outlet).2) ∨
      w.page.ready ≠ .complete ∧ ∃ x, w.asks? (.install c source outlet) = some x ∧
        (w.install c source outlet).2.page.ready = w.page.ready ∧
        (w.install c source outlet).2.page.onLoad = w.page.onLoad ++ [x] ∧
        (w.install c source outlet).2.turns = w.turns := by
  by_cases h : ∃ st, w.Admits c st
  · obtain ⟨st,hst⟩ := h
    rw [asks?_admitted hst,install_admitted hst]
    split_ifs with hready
    · have henrolled : w.Unconcerned (w.enroll st outlet) := ⟨rfl,rfl,rfl⟩
      exact .inl ⟨rfl,henrolled.trans (start_unconcerned ..)⟩
    · exact .inr ⟨hready,_,rfl,rfl,rfl,rfl⟩
  · rw [asks?_refused (not_exists.mp h),install_refused (not_exists.mp h)]
    exact .inl ⟨rfl,.refl w⟩

/-- An operation that neither asks nor finishes, and does not discard the page, leaves those who wait alone. -/
lemma act_unconcerned (w : World) {b : Act} (hb : b.discards = false) (hmarks : w.actMarks b = []) :
    w.Unconcerned (w.act b) := by
  cases b with
  | push url =>
    have hmoved : w.Unconcerned (w.modifyPage fun p => { p with history := p.history.push (p.resolve url) }) :=
      ⟨rfl,rfl,rfl⟩
    exact hmoved.enqueue (hook_turn? _ _)
  | replace url =>
    have hmoved : w.Unconcerned (w.modifyPage fun p => { p with history := p.history.replace (p.resolve url) }) :=
      ⟨rfl,rfl,rfl⟩
    exact hmoved.enqueue (hook_turn? _ _)
  | back => exact moveTo_unconcerned ..
  | forward => exact moveTo_unconcerned ..
  | hide =>
    have hhidden : w.Unconcerned (w.modifyPage fun p => { p with visibility := .hidden }) := ⟨rfl,rfl,rfl⟩
    simp only [act,hide]
    split_ifs
    · exact hhidden.enqueue (List.forall_mem_map.mpr fun e _ => lifecycleTask_turn? .hidden e)
    · exact hhidden
  | unload => exact (Unconcerned.refl w).enqueue (List.forall_mem_map.mpr fun e _ => lifecycleTask_turn? .unload e)
  | track name =>
    simp only [act,trackExposed]
    split
    · exact .refl w
    · exact (w.report_reported _ _).unconcerned
  | install c source outlet =>
    rcases w.install_concerns c source outlet with ⟨-,h⟩ | ⟨-,x,hx,-⟩
    · exact h
    · simp [actMarks,hx] at hmarks
  | subscribe source hd => exact subscribe_unconcerned ..
  | restore source => exact restore_unconcerned ..
  | onLoad | finishLoading => cases hmarks
  | discard => cases hb
  | setHref | setTitle | setWidth | reveal | addPopState | addLifecycle | removePopState | removeLifecycle | wrapHook
  | removeHook => exact ⟨rfl,rfl,rfl⟩

/-- A task that is nobody's turn and no operation leaves those who wait alone, and so does a turn but for itself. -/
lemma perform_unconcerned (w : World) {t : Task} (ht : t.discards = false)
    (hact : ∀ b, t = .act b → w.actMarks b = []) : w.Unconcerned (w.perform t) := by
  cases t with
  | hook k kind =>
    cases k with
    | observer id hd previous =>
      exact (Unconcerned.refl w).enqueue (List.forall_mem_append.mpr ⟨hook_turn? _ _,by simp [Task.turn?]⟩)
    | custom id l chained last =>
      refine (Unconcerned.refl w).enqueue ?_
      cases last with
      | true => exact List.forall_mem_append.mpr ⟨hook_turn? _ _,by simp [Task.turn?]⟩
      | false => exact List.forall_mem_cons.mpr ⟨rfl,hook_turn? _ _⟩
  | relay id hd kind =>
    simp only [perform]
    split_ifs
    · exact (w.signal_reported hd _).unconcerned
    · exact .refl w
  | call l o =>
    have hnoted : w.Unconcerned (w.note (.heard l.label o w.ambient.href)) := ⟨rfl,rfl,rfl⟩
    simp only [perform,call]
    split_ifs
    · exact hnoted.enqueue (List.forall_mem_map.mpr fun b _ => rfl)
    · exact hnoted
  | signal hd s => exact (w.signal_reported hd s).unconcerned
  | start t source => exact start_unconcerned ..
  | act b => exact act_unconcerned w ht (hact b rfl)

/-! What is heard of those who are called. -/

lemma report_events (w : World) (t : TrackerId)
    (f : Tracker → Payload.Ambient → Int → Option Payload × Tracker) : (w.report t f).2.events = w.events := by
  have hdeliver (u : World) (i : Installation) (p : Payload) : (u.deliver t i p).events = u.events := by
    unfold deliver
    split
    · rfl
    · split <;> rfl
  unfold report
  split
  · rfl
  · dsimp only
    split
    · rfl
    · exact hdeliver ..

lemma signal_loaded (w : World) (h : Handler) (s : Signal) : (w.signal h s).loaded = w.loaded := by
  cases h with
  | tracker id =>
    simp only [signal]
    split_ifs
    · exact congrArg (List.filterMap Event.loaded?) (w.report_events id _)
    · rfl
  | log label => simp [signal,loaded,note,Event.loaded?]

lemma subscribe_loaded (w : World) (s : SourceId) (h : Handler) : (w.subscribe s h).2.loaded = w.loaded := by
  rcases w.subscribe_cases s h with ⟨-,e⟩ | ⟨-,e⟩ | e <;> rw [e] <;> rfl

lemma start_loaded (w : World) (t : TrackerId) (source : Option SourceId) : (w.start t source).loaded = w.loaded := by
  refine start_invariant (P := fun u => u.loaded = w.loaded) ?_ (fun _ hu => hu) ?_ source
  · exact congrArg (List.filterMap Event.loaded?) (w.report_events t _)
  · exact fun u s hu => (u.subscribe_loaded s _).trans hu

/-- No operation calls those who wait itself. -/
lemma act_loaded (w : World) (b : Act) : (w.act b).loaded = w.loaded := by
  cases b with
  | back =>
    simp only [act,back]
    cases w.page.history.back? <;> rfl
  | forward =>
    simp only [act,forward]
    cases w.page.history.forward? <;> rfl
  | hide | finishLoading | onLoad =>
    simp only [act,hide,finishLoading,onLoad]
    split_ifs <;> rfl
  | track name =>
    simp only [act,trackExposed]
    split
    · rfl
    · exact congrArg (List.filterMap Event.loaded?) (w.report_events _ _)
  | install c source outlet =>
    rcases w.install_cases c source outlet with e | ⟨-,st,e | e⟩
    · simp only [act,e]
    · simp only [act,e]
      exact start_loaded ..
    · simp only [act,e]
      rfl
  | subscribe source hd => exact subscribe_loaded ..
  | restore source =>
    simp only [act,restore]
    split <;> rfl
  | push | replace | setHref | setTitle | setWidth | reveal | unload | discard | addPopState | addLifecycle
  | removePopState | removeLifecycle | wrapHook | removeHook => rfl

lemma actMarks_label? (w : World) (b : Act) : (w.actMarks b).filterMap LoadMark.label? = [] := by
  unfold actMarks
  split
  · rfl
  · cases w.asks? _ <;> rfl

/-- A listener that is called says so, and nobody else does. -/
lemma perform_loaded (w : World) (t : Task) :
    (w.perform t).loaded = w.loaded ++ (w.taskMarks t).filterMap LoadMark.label? := by
  cases t with
  | hook k kind => cases k <;> exact (List.append_nil _).symm
  | relay id hd kind =>
    refine Eq.trans ?_ (List.append_nil _).symm
    simp only [perform]
    split_ifs
    · exact signal_loaded ..
    · rfl
  | call l o =>
    have hheard : (w.call l o).loaded = (w.note (.heard l.label o w.ambient.href)).loaded := by
      simp only [call]
      split_ifs <;> rfl
    rw [perform,hheard]
    cases o <;> simp [loaded,note,Event.loaded?,taskMarks,LoadMark.label?]
  | signal hd s => exact (signal_loaded ..).trans (List.append_nil _).symm
  | start t source => exact (start_loaded ..).trans (List.append_nil _).symm
  | act b =>
    rw [taskMarks,actMarks_label?,List.append_nil]
    exact act_loaded ..

end World
end PageTelemetry
