import PageTelemetry.Proofs.Runs

/-! What gets onto an agenda. New tasks come in front of all that was there, and a signal gets there only by a
listener for popstate or lifecycle events. -/
namespace PageTelemetry.World
variable {w w' : World}

/-- A task that an operation on a page can put on the agenda. -/
inductive Causes (w : World) : Task → Prop
  | hook {k : Hook} {kind : NavigationKind} (h : w.page.hook = some k) : Causes w (.hook k kind)
  | popState {e : ListenerId × Callback} (h : e ∈ w.page.popState) : Causes w (popStateTask e)
  | lifecycle {e : ListenerId × Callback} {ev : LifecycleEvent} (h : e ∈ w.page.lifecycle) :
    Causes w (lifecycleTask ev e)
  | load {c : LoadCallback} (h : c ∈ w.page.onLoad) : Causes w (loadTask c)
  | call {l : Listener} : Causes w (.call l .load)

lemma Reported.agenda (h : w.Reported w') : w'.agenda = w.agenda := by
  obtain ⟨_,_,_,-,rfl⟩ := h
  rfl

lemma subscribe_agenda (w : World) (s : SourceId) (h : Handler) : (w.subscribe s h).2.agenda = w.agenda := by
  simp only [subscribe]
  split <;> rfl

lemma restore_agenda (w : World) (s : SourceId) : (w.restore s).2.agenda = w.agenda := by
  simp only [restore]
  split <;> rfl

lemma start_agenda (w : World) (t : TrackerId) (source : Option SourceId) :
    (w.start t source).agenda = w.agenda :=
  start_invariant (P := fun u => u.agenda = w.agenda) (w.report_reported t _).agenda (fun _ hu => hu)
    (fun _ _ hu => (subscribe_agenda ..).trans hu) source

lemma install_agenda (w : World) (c : Config) (source : Option SourceId) (outlet : OutletId) :
    (w.install c source outlet).2.agenda = w.agenda := by
  rcases w.install_cases c source outlet with e | ⟨-,st,e | e⟩
  · rw [e]
  · rw [e]
    exact start_agenda ..
  · rw [e]
    rfl

/-- An operation puts tasks in front of the agenda. -/
theorem act_agenda (w : World) (a : Act) :
    ∃ new, (w.act a).agenda = new ++ w.agenda ∧ ∀ t ∈ new, w.Causes t := by
  have hnone {u : World} (hu : u.agenda = w.agenda) :
      ∃ new, u.agenda = new ++ w.agenda ∧ ∀ t ∈ new, w.Causes t := ⟨[],hu,by simp⟩
  have hhook (kind : NavigationKind) : ∀ t ∈ hookTasks w.page kind, w.Causes t := by
    intro t ht
    obtain ⟨k,hk,rfl⟩ : ∃ k, w.page.hook = some k ∧ Task.hook k kind = t := by simpa [hookTasks] using ht
    exact .hook hk
  have hmove (target : Option History) :
      ∃ new, (w.moveTo target).2.agenda = new ++ w.agenda ∧ ∀ t ∈ new, w.Causes t := by
    cases target with
    | none => exact hnone rfl
    | some h =>
      refine ⟨_,rfl,fun t ht => ?_⟩
      obtain ⟨e,he,rfl⟩ := List.mem_map.mp ht
      exact .popState he
  have hlife (ev : LifecycleEvent) : ∀ t ∈ w.page.lifecycle.map (lifecycleTask ev), w.Causes t := by
    intro t ht
    obtain ⟨e,he,rfl⟩ := List.mem_map.mp ht
    exact .lifecycle he
  cases a with
  | push url => exact ⟨_,rfl,hhook .push⟩
  | replace url => exact ⟨_,rfl,hhook .replace⟩
  | back => exact hmove _
  | forward => exact hmove _
  | hide =>
    simp only [act,hide]
    split_ifs
    · exact ⟨_,rfl,hlife .hidden⟩
    · exact hnone rfl
  | unload => exact ⟨_,rfl,hlife .unload⟩
  | finishLoading =>
    simp only [act,finishLoading]
    split_ifs
    · exact hnone rfl
    · refine ⟨_,rfl,fun t ht => ?_⟩
      obtain ⟨c,hc,rfl⟩ := List.mem_map.mp ht
      exact .load hc
  | onLoad label ending acts =>
    simp only [act,onLoad]
    split_ifs
    · refine ⟨_,rfl,fun t ht => ?_⟩
      obtain rfl := List.mem_singleton.mp ht
      exact .call
    · exact hnone rfl
  | track name =>
    simp only [act,trackExposed]
    split
    · exact hnone rfl
    · exact hnone (w.report_reported _ _).agenda
  | install c source outlet => exact hnone (install_agenda ..)
  | subscribe source hd => exact hnone (subscribe_agenda ..)
  | restore source => exact hnone (restore_agenda ..)
  | setHref | setTitle | setWidth | reveal | discard | addPopState | addLifecycle | removePopState
  | removeLifecycle | wrapHook | removeHook => exact hnone rfl

/-- The signals on an agenda that wait to be given to a handler. -/
def pending (h : Handler) (tasks : List Task) : List Signal :=
  tasks.filterMap fun
    | .signal hd s => if hd = h then some s else none
    | _ => none

variable {h : Handler} {s : Signal}

lemma pending_append (h : Handler) (a b : List Task) : pending h (a ++ b) = pending h a ++ pending h b :=
  List.filterMap_append ..

lemma mem_pending {tasks : List Task} : s ∈ pending h tasks ↔ .signal h s ∈ tasks := by
  simp only [pending,List.mem_filterMap]
  constructor
  · rintro ⟨t,ht,hs⟩
    cases t <;> simp only [reduceCtorEq] at hs
    split_ifs at hs with hd
    obtain rfl := Option.some.inj hs
    rwa [← hd]
  · intro hs
    exact ⟨_,hs,if_pos rfl⟩

/-- The handler that the next task calls, and what it is told. -/
def nextCall? (w : World) : Option (Handler × Signal) :=
  match w.agenda with
  | .signal h s::_ => some (h,s)
  | .relay id h kind::_ => if w.hookActive id then some (h,.navigate kind) else none
  | _ => none

/-- A handler that stands among the listeners for popstate or lifecycle events. -/
def Listens (w : World) (h : Handler) : Prop :=
  (∃ id, (id,.handler h) ∈ w.page.popState) ∨ ∃ id, (id,.handler h) ∈ w.page.lifecycle

/-- What such listeners are told. -/
def IsEvent (s : Signal) : Prop := s = .navigate .pop ∨ s = .hidden ∨ s = .unload

lemma Causes.signal {t : Task} (ht : w.Causes t) (he : t = .signal h s) : w.Listens h ∧ IsEvent s := by
  cases ht with
  | hook => cases he
  | @popState e hmem =>
    obtain ⟨id,hd | l⟩ := e
    · cases he
      exact ⟨.inl ⟨id,hmem⟩,.inl rfl⟩
    · cases he
  | @lifecycle e ev hmem =>
    obtain ⟨id,hd | l⟩ := e
    · cases he
      exact ⟨.inr ⟨id,hmem⟩,.inr (by cases ev <;> simp [LifecycleEvent.signal])⟩
    · cases he
  | @load c => cases c <;> cases he
  | call => cases he

/-- A task puts tasks in front of the agenda, and signals among them only for those who listen. -/
theorem perform_agenda (w : World) (t : Task) : ∃ new, (w.perform t).agenda = new ++ w.agenda ∧
    ∀ h s, .signal h s ∈ new → w.Listens h ∧ IsEvent s := by
  have hnone {u : World} (hu : u.agenda = w.agenda) :
      ∃ new, u.agenda = new ++ w.agenda ∧ ∀ h s, Task.signal h s ∈ new → w.Listens h ∧ IsEvent s :=
    ⟨[],hu,by simp⟩
  cases t with
  | hook k kind =>
    cases k with
    | observer id hd previous => exact ⟨_,rfl,fun h s hs => by simp at hs⟩
    | custom id l chained last => exact ⟨_,rfl,fun h s hs => by cases last <;> simp at hs⟩
  | relay id hd kind =>
    simp only [perform]
    split_ifs
    · exact hnone (w.signal_reported hd _).agenda
    · exact hnone rfl
  | call l o =>
    simp only [perform,call]
    split_ifs
    · exact ⟨_,rfl,fun h s hs => by simp at hs⟩
    · exact hnone rfl
  | signal hd s => exact hnone (w.signal_reported hd s).agenda
  | start t source => exact hnone (start_agenda ..)
  | act a =>
    obtain ⟨new,he,hcauses⟩ := w.act_agenda a
    exact ⟨new,he,fun h s hs => (hcauses _ hs).signal rfl⟩

/-- Whatever happens, the signals that wait for a handler are some of those that waited before, behind new ones
if the handler listens. -/
theorem happens_pending {allowed : Act → Prop} (hw : Happens allowed w w') (h : Handler) :
    ∃ new old, pending h w'.agenda = new ++ old ∧ old <:+ pending h w.agenda ∧
      ∀ s ∈ new, w.Listens h ∧ IsEvent s := by
  have hsame {u : World} (hu : u.agenda = w.agenda) : ∃ new old, pending h u.agenda = new ++ old ∧
      old <:+ pending h w.agenda ∧ ∀ s ∈ new, w.Listens h ∧ IsEvent s :=
    ⟨[],_,rfl,by rw [hu]; exact List.suffix_rfl,by simp⟩
  cases hw with
  | step =>
    cases hagenda : w.agenda with
    | nil =>
      rw [step_of_agenda_nil hagenda,← hagenda]
      exact hsame rfl
    | cons t rest =>
      rw [step_of_agenda_cons hagenda]
      obtain ⟨new,he,hnew⟩ := perform_agenda { w with agenda := rest } t
      refine ⟨pending h new,pending h rest,by rw [he,pending_append],?_,fun s hs => hnew h s (mem_pending.mp hs)⟩
      rw [← List.singleton_append,pending_append]
      exact List.suffix_append ..
  | @act a =>
    obtain ⟨new,he,hnew⟩ := w.act_agenda a
    exact ⟨pending h new,_,by rw [he,pending_append],List.suffix_rfl,
      fun s hs => (hnew _ (mem_pending.mp hs)).signal rfl⟩
  | report hr => exact hsame hr.agenda
  | keep => exact hsame rfl
  | hold => exact hsame rfl
  | addTracker => exact hsame rfl
  | addSource => exact hsame rfl

end PageTelemetry.World
