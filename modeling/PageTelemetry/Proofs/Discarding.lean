import PageTelemetry.Proofs.Agenda
import PageTelemetry.Proofs.Ownership
import PageTelemetry.Proofs.Sending

/-! What a discarded page still tells. Nothing of the trackers that were installed there is left on it, and
nothing comes back by itself; so a tracker is told no more than what the dispatches under way were about to tell
it, until someone makes it observe a source again. -/
namespace PageTelemetry

mutual

/-- The handlers in a chain of hooks, in the order in which they are told. -/
def Hook.handlers : Hook → List Handler
  | .observer _ h previous => Hook.handlersOf previous ++ [h]
  | .custom _ _ chained _ => Hook.handlersOf chained

def Hook.handlersOf : Option Hook → List Handler
  | none => []
  | some k => k.handlers

end

/-- Whom a task tells what, at once or by the tasks that it unfolds into. -/
def Task.tells : Task → List (Handler × Signal)
  | .hook k kind => k.handlers.map (·,.navigate kind)
  | .relay _ h kind => [(h,.navigate kind)]
  | .signal h s => [(h,s)]
  | .call _ _ | .start _ _ | .act _ => []

/-- An operation that makes a tracker observe a source. -/
def Act.Binds (t : TrackerId) (a : Act) : Prop := ∃ s, a = .subscribe s (.tracker t)

/-- Nothing of a tracker is left on a page. -/
structure Page.Absent (t : TrackerId) (p : Page) : Prop where
  hook : .tracker t ∉ Hook.handlersOf p.hook
  popState : ∀ id, (id,.handler (.tracker t)) ∉ p.popState
  lifecycle : ∀ id, (id,.handler (.tracker t)) ∉ p.lifecycle
  onLoad : ∀ source, .start t source ∉ p.onLoad
  globals : ∀ name, (name,t) ∉ p.globals

lemma Page.discard_absent (p : Page) (t : TrackerId) : p.discard.Absent t := by
  constructor <;> simp [Page.discard,Hook.handlersOf]

namespace World
variable {w w₁ w' : World} {t : TrackerId} {n : HookId} {a : Act} {h : Handler}

/-! What is due. -/

/-- What the tasks on an agenda tell a handler. -/
def due (h : Handler) (tasks : List Task) : List (Handler × Signal) :=
  (tasks.flatMap Task.tells).filter fun x => x.1 = h

lemma due_append (h : Handler) (a b : List Task) : due h (a ++ b) = due h a ++ due h b := by
  simp [due]

lemma due_cons (h : Handler) (task : Task) (rest : List Task) : due h (task::rest) = due h [task] ++ due h rest :=
  due_append h [task] rest

lemma due_eq_nil {tasks : List Task} (hnone : ∀ task ∈ tasks, ∀ s, (h,s) ∉ task.tells) : due h tasks = [] := by
  refine List.filter_eq_nil_iff.mpr ?_
  rintro ⟨hd,s⟩ hmem heq
  obtain ⟨task,htask,hs⟩ := List.mem_flatMap.mp hmem
  obtain rfl : hd = h := by simpa using heq
  exact hnone task htask s hs

/-- The tasks of a hook tell what the hook tells. -/
lemma due_hooks (h : Handler) (k : Option Hook) (kind : NavigationKind) :
    due h (k.map (Task.hook · kind)).toList =
      ((Hook.handlersOf k).map (·,.navigate kind)).filter fun x => x.1 = h := by
  cases k <;> simp [due,Hook.handlersOf,Task.tells]

/-- A hook unfolds into tasks that tell what it tells. -/
lemma callHook_due (w : World) (k : Hook) (kind : NavigationKind) :
    ∃ new, (w.callHook kind k).agenda = new ++ w.agenda ∧ (∀ t source, .start t source ∉ new) ∧
      due h new = due h [.hook k kind] := by
  cases k with
  | observer id hd previous =>
    refine ⟨_,rfl,by simp,?_⟩
    rw [due_append,due_hooks]
    simp [due,Task.tells,Hook.handlers]
  | custom id l chained last =>
    cases last with
    | true =>
      refine ⟨_,rfl,by simp,?_⟩
      rw [if_pos rfl,due_append,due_hooks]
      simp [due,Task.tells,Hook.handlers]
    | false =>
      refine ⟨_,rfl,by simp,?_⟩
      rw [if_neg Bool.false_ne_true,due_cons,due_hooks]
      simp [due,Task.tells,Hook.handlers]

/-- On a page without the tracker an operation puts nothing on the agenda that tells it. -/
lemma Causes.tells {task : Task} (hw : w.page.Absent t) (hc : w.Causes task) (s : Signal) :
    (.tracker t,s) ∉ task.tells := by
  intro hs
  cases hc with
  | hook hk =>
    obtain ⟨hd,hmem,heq⟩ := List.mem_map.mp hs
    obtain ⟨rfl,-⟩ := Prod.mk.inj heq
    have habsent := hw.hook
    rw [hk] at habsent
    exact habsent hmem
  | @popState e he =>
    obtain ⟨id,hd | l⟩ := e
    · obtain ⟨rfl,-⟩ := Prod.mk.inj (List.mem_singleton.mp hs)
      exact hw.popState id he
    · cases hs
  | @lifecycle e ev he =>
    obtain ⟨id,hd | l⟩ := e
    · obtain ⟨rfl,-⟩ := Prod.mk.inj (List.mem_singleton.mp hs)
      exact hw.lifecycle id he
    · cases hs
  | @load c => cases c <;> cases hs
  | call => cases hs

lemma Causes.start {source : Option SourceId} (hc : w.Causes (.start t source)) :
    .start t source ∈ w.page.onLoad := by
  generalize htask : Task.start t source = task at hc
  cases hc with
  | hook | call => cases htask
  | @popState e | @lifecycle e =>
    obtain ⟨id,hd | l⟩ := e <;> cases htask
  | @load c hmem =>
    cases c with
    | start => cases htask; exact hmem
    | listener => cases htask

lemma act_due (hw : w.page.Absent t) (a : Act) :
    due (.tracker t) (w.act a).agenda = due (.tracker t) w.agenda := by
  obtain ⟨new,he,hnew⟩ := w.act_agenda a
  rw [he,due_append,due_eq_nil fun task htask s => (hnew task htask).tells hw s,List.nil_append]

/-! Who sends. -/

/-- The requests that a tracker has sent. -/
def requests (t : TrackerId) (w : World) : List Delivery := w.sent.filter fun d => d.tracker = t

lemma Sends.requests_eq {ids : List TrackerId} (hs : w.Sends ids w') (ht : t ∉ ids) :
    w'.requests t = w.requests t := by
  obtain ⟨new,hsent,hsub⟩ := hs
  have hnone : new.filter (fun d => d.tracker = t) = [] := by
    refine List.filter_eq_nil_iff.mpr fun d hd heq => ht ?_
    rw [← of_decide_eq_true heq]
    exact hsub.mem (List.mem_map_of_mem hd)
  rw [requests,hsent,List.filter_append,hnone,List.append_nil]
  rfl

lemma Sends.requests_once (hs : w.Sends [t] w') :
    w'.requests t = w.requests t ∨ ∃ d, w'.requests t = w.requests t ++ [d] := by
  rcases hs.once with hsent | ⟨d,hsent,hd⟩
  · exact .inl (by rw [requests,hsent]; rfl)
  · refine .inr ⟨d,?_⟩
    rw [requests,hsent,List.filter_append,List.filter_cons_of_pos (by simp [hd])]
    rfl

/-! What comes to the page after it was discarded. -/

/-- A tracker is gone from a page, and so are all hooks up to the one of that id: the hook of the page is a later
one, a source that put a later one there would give back a later one, and none of these tells the tracker. -/
structure Released (n : HookId) (t : TrackerId) (w : World) : Prop where
  page : w.page.Absent t
  installed : t < w.trackers.length
  lastHook : n ≤ w.lastHook
  hook : ∀ k ∈ w.page.hook, n < k.id
  previous : ∀ s i, w.interception? s = some i → n < i.hook.id →
    .tracker t ∉ Hook.handlersOf i.previous ∧ ∀ k ∈ i.previous, n < k.id

/-- In a world that can be reached every interception is one of before the discard. -/
lemma Owned.discard_released (hw : w.Owned) (ht : t < w.trackers.length) : w.discard.Released w.lastHook t :=
  ⟨w.page.discard_absent t,ht,le_rfl,by simp [discard,modifyPage,Page.discard],
    fun s i hi hlt => absurd (hw.lastHook s i hi) (Nat.not_le.mpr hlt)⟩

lemma Released.reported (hw : w.Released n t) (hr : w.Reported w') : w'.Released n t := by
  obtain ⟨_,_,_,hlength,rfl⟩ := hr
  exact ⟨hw.page,hlength ▸ hw.installed,hw.lastHook,hw.hook,hw.previous⟩

lemma Released.withAgenda (hw : w.Released n t) (tasks : List Task) :
    ({ w with agenda := tasks } : World).Released n t :=
  ⟨hw.page,hw.installed,hw.lastHook,hw.hook,hw.previous⟩

lemma Released.intercepted (hw : w.Released n t) (hne : h ≠ .tracker t) {s : SourceId}
    (hs : w.sourceKind? s = some (.history none)) : (w.intercepted s h).Released n t := by
  refine ⟨⟨?_,fun id hmem => ?_,fun id hmem => ?_,hw.page.onLoad,hw.page.globals⟩,hw.installed,
    hw.lastHook.trans (Nat.le_succ _),?_,?_⟩
  · change Handler.tracker t ∉ Hook.handlersOf w.page.hook ++ [h]
    simpa [hne.symm] using hw.page.hook
  · rcases List.mem_append.mp hmem with hold | hnew
    · exact hw.page.popState id hold
    · simp [hne.symm] at hnew
  · rcases List.mem_append.mp hmem with hold | hnew
    · exact hw.page.lifecycle id hold
    · simp [hne.symm] at hnew
  · rintro _ ⟨⟩
    exact Nat.lt_succ_of_le hw.lastHook
  · intro s' i hi hlt
    rw [interception?_intercepted hs] at hi
    split_ifs at hi
    · obtain rfl := Option.some.inj hi
      exact ⟨hw.page.hook,hw.hook⟩
    · exact hw.previous s' i hi hlt

lemma Released.subscribe (hw : w.Released n t) (hne : h ≠ .tracker t) (s : SourceId) :
    (w.subscribe s h).2.Released n t := by
  rcases w.subscribe_cases s h with ⟨hs,e⟩ | ⟨hs,e⟩ | e
  · rw [e]
    exact hw.intercepted hne hs
  · rw [e]
    refine ⟨hw.page,hw.installed,hw.lastHook,hw.hook,fun s' i hi => ?_⟩
    rw [interception?_setSource_memory hs] at hi
    exact hw.previous s' i hi
  · rw [e]
    exact hw

lemma Released.restore (hw : w.Released n t) (s : SourceId) : (w.restore s).2.Released n t := by
  cases hi : w.interception? s with
  | none =>
    rw [restore_free hi]
    exact hw
  | some i =>
    rw [restore_installed hi]
    have hpage : (w.restored s i).page = w.restoredPage i := rfl
    have hhook : .tracker t ∉ Hook.handlersOf (w.restoredPage i).hook ∧
        ∀ k ∈ (w.restoredPage i).hook, n < k.id := by
      rcases w.restoredPage_hook i with ⟨e,k,hk,hid⟩ | ⟨e,-⟩
      · rw [e]
        exact hw.previous s i hi (hid ▸ hw.hook k hk)
      · rw [e]
        exact ⟨hw.page.hook,hw.hook⟩
    refine ⟨⟨hhook.1,fun id hmem => ?_,fun id hmem => ?_,?_,?_⟩,hw.installed,hw.lastHook,hhook.2,?_⟩
    · rw [hpage,restoredPage_eq] at hmem
      exact hw.page.popState id (List.mem_filter.mp hmem).1
    · rw [hpage,restoredPage_eq] at hmem
      exact hw.page.lifecycle id (List.mem_filter.mp hmem).1
    · rw [hpage,restoredPage_eq]
      exact hw.page.onLoad
    · rw [hpage,restoredPage_eq]
      exact hw.page.globals
    · intro s' j hj
      rw [interception?_restored hi] at hj
      split_ifs at hj
      exact hw.previous s' j hj

lemma Released.addSource (hw : w.Released n t) {kind : SourceKind} (hfree : ∀ i, kind ≠ .history (some i))
    (held : Bool) : (w.addSource kind held).2.Released n t := by
  refine ⟨hw.page,hw.installed,hw.lastHook,hw.hook,fun s i hi => ?_⟩
  rw [interception?_addSource w hfree] at hi
  exact hw.previous s i hi

lemma Released.start (hw : w.Released n t) {id : TrackerId} (hne : id ≠ t) (source : Option SourceId) :
    (w.start id source).Released n t := by
  refine start_invariant (hw.reported (w.report_reported id _)) ?_ ?_ source
  · exact fun u hu => hu.addSource (by simp) false
  · exact fun u s hu => hu.subscribe (by simpa using hne) s

lemma Released.addTracker (hw : w.Released n t) (st : Settings) (outlet : OutletId) :
    (w.addTracker st outlet).2.Released n t :=
  ⟨hw.page,hw.installed.trans (by simp [World.addTracker]),hw.lastHook,hw.hook,hw.previous⟩

lemma Released.expose (hw : w.Released n t) {id : TrackerId} (hne : id ≠ t) (name : String) :
    (w.modifyPage (·.expose name id)).Released n t := by
  refine ⟨⟨hw.page.hook,hw.page.popState,hw.page.lifecycle,hw.page.onLoad,fun name' hmem => ?_⟩,hw.installed,
    hw.lastHook,hw.hook,hw.previous⟩
  rcases List.mem_cons.mp hmem with heq | hold
  · exact hne (Prod.mk.inj heq).2.symm
  · exact hw.page.globals name' (List.mem_filter.mp hold).1

/-- A tracker that is installed later is another one. -/
lemma Released.install (hw : w.Released n t) (c : Config) (source : Option SourceId) (outlet : OutletId) :
    (w.install c source outlet).2.Released n t := by
  have hne : w.trackers.length ≠ t := hw.installed.ne'
  have henroll (st : Settings) : (w.enroll st outlet).Released n t := (hw.addTracker st outlet).expose hne _
  rcases w.install_cases c source outlet with e | ⟨-,st,e | e⟩
  · rw [e]
    exact hw
  · rw [e]
    exact (henroll st).start hne source
  · rw [e]
    have hp := (henroll st).page
    refine ⟨⟨hp.hook,hp.popState,hp.lifecycle,fun source' hmem => ?_,hp.globals⟩,(henroll st).installed,
      (henroll st).lastHook,(henroll st).hook,(henroll st).previous⟩
    rcases List.mem_append.mp hmem with hold | hnew
    · exact hp.onLoad source' hold
    · exact hne (LoadCallback.start.inj (List.mem_singleton.mp hnew)).1.symm

lemma Released.moveTo (hw : w.Released n t) (target : Option History) : (w.moveTo target).2.Released n t := by
  cases target with
  | none => exact hw
  | some target =>
    exact ⟨⟨hw.page.hook,hw.page.popState,hw.page.lifecycle,hw.page.onLoad,hw.page.globals⟩,hw.installed,
      hw.lastHook,hw.hook,hw.previous⟩

/-- No operation brings a tracker back but one that makes it observe a source. -/
theorem Released.act (hw : w.Released n t) (ha : ¬a.Binds t) : (w.act a).Released n t := by
  have hp := hw.page
  cases a with
  | push | replace | setHref | setTitle | setWidth | reveal | unload =>
    exact ⟨⟨hp.hook,hp.popState,hp.lifecycle,hp.onLoad,hp.globals⟩,hw.installed,hw.lastHook,hw.hook,hw.previous⟩
  | back => exact hw.moveTo _
  | forward => exact hw.moveTo _
  | hide =>
    simp only [World.act,World.hide]
    split_ifs <;>
      exact ⟨⟨hp.hook,hp.popState,hp.lifecycle,hp.onLoad,hp.globals⟩,hw.installed,hw.lastHook,hw.hook,hw.previous⟩
  | finishLoading =>
    simp only [World.act,World.finishLoading]
    split_ifs
    · exact hw
    · exact ⟨⟨hp.hook,hp.popState,hp.lifecycle,fun _ hmem => absurd hmem List.not_mem_nil,hp.globals⟩,hw.installed,
        hw.lastHook,hw.hook,hw.previous⟩
  | discard =>
    exact ⟨w.page.discard_absent t,hw.installed,hw.lastHook,fun _ hk => (Option.not_mem_none _ hk).elim,hw.previous⟩
  | track name =>
    simp only [World.act,trackExposed]
    split
    · exact hw
    · exact hw.reported (w.report_reported _ _)
  | install c source outlet => exact hw.install c source outlet
  | subscribe s hd =>
    refine hw.subscribe ?_ s
    rintro rfl
    exact ha ⟨s,rfl⟩
  | restore s => exact hw.restore s
  | onLoad label ending acts =>
    simp only [World.act,World.onLoad]
    split_ifs
    · exact hw.withAgenda _
    · refine ⟨⟨hp.hook,hp.popState,hp.lifecycle,fun source hmem => hp.onLoad source ?_,hp.globals⟩,hw.installed,
        hw.lastHook,hw.hook,hw.previous⟩
      simpa [modifyPage] using hmem
  | addPopState label ending acts =>
    refine ⟨⟨hp.hook,fun id hmem => hp.popState id ?_,hp.lifecycle,hp.onLoad,hp.globals⟩,hw.installed,hw.lastHook,
      hw.hook,hw.previous⟩
    simpa [World.act,modifyPage,Page.addPopState] using hmem
  | addLifecycle label ending acts =>
    refine ⟨⟨hp.hook,hp.popState,fun id hmem => hp.lifecycle id ?_,hp.onLoad,hp.globals⟩,hw.installed,hw.lastHook,
      hw.hook,hw.previous⟩
    simpa [World.act,modifyPage,Page.addLifecycle] using hmem
  | removePopState id =>
    exact ⟨⟨hp.hook,fun id' hmem => hp.popState id' (List.mem_filter.mp hmem).1,hp.lifecycle,hp.onLoad,hp.globals⟩,
      hw.installed,hw.lastHook,hw.hook,hw.previous⟩
  | removeLifecycle id =>
    exact ⟨⟨hp.hook,hp.popState,fun id' hmem => hp.lifecycle id' (List.mem_filter.mp hmem).1,hp.onLoad,hp.globals⟩,
      hw.installed,hw.lastHook,hw.hook,hw.previous⟩
  | wrapHook label ending acts chained last =>
    refine ⟨⟨?_,hp.popState,hp.lifecycle,hp.onLoad,hp.globals⟩,hw.installed,hw.lastHook.trans (Nat.le_succ _),?_,
      hw.previous⟩
    · change Handler.tracker t ∉ Hook.handlersOf (if chained then w.page.hook else none)
      split_ifs
      · exact hp.hook
      · exact List.not_mem_nil
    · rintro _ ⟨⟩
      exact Nat.lt_succ_of_le hw.lastHook
  | removeHook =>
    exact ⟨⟨List.not_mem_nil,hp.popState,hp.lifecycle,hp.onLoad,hp.globals⟩,hw.installed,hw.lastHook,
      fun _ hk => (Option.not_mem_none _ hk).elim,hw.previous⟩

/-! What is done on such a page. -/

lemma Released.not_mem_speakers (hw : w.Released n t) (a : Act) : t ∉ a.speakers w := by
  cases a with
  | track name =>
    intro hmem
    obtain ⟨pre,post,hglobals,-⟩ := List.lookup_eq_some_iff.mp (Option.mem_toList.mp hmem)
    exact hw.page.globals Page.namespaceName (by rw [hglobals]; simp)
  | install c source outlet => exact fun hmem => hw.installed.ne (List.mem_singleton.mp hmem)
  | _ => exact List.not_mem_nil

/-- A task that may have the tracker report is done with it; any other one leaves what it tells to the tasks that
it unfolds into, none of which begins the tracker. -/
def Unfolds (t : TrackerId) (w : World) (task : Task) : Prop :=
  ∃ new, (w.perform task).agenda = new ++ w.agenda ∧ (∀ source, .start t source ∉ new) ∧
    (t ∉ task.speakers w ∧ due (.tracker t) new = due (.tracker t) [task] ∨
      task.speakers w = [t] ∧ new = [] ∧ ∃ x, due (.tracker t) [task] = [x])

/-- A handler is told by a task that adds nothing to the agenda. -/
lemma unfolds_told {task : Task} {s : Signal} (htells : task.tells = [(h,s)])
    (hspeakers : task.speakers w = h.speakers) (hagenda : (w.perform task).agenda = w.agenda) : w.Unfolds t task := by
  refine ⟨[],hagenda,by simp,?_⟩
  rw [hspeakers]
  by_cases hhd : h = .tracker t
  · subst hhd
    exact .inr ⟨rfl,rfl,_,by simp [due,htells]; rfl⟩
  · refine .inl ⟨?_,by simp [due,htells,hhd]⟩
    cases h with
    | tracker id => simpa [Handler.speakers,eq_comm] using hhd
    | log label => exact List.not_mem_nil

theorem Released.unfolds (hw : w.Released n t) {task : Task} (hstart : ∀ source, task ≠ .start t source) :
    w.Unfolds t task := by
  cases task with
  | hook k kind =>
    obtain ⟨new,hagenda,hstarts,hdue⟩ := w.callHook_due k kind
    exact ⟨new,hagenda,hstarts t,.inl ⟨List.not_mem_nil,hdue⟩⟩
  | relay id hd kind =>
    refine unfolds_told rfl rfl ?_
    simp only [perform]
    split_ifs
    · exact (w.signal_reported hd _).agenda
    · rfl
  | signal hd s => exact unfolds_told rfl rfl (w.signal_reported hd s).agenda
  | call l o =>
    have hacts : due (.tracker t) (l.acts.map .act) = due (.tracker t) [.call l o] := by
      rw [due_eq_nil,due_eq_nil] <;> simp [Task.tells]
    simp only [Unfolds,perform,call]
    split_ifs
    · exact ⟨_,rfl,by simp,.inl ⟨List.not_mem_nil,hacts⟩⟩
    · exact ⟨[],rfl,by simp,.inl ⟨List.not_mem_nil,rfl⟩⟩
  | start id source =>
    refine ⟨[],start_agenda ..,by simp,.inl ⟨?_,rfl⟩⟩
    intro hmem
    obtain rfl := List.mem_singleton.mp hmem
    exact hstart source rfl
  | act a =>
    obtain ⟨new,hagenda,hnew⟩ := w.act_agenda a
    refine ⟨new,hagenda,fun source hmem => hw.page.onLoad source (hnew _ hmem).start,
      .inl ⟨hw.not_mem_speakers a,?_⟩⟩
    exact due_eq_nil fun task htask s => (hnew task htask).tells hw.page s

/-- One step of what is due to a tracker: none of it is told and the tracker sends nothing, or the first of it is
told and the tracker sends at most one request. -/
def DueStep (t : TrackerId) (w w' : World) : Prop :=
  (due (.tracker t) w'.agenda = due (.tracker t) w.agenda ∧ w'.requests t = w.requests t) ∨
    ∃ x, due (.tracker t) w.agenda = x::due (.tracker t) w'.agenda ∧
      (w'.requests t = w.requests t ∨ ∃ d, w'.requests t = w.requests t ++ [d])

/-- No task begins a tracker. -/
def Startless (t : TrackerId) (w : World) : Prop := ∀ source, .start t source ∉ w.agenda

/-- The next task makes a tracker observe a source. -/
def BindsNext (t : TrackerId) (w : World) : Prop := ∃ a rest, w.agenda = .act a::rest ∧ a.Binds t

theorem Released.step_due (hw : w.Released n t) (hstart : w.Startless t) :
    w.step.Startless t ∧ w.DueStep t w.step := by
  cases hagenda : w.agenda with
  | nil =>
    rw [step_of_agenda_nil hagenda]
    exact ⟨hstart,.inl ⟨rfl,rfl⟩⟩
  | cons task rest =>
    rw [Startless,hagenda] at hstart
    obtain ⟨new,hnew,hstarts,hdue⟩ :=
      (hw.withAgenda rest).unfolds fun source heq => hstart source (heq ▸ List.mem_cons_self)
    have hsends := perform_sends { w with agenda := rest } task
    rw [step_of_agenda_cons hagenda]
    refine ⟨fun source hmem => ?_,?_⟩
    · rw [hnew] at hmem
      rcases List.mem_append.mp hmem with hmem | hmem
      · exact hstarts source hmem
      · exact hstart source (List.mem_cons_of_mem _ hmem)
    · rw [DueStep,hnew,hagenda,due_append,due_cons _ task]
      rcases hdue with ⟨hspeakers,hdue⟩ | ⟨hspeakers,rfl,x,hdue⟩
      · exact .inl ⟨by rw [hdue],hsends.requests_eq hspeakers⟩
      · rw [hspeakers] at hsends
        exact .inr ⟨x,by rw [hdue]; rfl,hsends.requests_once⟩

theorem Released.step (hw : w.Released n t) (hstart : w.Startless t) (hnext : ¬w.BindsNext t) :
    w.step.Released n t := by
  cases hagenda : w.agenda with
  | nil => rwa [step_of_agenda_nil hagenda]
  | cons task rest =>
    rw [step_of_agenda_cons hagenda]
    refine perform_invariant (P := fun u => u.Released n t) (hw.withAgenda rest) (fun _ _ hu => hu.reported)
      (fun _ tasks hu => hu.withAgenda _) ?_ ?_
    · rintro id source rfl
      refine (hw.withAgenda rest).start ?_ source
      rintro rfl
      exact hstart source (by rw [hagenda]; exact List.mem_cons_self)
    · rintro a rfl
      exact (hw.withAgenda rest).act fun ha => hnext ⟨a,rest,hagenda,ha⟩

/-- Whatever happens short of that, the tracker stays away, and what is due to it does not become more. -/
theorem Released.happens (hw : w.Released n t) (hstart : w.Startless t) (hnext : ¬w.BindsNext t)
    (h : Happens (fun a => ¬a.Binds t) w w') :
    w'.Released n t ∧ w'.Startless t ∧ due (.tracker t) w'.agenda <:+ due (.tracker t) w.agenda := by
  cases h with
  | step =>
    obtain ⟨hstart',⟨hdue,-⟩ | ⟨x,hdue,-⟩⟩ := hw.step_due hstart
    · exact ⟨hw.step hstart hnext,hstart',by rw [hdue]⟩
    · exact ⟨hw.step hstart hnext,hstart',by rw [hdue]; exact List.suffix_cons ..⟩
  | @act a ha =>
    refine ⟨hw.act ha,fun source hmem => ?_,by rw [act_due hw.page]⟩
    obtain ⟨new,hagenda,hnew⟩ := w.act_agenda a
    rw [hagenda] at hmem
    rcases List.mem_append.mp hmem with hmem | hmem
    · exact hw.page.onLoad source (hnew _ hmem).start
    · exact hstart source hmem
  | report hr =>
    refine ⟨hw.reported hr,?_,?_⟩
    · rw [Startless,hr.agenda]
      exact hstart
    · rw [hr.agenda]
  | keep => exact ⟨⟨hw.page,hw.installed,hw.lastHook,hw.hook,hw.previous⟩,hstart,List.suffix_rfl⟩
  | hold id held =>
    refine ⟨⟨hw.page,hw.installed,hw.lastHook,hw.hook,fun s i hi => ?_⟩,hstart,List.suffix_rfl⟩
    rw [interception?_hold] at hi
    exact hw.previous s i hi
  | addTracker s outlet => exact ⟨hw.addTracker s outlet,hstart,List.suffix_rfl⟩
  | addSource hfree held => exact ⟨hw.addSource hfree held,hstart,List.suffix_rfl⟩

/-- A world in which anything has happened since the page was new, also to what is exposed on it. -/
inductive Lived : World → Prop
  | fresh {w : World} (h : w.Fresh) : Lived w
  | happens {w w' : World} (h : Lived w) (hw : Happens (fun _ => True) w w') : Lived w'
  | expose {w : World} (h : Lived w) (name : String) (id : TrackerId) : Lived (w.modifyPage (·.expose name id))

lemma Lived.owned (h : w.Lived) : w.Owned := by
  induction h with
  | fresh h => exact h.owned
  | happens _ hw ih => exact ih.happens hw
  | expose _ name id ih =>
    exact ⟨ih.obeys.of_same,ih.lastHook⟩

/-- Someone discards the page, between two tasks or as one of them. -/
inductive Discards (w : World) : World → Prop
  | act : Discards w w.discard
  | task {rest : List Task} (h : w.agenda = .act .discard::rest) : Discards w w.step

lemma Discards.released (h : w.Discards w₁) (hw : w.Owned) (ht : t < w.trackers.length) :
    w₁.Released w.lastHook t ∧ due (.tracker t) w₁.agenda = due (.tracker t) w.agenda := by
  have hreleased := hw.discard_released ht
  cases h with
  | act => exact ⟨hreleased,rfl⟩
  | @task rest hagenda =>
    rw [step_of_agenda_cons hagenda,hagenda,due_cons]
    exact ⟨hreleased.withAgenda rest,rfl⟩

/-- What may happen as long as nobody makes a tracker observe a source or exposes its API. -/
inductive LeavesOut (t : TrackerId) : World → World → Prop
  | happens {w w' : World} (hnext : ¬w.BindsNext t) (h : Happens (fun a => ¬a.Binds t) w w') : LeavesOut t w w'
  | expose (w : World) (name : String) {id : TrackerId} (hne : id ≠ t) :
    LeavesOut t w (w.modifyPage (·.expose name id))

/-- A page is discarded, maybe by a listener within a dispatch, but not while a tracker's own start waits in one.
Then, whatever happens until someone brings the tracker back, nothing of it is on the page; no event adds to what is
due to it or has it send; and all that is still to be done has it send at most one request for each signal that the
dispatches under way were about to tell it, in their order. -/
theorem discarded_due (hlived : w.Lived) (ht : t < w.trackers.length) (hdiscard : w.Discards w₁)
    (hstart : w₁.Startless t) (hrun : Relation.ReflTransGen (LeavesOut t) w₁ w') :
    w'.page.Absent t ∧ due (.tracker t) w'.agenda <:+ due (.tracker t) w.agenda ∧
      (∀ a, due (.tracker t) (w'.act a).agenda = due (.tracker t) w'.agenda ∧
        (w'.act a).requests t = w'.requests t) ∧ w'.DueStep t w'.step := by
  obtain ⟨hreleased,hdue⟩ := hdiscard.released hlived.owned ht
  -- By induction on what happens; the tracker's start is never on the agenda, so no step can bring it back.
  obtain ⟨hw',hstart',hsuffix⟩ : w'.Released w.lastHook t ∧ w'.Startless t ∧
      due (.tracker t) w'.agenda <:+ due (.tracker t) w.agenda := by
    induction hrun with
    | refl => exact ⟨hreleased,hstart,by rw [hdue]⟩
    | tail _ hlast ih =>
      obtain ⟨hu,hustart,hsuffix⟩ := ih
      cases hlast with
      | happens hnext h =>
        obtain ⟨hu',hustart',hless⟩ := hu.happens hustart hnext h
        exact ⟨hu',hustart',hless.trans hsuffix⟩
      | expose name hne => exact ⟨hu.expose hne name,hustart,hsuffix⟩
  refine ⟨hw'.page,hsuffix,fun a => ⟨act_due hw'.page a,?_⟩,(hw'.step_due hstart').2⟩
  exact (w'.act_sends a).requests_eq (hw'.not_mem_speakers a)

/-- A page that a visitor went on to, with a recorder and a source that observes nothing yet. -/
def unvisited (ready : ReadyState) : World where
  page := { history := ⟨["https://a.io/","https://a.io/b"],1⟩, ready := ready }
  sources := [{ kind := .history none }]
  outlets := [{ transport := .recording }]

/-- An embedder installs a tracker and keeps its API. -/
def occupied (w : World) : World :=
  { w.act (.install { siteKey := some "k", apiUrl := some "https://a.io" } none 0) with handles := [0] }

lemma occupied_lived : (unvisited .complete).occupied.Lived := by
  have hfresh : (unvisited .complete).Fresh := by
    refine ⟨rfl,rfl,rfl,rfl,rfl,?_⟩
    rintro (_ | s) <;> rfl
  have hinstalled := (Lived.fresh hfresh).happens
    (.act _ (a := .install { siteKey := some "k", apiUrl := some "https://a.io" } none 0) trivial)
  exact hinstalled.happens (.keep _ true ⟨0⟩ [0] [{ transport := .recording }])

/-- Discarded from outside of any dispatch, the page has nothing more for a tracker whose API is kept. -/
theorem discarded_due_occupied : (unvisited .complete).occupied.page.hook.isSome = true ∧
    ∀ w', Relation.ReflTransGen (LeavesOut 0) (unvisited .complete).occupied.discard w' →
      w'.page.Absent 0 ∧ (∀ a, (w'.act a).requests 0 = w'.requests 0) ∧ w'.step.requests 0 = w'.requests 0 := by
  have hidle : (unvisited .complete).occupied.discard.agenda = [] := rfl
  have hstart : (unvisited .complete).occupied.discard.Startless 0 := by simp [Startless,hidle]
  refine ⟨rfl,fun w' hrun => ?_⟩
  obtain ⟨habsent,hsuffix,hact,hstep⟩ := discarded_due occupied_lived (by decide +kernel) .act hstart hrun
  refine ⟨habsent,fun a => (hact a).2,?_⟩
  rcases hstep with ⟨-,hsame⟩ | ⟨x,hdue,-⟩
  · exact hsame
  · rw [List.suffix_nil.mp hsuffix] at hdue
    cases hdue

/-- A discarded page, whose tracker was made to observe the source. -/
def reoccupied : World := (unvisited .complete).occupied.discard.act (.subscribe 0 (.tracker 0))

/- A tracker that is made to observe a source of the discarded page sends again. -/
example : (reoccupied.requests 0).length < ((reoccupied.run (.push "/c")).requests 0).length := by decide +kernel

/-- The document is complete, and a listener is about to discard the page before its tracker begins. -/
def arriving : World := ((unvisited .loading).act (.onLoad "d" "" [.discard])).occupied.finishLoading.step

/-- The visitor has gone back, and a listener is about to discard the page. -/
def departing : World := ((unvisited .complete).act (.addPopState "d" "" [.discard])).occupied.back.2.step

/-- A tracker whose start waits in the dispatch that discards the page still sends and patches the page; and one that
listens to the event whose dispatch discards the page still sends. -/
theorem discarded_tracker_sends :
    (arriving.Discards arriving.step ∧ (arriving.step.requests 0).length < (arriving.step.step.requests 0).length ∧
      arriving.step.page.hook.isSome = false ∧ arriving.step.step.page.hook.isSome = true) ∧
    departing.Discards departing.step ∧
      (departing.step.requests 0).length < (departing.step.step.requests 0).length := by
  refine ⟨⟨.task rfl,?_⟩,.task rfl,?_⟩
  all_goals decide +kernel

end World
end PageTelemetry
