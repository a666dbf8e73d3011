import PageTelemetry.Proofs.Patching.Register

/-! Sources that intercept one page, and others that wrap its hook, in any order. Whatever the order, a page
tells exactly the hook it had at first, those who wrapped it and the sources that are installed at the moment. -/
namespace PageTelemetry

/-- What is done to the hooks of a page from outside, between dispatches. -/
inductive Patch
  | subscribe (source : SourceId) (h : Handler)
  | restore (source : SourceId)
  /-- Someone takes the hook that is installed and installs one that calls it once. -/
  | wrap (l : Listener) (last : Bool)

namespace Patch

def apply (w : World) : Patch → World
  | .subscribe source h => (w.subscribe source h).2
  | .restore source => (w.restore source).2
  | .wrap l last => (w.wrapHook l true last).2

/-- Patches are those of the sources that were free at first, and wrappers do not patch the page in their
turn. -/
def Valid (w₀ : World) : Patch → Prop
  | .subscribe source _ | .restore source => w₀.Free source
  | .wrap l _ => Rules.quiet.AllowsListener l

/-- Which sources intercept, with their handlers, oldest subscription first. -/
def after (installed : List (SourceId × Handler)) : Patch → List (SourceId × Handler)
  | .subscribe source h => if source ∈ installed.map Prod.fst then installed else installed ++ [(source,h)]
  | .restore source => installed.filter (·.1 != source)
  | .wrap _ _ => installed

def installed (ps : List Patch) : List (SourceId × Handler) := ps.foldl after []

def wrapper? : Patch → Option Listener
  | .wrap l _ => some l
  | _ => none

def wrappers (ps : List Patch) : List Listener := ps.filterMap wrapper?

/-- A signal to each source that intercepts. -/
def signals (ps : List Patch) (s : Signal) : List Task := (installed ps).map fun x => .signal x.2 s

end Patch
open Cell

namespace World
variable {w₀ w w' : World} {cells : List Cell} {ps : List Patch}

/-- A page after patches, with visits in between. -/
inductive Patched (w₀ : World) : List Patch → World → Prop
  | start : Patched w₀ [] w₀
  | patch {ps : List Patch} {w : World} (h : Patched w₀ ps w) (p : Patch) (hp : p.Valid w₀) :
    Patched w₀ (ps ++ [p]) (p.apply w)
  /-- Something happens on the page, together with all that it causes. -/
  | visit {ps : List Patch} {w w' : World} {a : Act} (h : Patched w₀ ps w) (ha : Rules.quiet.Allows a)
    (hw : (w.act a).Settles w') : Patched w₀ ps w'
  /-- A tracker is asked to report. -/
  | report {ps : List Patch} {w : World} (h : Patched w₀ ps w) (id : TrackerId)
    (f : Tracker → Payload.Ambient → ℤ → Option Payload × Tracker) : Patched w₀ ps (w.report id f).2
  | wait {ps : List Patch} {w : World} (h : Patched w₀ ps w) (now : ℤ) :
    Patched w₀ ps { w with clock := ⟨now⟩ }

lemma Registers.same (h : Registers w₀ w cells) (hs : w.SameRegistrations w') (hq : w'.Obeys Rules.quiet)
    (hidle : w'.agenda = []) : Registers w₀ w' cells := by
  have hkind (s : SourceId) : w'.sourceKind? s = w.sourceKind? s := by rw [World.sourceKind?,hs.sources]; rfl
  have hi (s : SourceId) : w'.interception? s = w.interception? s := by
    rw [World.interception?,hkind]
    rfl
  refine ⟨hq,hidle,hs.hook.trans h.hook,h.sorted,?_,?_,?_,?_,?_,?_,h.free,hs.popState.trans h.popState,
    hs.lifecycle.trans h.lifecycle,?_,h.distinct⟩
  · rw [hs.lastHook]
    exact h.young
  · rw [hs.lastHook,hs.lastListener]
    exact h.older
  · intro s hfree
    rw [hkind]
    exact h.sources s hfree
  · intro s hfree
    rw [hi]
    exact h.others s hfree
  · intro pre x post he
    rw [hi]
    exact h.installed pre x post he
  · intro s i hfree hsi
    rw [hi] at hsi
    exact h.complete s i hfree hsi
  · rw [hs.lastListener]
    exact h.listeners

lemma Registers.subscribe (h : Registers w₀ w cells) {s : SourceId} (hs : w₀.Free s) (hd : Handler) :
    ∃ cells', Registers w₀ (w.subscribe s hd).2 cells' ∧
      names cells' = Patch.after (names cells) (.subscribe s hd) ∧ Cell.listeners cells' = Cell.listeners cells := by
  obtain ⟨i,hk⟩ := h.sources s hs
  have hi := interception?_of_sourceKind? hk
  cases i with
  | none =>
    rw [subscribe_free hk]
    refine ⟨_,h.intercept hs hk hd,?_,rfl⟩
    have hnew : s ∉ (names cells).map Prod.fst := by
      intro hmem
      obtain ⟨⟨_,_⟩,hx,rfl⟩ := List.mem_map.mp hmem
      obtain ⟨x,hx,he⟩ := List.mem_map.mp hx
      obtain ⟨_,_,-,hx'⟩ := h.interception hx
      obtain ⟨rfl,-⟩ := Prod.mk.inj he
      rw [hi] at hx'
      cases hx'
    rw [Patch.after,if_neg hnew,names,subscriptions_live,List.map_append]
    rfl
  | some i =>
    rw [subscribe_installed hi]
    refine ⟨cells,h,?_,rfl⟩
    obtain ⟨x,hx,rfl⟩ := h.complete s i hs hi
    have hold : x.source ∈ (names cells).map Prod.fst :=
      List.mem_map.mpr ⟨(x.source,x.handler),List.mem_map.mpr ⟨x,hx,rfl⟩,rfl⟩
    rw [Patch.after,if_pos hold]

lemma Registers.restore (h₀ : w₀.AtRest) (h : Registers w₀ w cells) {s : SourceId} (hs : w₀.Free s) :
    ∃ cells', Registers w₀ (w.restore s).2 cells' ∧
      names cells' = Patch.after (names cells) (.restore s) ∧ Cell.listeners cells' = Cell.listeners cells := by
  cases hi : w.interception? s with
  | none =>
    rw [restore_free hi]
    refine ⟨cells,h,?_,rfl⟩
    refine (List.filter_eq_self.mpr fun e he => ?_).symm
    obtain ⟨x,hx,rfl⟩ := List.mem_map.mp he
    obtain ⟨_,_,-,hx'⟩ := h.interception hx
    have hne : x.source ≠ s := by
      rintro rfl
      rw [hi] at hx'
      cases hx'
    simpa using hne
  | some i =>
    obtain ⟨x,hx,rfl⟩ := h.complete s i hs hi
    obtain ⟨pre,post,rfl,hi'⟩ := h.interception hx
    rw [restore_installed hi']
    refine ⟨_,h.withdraw h₀,?_,listeners_withdraw pre post x⟩
    have hsubs := subscriptions_of_live pre post x
    have hdistinct := h.distinct_of_live
    rw [names,names,subscriptions_withdraw,hsubs]
    exact (filter_entries (fun y => (y.source,y.handler)) fun y hy => (hdistinct y hy).1).symm

/-- The register of a patched page says which sources intercept and who wrapped its hook. -/
theorem Patched.registers (h₀ : w₀.AtRest) (h : w₀.Patched ps w) :
    ∃ cells, Registers w₀ w cells ∧ names cells = Patch.installed ps ∧
      Cell.listeners cells = Patch.wrappers ps := by
  induction h with
  | start => exact ⟨[],h₀.registers,rfl,rfl⟩
  | @patch ps w h p hp ih =>
    obtain ⟨cells,hr,hn,hl⟩ := ih
    rw [Patch.installed,List.foldl_append,Patch.wrappers,List.filterMap_append]
    cases p with
    | subscribe s hd =>
      obtain ⟨cells',hr',hn',hl'⟩ := hr.subscribe hp hd
      refine ⟨cells',hr',?_,?_⟩
      · rw [hn',hn]
        rfl
      · rw [hl',hl]
        exact (List.append_nil _).symm
    | restore s =>
      obtain ⟨cells',hr',hn',hl'⟩ := hr.restore h₀ hp
      refine ⟨cells',hr',?_,?_⟩
      · rw [hn',hn]
        rfl
      · rw [hl',hl]
        exact (List.append_nil _).symm
    | wrap l last =>
      refine ⟨_,hr.wrap hp last,hn,?_⟩
      rw [listeners_wrapper,hl]
      rfl
  | @visit ps w w' h a ha hw ih =>
    obtain ⟨cells,hr,hn,hl⟩ := ih
    obtain ⟨own,-⟩ := id ha
    obtain ⟨hq,hs⟩ := quiet_settles (hr.quiet.act (Rules.quiet_sound _) ha) hw
    exact ⟨cells,hr.same ((w.act_sameRegistrations own).trans hs) hq hw.agenda,hn,hl⟩
  | @report ps w h id f ih =>
    obtain ⟨cells,hr,hn,hl⟩ := ih
    have hrep := w.report_reported id f
    refine ⟨cells,hr.same hrep.sameRegistrations (hr.quiet.reported hrep) ?_,hn,hl⟩
    obtain ⟨_,_,_,-,e⟩ := hrep
    rw [e]
    exact hr.idle
  | @wait ps w h now ih =>
    obtain ⟨cells,hr,hn,hl⟩ := ih
    refine ⟨cells,hr.same ⟨rfl,rfl,rfl,rfl,rfl,rfl⟩ ?_ hr.idle,hn,hl⟩
    exact hr.quiet.of_same

/-- The calls for a change of the location: the hook that the page had at first, everyone who wrapped it and
the handler of every source that is installed, each once and nobody else; the handlers in the order of their
subscriptions. -/
structure Plan (w₀ : World) (ps : List Patch) (kind : NavigationKind) (plan : List Task) : Prop where
  calls : plan.Perm (hookTasks w₀.page kind ++ (Patch.wrappers ps).map (.call · (.history kind)) ++
    Patch.signals ps (.navigate kind))
  order : (Patch.signals ps (.navigate kind)).Sublist plan

lemma plan_calls (w₀ : World) (hn : names cells = Patch.installed ps)
    (hl : Cell.listeners cells = Patch.wrappers ps) (kind : NavigationKind) :
    Plan w₀ ps kind (Cell.calls w₀.page.hook kind cells) := by
  have hsignals : Patch.signals ps (.navigate kind) =
      (subscriptions cells).map fun x => .signal x.handler (.navigate kind) := by
    rw [Patch.signals,← hn,names,List.map_map]
    rfl
  constructor
  · rw [hsignals,← hl]
    exact calls_perm w₀.page.hook kind cells
  · rw [hsignals]
    exact signals_sublist_calls w₀.page.hook kind cells

/-- A change of the location that has been made, but not told yet. -/
lemma Registers.settles_told_iff (h₀ : w₀.AtRest) (h : Registers w₀ w cells) (f : Page → History)
    (kind : NavigationKind)
    (W : World) :
    let w₁ := w.modifyPage fun p => { p with history := f p }
    (w₁.enqueue (hookTasks w₁.page kind)).Settles W ↔
      (w₁.enqueue (Cell.calls w₀.page.hook kind cells)).Settles W := by
  intro w₁
  have hq : w₁.Obeys Rules.quiet := h.quiet.of_same
  have hhook : w₁.page.hook = Cell.chain w₀.page.hook cells := h.hook
  rw [hookTasks,hhook]
  refine settles_chain_iff hq ?_ (fun c hc => h.agrees h₀ hc) W
  rw [← hhook]
  exact hq.hook

/-- Everything that a patched page does to its hooks and listeners: a push or a replacement comes to the calls
of the plan, made one after the other, and a move, a hiding or an unloading to the listeners that the page had
at first, followed by one signal for each source that is installed. Without such sources the listeners are those
of the first page. -/
theorem patched_tells (h₀ : w₀.AtRest) (h : w₀.Patched ps w) :
    (∃ plan, Plan w₀ ps .push plan ∧ ∀ url W, (w.push url).Settles W ↔
      ((w.modifyPage fun p => { p with history := p.history.push (p.resolve url) }).enqueue plan).Settles W) ∧
    (∃ plan, Plan w₀ ps .replace plan ∧ ∀ url W, (w.replace url).Settles W ↔
      ((w.modifyPage fun p => { p with history := p.history.replace (p.resolve url) }).enqueue plan).Settles W) ∧
    (∀ target, w.page.history.back? = some target →
      w.back = (true,(w.modifyPage fun p => { p with history := target }).enqueue
        (w₀.page.popState.map popStateTask ++ Patch.signals ps (.navigate .pop)))) ∧
    (∀ target, w.page.history.forward? = some target →
      w.forward = (true,(w.modifyPage fun p => { p with history := target }).enqueue
        (w₀.page.popState.map popStateTask ++ Patch.signals ps (.navigate .pop)))) ∧
    (w.page.visibility = .visible → w.hide = (w.modifyPage fun p => { p with visibility := .hidden }).enqueue
      (w₀.page.lifecycle.map (lifecycleTask .hidden) ++ Patch.signals ps .hidden)) ∧
    w.unload = w.enqueue (w₀.page.lifecycle.map (lifecycleTask .unload) ++ Patch.signals ps .unload) ∧
    (Patch.installed ps = [] →
      w.page.popState = w₀.page.popState ∧ w.page.lifecycle = w₀.page.lifecycle) := by
  obtain ⟨cells,hr,hn,hl⟩ := h.registers h₀
  have hpop : w.page.popState.map popStateTask =
      w₀.page.popState.map popStateTask ++ Patch.signals ps (.navigate .pop) := by
    rw [hr.popState,List.map_append,Patch.signals,← hn,names,List.map_map,List.map_map]
    rfl
  have hlife (e : LifecycleEvent) : w.page.lifecycle.map (lifecycleTask e) =
      w₀.page.lifecycle.map (lifecycleTask e) ++ Patch.signals ps e.signal := by
    rw [hr.lifecycle,List.map_append,Patch.signals,← hn,names,List.map_map,List.map_map]
    rfl
  refine ⟨⟨_,plan_calls w₀ hn hl .push,fun url W => ?_⟩,
    ⟨_,plan_calls w₀ hn hl .replace,fun url W => ?_⟩,?_,?_,?_,?_,?_⟩
  · exact hr.settles_told_iff h₀ (fun p => p.history.push (p.resolve url)) .push W
  · exact hr.settles_told_iff h₀ (fun p => p.history.replace (p.resolve url)) .replace W
  · intro target htarget
    rw [back,htarget,moveTo,← hpop]
    rfl
  · intro target htarget
    rw [forward,htarget,moveTo,← hpop]
    rfl
  · intro hv
    rw [hide,if_pos hv]
    exact congrArg (enqueue _) (hlife .hidden)
  · exact congrArg (enqueue _) (hlife .unload)
  · intro hnone
    have hempty : subscriptions cells = [] := by
      rw [hnone,names,List.map_eq_nil_iff] at hn
      exact hn
    rw [hr.popState,hr.lifecycle,hempty]
    exact ⟨List.append_nil _,List.append_nil _⟩

/-- A page whose hook redirects, with two sources. -/
def redirecting : World where
  page :=
    { history := .ofHref "https://a.io/", ready := .complete
      hook := some (.custom 1 ⟨"router","/old",[.replace "/new"]⟩ none false) }
  sources := [{ kind := .history none },{ kind := .history none }]
  lastHook := 1

lemma redirecting_atRest : redirecting.AtRest where
  quiet := by
    refine ⟨?_,by simp [redirecting],by simp [redirecting],by simp [redirecting],by simp [redirecting],?_⟩
    · rintro _ ⟨⟩
      refine .custom ?_ (by simp)
      intro a ha
      obtain rfl := List.mem_singleton.mp ha
      exact ⟨rfl,by simp [Act.reaction]⟩
    · rintro (_ | _ | s) i hi <;> simp [interception?,sourceKind?,redirecting] at hi
  idle := rfl
  hook := by
    rintro _ ⟨⟩
    decide
  interceptions := by rintro (_ | _ | s) i hi <;> simp [interception?,sourceKind?,redirecting] at hi
  popState := by simp [redirecting]
  lifecycle := by simp [redirecting]

/-- The first source is restored while its hook stands below a wrapper and that of the second source. -/
theorem patched_tells_redirecting : ∃ w plan,
    redirecting.Patched [.subscribe 0 (.log "a"),.wrap ⟨"w","",[]⟩ true,.subscribe 1 (.log "b"),.restore 0] w ∧
      Plan redirecting [.subscribe 0 (.log "a"),.wrap ⟨"w","",[]⟩ true,.subscribe 1 (.log "b"),.restore 0] .push
        plan ∧
      ∀ url W, (w.push url).Settles W ↔
        ((w.modifyPage fun p => { p with history := p.history.push (p.resolve url) }).enqueue plan).Settles W := by
  have h₁ : redirecting.Patched [.subscribe 0 (.log "a")] _ :=
    .patch .start (.subscribe 0 (.log "a")) rfl
  have h₂ := h₁.patch (.wrap ⟨"w","",[]⟩ true) (by simp [Patch.Valid,Rules.AllowsListener])
  have h₃ := h₂.patch (.subscribe 1 (.log "b")) rfl
  have h₄ := h₃.patch (.restore 0) rfl
  obtain ⟨⟨plan,hplan,hpush⟩,-⟩ := patched_tells redirecting_atRest h₄
  exact ⟨_,plan,h₄,hplan,hpush⟩

example : Patch.installed [.subscribe 0 (.log "a"),.wrap ⟨"w","",[]⟩ true,.subscribe 1 (.log "b"),.restore 0] =
    [(1,.log "b")] := rfl

end World
end PageTelemetry
