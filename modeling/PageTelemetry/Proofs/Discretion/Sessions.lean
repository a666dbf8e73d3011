import PageTelemetry.Proofs.Discretion.Replays
import PageTelemetry.Session

/-! Sessions of two embedders whose pages differ in nothing that counts. Both are answered the same, and the same
requests are sent. -/
namespace PageTelemetry.Session
variable {m : Scope} {s s' : Session} {w w' : World}

/-- A step that neither leads anywhere nor leaves anything on the page. -/
def Step.isPlain : Step → Bool
  | .page _ | .install .. | .installTag .. | .installReal .. | .attach _ | .wrapHook .. | .addPopState _
  | .addLifecycle _ => false
  | _ => true

/-- Two steps that differ in nothing that counts. -/
inductive Step.Alike (m : Scope) : Step → Step → Prop
  | plain {a : Step} (h : a.isPlain = true) : Step.Alike m a a
  | page {a a' : Act} (h : a.Alike m a') : Step.Alike m (.page a) (.page a')
  | install {v : Json} (h : ∀ c, Config.ofJson? v = some c → c.includeQuery = true → m.queries = true)
    (source : Option String) : Step.Alike m (.install v source) (.install v source)
  | installTag {tag : ScriptTag} (h : ∀ c, tag.config = .ok c → c.includeQuery = true → m.queries = true)
    (source : Option String) : Step.Alike m (.installTag tag source) (.installTag tag source)
  | installReal {tag : ScriptTag} {e : Config.Environment}
    (h : ∀ c, Config.layered tag {} e = .ok c → c.includeQuery = true → m.queries = true) :
    Step.Alike m (.installReal tag e) (.installReal tag e)
  | attach {v : Json} (h : ∀ c, Config.ofJson? v = some c → c.includeQuery = true → m.queries = true) :
    Step.Alike m (.attach v) (.attach v)
  | wrapHook {l l' : Listener} (h : l.Alike m l') (chained last : Bool) :
    Step.Alike m (.wrapHook l chained last) (.wrapHook l' chained last)
  | addPopState {l l' : Listener} (h : l.Alike m l') : Step.Alike m (.addPopState l) (.addPopState l')
  | addLifecycle {l l' : Listener} (h : l.Alike m l') : Step.Alike m (.addLifecycle l) (.addLifecycle l')

/-- Two sessions with the same names in worlds that differ in nothing that counts. -/
structure Alike (m : Scope) (s s' : Session) : Prop where
  world : s.world.Alike m s'.world
  sources : s.sources = s'.sources
  hooks : s.hooks = s'.hooks
  popStates : s.popStates = s'.popStates
  lifecycles : s.lifecycles = s'.lifecycles

/-- The same answer, and sessions that differ in nothing that counts. -/
structure AnswerAlike (m : Scope) (r r' : Answer × Session) : Prop where
  answer : r.1 = r'.1
  session : r.2.Alike m r'.2

/-! What an embedder looks up. -/

lemma Alike.page? (h : s.Alike m s') : s.page? = s'.page? := by rw [Session.page?,Session.page?,h.world.pageHeld]

lemma Alike.tracker? (h : s.Alike m s') (api : Option ℕ) : s.tracker? api = s'.tracker? api := by
  unfold Session.tracker?
  rw [h.world.handles]

lemma Alike.source? (h : s.Alike m s') (name : String) : s.source? name = s'.source? name := by
  rw [Session.source?,Session.source?,h.sources]

lemma Alike.sourceOf? (h : s.Alike m s') (name : Option String) : s.sourceOf? name = s'.sourceOf? name := by
  cases name with
  | none => rfl
  | some name => rw [Session.sourceOf?,Session.sourceOf?,h.source?]

lemma Alike.hook? (h : s.Alike m s') (label : String) : s.hook? label = s'.hook? label := by
  rw [Session.hook?,Session.hook?,h.hooks]

/-! What a step does. -/

lemma Alike.settleOn (h : s.Alike m s') (hw : w.Alike m w') : (s.settleOn w).Alike m (s'.settleOn w') :=
  { h with world := hw.settle World.patience }

lemma Alike.done (h : s.Alike m s') (hw : w.Alike m w') : AnswerAlike m (s.done w) (s'.done w') := ⟨rfl,h.settleOn hw⟩

lemma Alike.flagged (h : s.Alike m s') {r r' : Bool × World} (hr : r.1 = r'.1 ∧ r.2.Alike m r'.2) :
    AnswerAlike m (s.flagged r) (s'.flagged r') := ⟨congrArg Answer.flag hr.1,h.settleOn hr.2⟩

lemma Alike.reported (h : s.Alike m s') {r r' : Option Payload × World} (hr : r.1 = r'.1 ∧ r.2.Alike m r'.2) :
    AnswerAlike m (s.reported r) (s'.reported r') := ⟨congrArg Answer.payload hr.1,h.settleOn hr.2⟩

lemma Alike.keep (h : s.Alike m s') (o : Option TrackerId) : AnswerAlike m (s.keep o) (s'.keep o) := by
  cases o with
  | none => exact ⟨rfl,h⟩
  | some id =>
    unfold Session.keep
    dsimp only
    rw [h.world.handles]
    split
    · exact ⟨rfl,h⟩
    · exact ⟨rfl,{ h with world := { h.world with handles := rfl } }⟩

lemma Alike.install (h : s.Alike m s') {c : Config} (hc : c.includeQuery = true → m.queries = true)
    (source : Option SourceId) : AnswerAlike m (s.install c source) (s'.install c source) := by
  obtain ⟨hid,hw⟩ := h.world.install hc source recorder
  unfold Session.install
  dsimp only
  rw [hid]
  exact (h.settleOn hw).keep _

lemma Alike.installed? (h : s.Alike m s') (id : TrackerId) : s.installed? id = s'.installed? id := by
  rw [Session.installed?,Session.installed?,h.world.trackers]

lemma Alike.installReal (h : s.Alike m s') {tag : ScriptTag} {e : Config.Environment}
    (hc : ∀ c, Config.layered tag {} e = .ok c → c.includeQuery = true → m.queries = true) :
    AnswerAlike m (s.installReal tag e) (s'.installReal tag e) := by
  obtain ⟨hid,hw⟩ := h.world.embed hc true
  have hsettled := h.settleOn hw
  refine ⟨?_,hsettled⟩
  unfold Session.installReal
  dsimp only
  rw [hid,funext hsettled.installed?]

lemma Alike.attach (h : s.Alike m s') {settings : Settings} (hs : settings.includeQuery = true → m.queries = true) :
    AnswerAlike m ((s.settleOn (s.world.addTracker settings recorder).2).keep (s.world.addTracker settings recorder).1)
      ((s'.settleOn (s'.world.addTracker settings recorder).2).keep (s'.world.addTracker settings recorder).1) := by
  obtain ⟨hid,hw⟩ := h.world.addTracker hs recorder
  rw [hid]
  exact (h.settleOn hw).keep _

lemma Alike.release (h : s.Alike m s') (name : String) : (s.release name).Alike m (s'.release name) := by
  unfold Session.release
  rw [h.sources]
  split
  · exact h
  · have hsources := forall₂_modify h.world.sources
      (fun a b hab => (⟨hab.kind,rfl⟩ : Source.Alike m { a with held := false } { b with held := false })) ‹SourceId›
    exact { h with world := { h.world with sources := hsources }, sources := rfl }

lemma Alike.addSource (h : s.Alike m s') {k : SourceKind} (hk : k.Alike m k) (name : String) :
    (s.addSource name k).Alike m (s'.addSource name k) := by
  have hreleased := h.release name
  obtain ⟨hid,hw⟩ := hreleased.world.addSource hk true
  exact { hreleased with world := hw, sources := congrArg₂ (fun id l => (name,id)::l) hid hreleased.sources }

lemma Alike.restore (h : s.Alike m s') (id : SourceId) : AnswerAlike m (s.restore id) (s'.restore id) := by
  have hhistory : s'.world.sources[id]?.map Source.isHistory = s.world.sources[id]?.map Source.isHistory :=
    (map_eq_of_rel (h.world.source id) fun _ _ hs => hs.isHistory).symm
  unfold Session.restore
  rw [hhistory]
  split_ifs
  · exact h.flagged (h.world.restore id)
  · exact ⟨rfl,h⟩

lemma Alike.wrapHook (h : s.Alike m s') {l l' : Listener} (hl : l.Alike m l') (chained last : Bool) :
    AnswerAlike m (s.wrapHook l chained last) (s'.wrapHook l' chained last) := by
  obtain ⟨hflag,hw⟩ := h.world.wrapHook hl chained last
  have hhooks : (l.label,(s.world.wrapHook l chained last).2.lastHook)::s.hooks =
      (l'.label,(s'.world.wrapHook l' chained last).2.lastHook)::s'.hooks := by
    rw [hl.label,hw.lastHook,h.hooks]
  exact ⟨congrArg Answer.flag hflag,{ h.settleOn hw with hooks := hhooks }⟩

lemma Alike.swapHook (h : s.Alike m s') (expected : HookId) (label : Option String) :
    AnswerAlike m (s.swapHook expected label) (s'.swapHook expected label) := by
  cases label with
  | none =>
    obtain ⟨hflag,hpage⟩ := h.world.page.replaceHookIf .none expected
    exact ⟨congrArg Answer.flag hflag,h.settleOn (h.world.onPage hpage)⟩
  | some label =>
    have hid : s.world.lastHook+1 = s'.world.lastHook+1 := congrArg (·+1) h.world.lastHook
    have hlistener : Listener.Alike m { label := label } { label := label } := ⟨rfl,⟨rfl,.inl rfl⟩,.nil⟩
    have hhook : (Hook.custom (s.world.lastHook+1) { label := label } none false).Alike m
        (.custom (s'.world.lastHook+1) { label := label } none false) := hid ▸ .custom _ hlistener .none false
    obtain ⟨hflag,hpage⟩ := h.world.page.replaceHookIf (.some hhook) expected
    have hworld : World.Alike m { s.world with page := _, lastHook := s.world.lastHook+1 }
        { s'.world with page := _, lastHook := s'.world.lastHook+1 } := { h.world with page := hpage, lastHook := hid }
    exact ⟨congrArg Answer.flag hflag,
      { h.settleOn hworld with hooks := congrArg₂ (fun id l => (label,id)::l) hid h.hooks }⟩

lemma Alike.addPopState (h : s.Alike m s') {l l' : Listener} (hl : l.Alike m l') :
    AnswerAlike m (s.addPopState l) (s'.addPopState l') := by
  have hpage := h.world.page.addPopState (.listener hl)
  have hid := hpage.lastListener
  exact ⟨congrArg Answer.listener hid,{ h.settleOn (h.world.onPage hpage) with
    popStates := congrArg₂ List.cons (congrArg₂ Prod.mk hl.label hid) h.popStates }⟩

lemma Alike.addLifecycle (h : s.Alike m s') {l l' : Listener} (hl : l.Alike m l') :
    AnswerAlike m (s.addLifecycle l) (s'.addLifecycle l') := by
  have hpage := h.world.page.addLifecycle (.listener hl)
  have hid := hpage.lastListener
  exact ⟨congrArg Answer.listener hid,{ h.settleOn (h.world.onPage hpage) with
    lifecycles := congrArg₂ List.cons (congrArg₂ Prod.mk hl.label hid) h.lifecycles }⟩

/-! Whole sessions. -/

/-- Steps that are refused for one reason, or done with one answer. -/
inductive ResultAlike (m : Scope) : Except Failure (Answer × Session) → Except Failure (Answer × Session) → Prop
  | error (f : Failure) : ResultAlike m (.error f) (.error f)
  | ok {r r' : Answer × Session} (h : AnswerAlike m r r') : ResultAlike m (.ok r) (.ok r')

lemma ResultAlike.bind {α : Type} {x x' : Except Failure α} (hx : x = x') {f f' : α → Except Failure (Answer × Session)}
    (hf : ∀ a, x = .ok a → ResultAlike m (f a) (f' a)) : ResultAlike m (x >>= f) (x' >>= f') := by
  subst hx
  cases hx : x with
  | error e => exact .error e
  | ok a => exact hf a hx

lemma resolve?_includeQuery {c : Config} {settings : Settings} (h : resolve? c = .ok settings) :
    settings.includeQuery = c.includeQuery := by
  unfold resolve? at h
  split at h
  · obtain rfl := Except.ok.inj h
    exact Config.resolve_includeQuery ‹_›
  · cases h

lemma config?_ok {v : Json} {c : Config} (h : config? v = .ok c) : Config.ofJson? v = some c := by
  unfold config? at h
  split at h
  · obtain rfl := Except.ok.inj h
    assumption
  · cases h

lemma Alike.performPlain (h : s.Alike m s') {a : Step} (ha : a.isPlain = true) :
    ResultAlike m (s.perform a) (s'.perform a) := by
  cases a with
  | page | install | installTag | installReal | attach | wrapHook | addPopState | addLifecycle => cases ha
  | back => exact .bind h.page? fun _ _ => .ok (h.flagged (h.world.moveTo h.world.page.history.back?))
  | forward => exact .bind h.page? fun _ _ => .ok (h.flagged (h.world.moveTo h.world.page.history.forward?))
  | dropPage => exact .ok (h.done { h.world with pageHeld := rfl })
  | dropApis => exact .ok (h.done { h.world with handles := rfl })
  | advance span => exact .ok (h.done { h.world with clock := congrArg (ManualClock.advance · span) h.world.clock })
  | setClock now => exact .ok (h.done { h.world with clock := congrArg (ManualClock.set · now) h.world.clock })
  | expose name api =>
    exact .bind h.page? fun _ _ => .bind (h.tracker? api) fun id _ =>
      .ok (h.done (h.world.onPage (h.world.page.expose name id)))
  | exposed name =>
    refine .bind h.page? fun _ _ => .ok ?_
    rw [Page.global?,Page.global?,h.world.page.globals]
    exact h.keep _
  | track api name properties =>
    exact .bind (h.tracker? api) fun id _ => .ok (h.reported (h.world.report (Tracker.track_blind _) id))
  | trackInput api input =>
    exact .bind (h.tracker? api) fun id _ => .ok (h.reported (h.world.report (Tracker.track_blind _) id))
  | trackPageView api =>
    exact .bind (h.tracker? api) fun id _ => .ok (h.reported (h.world.report Tracker.trackPageView_blind id))
  | trackLeave api =>
    exact .bind (h.tracker? api) fun id _ => .ok (h.reported (h.world.report Tracker.trackLeave_blind id))
  | signal api name =>
    exact .bind (h.tracker? api) fun id _ => .bind rfl fun signal _ =>
      .ok (h.done (h.world.report (Tracker.handle_blind signal) id).2)
  | shutdown api => exact .bind (h.tracker? api) fun id _ => .ok (h.done (h.world.shutdown id))
  | addHistorySource name =>
    exact .bind h.page? fun _ _ => .ok ⟨rfl,h.addSource (.history .none) name⟩
  | addMemorySource name => exact .ok ⟨rfl,h.addSource (.memory none) name⟩
  | dropSource name => exact .ok ⟨congrArg (fun l => Answer.flag (l.lookup name).isSome) h.sources,h.release name⟩
  | subscribe source label =>
    exact .bind (h.source? source) fun id _ => .ok (h.flagged (h.world.subscribe id _))
  | observe source api =>
    exact .bind (h.tracker? api) fun id _ => .bind (h.source? source) fun i _ => .ok (h.flagged (h.world.subscribe i _))
  | restore source => exact .bind (h.source? source) fun id _ => .ok (h.restore id)
  | isInstalled source =>
    refine .bind (h.source? source) fun id _ => .ok ⟨?_,h⟩
    rw [map_eq_of_rel (h.world.source id) fun _ _ hs => hs.isInstalled]
  | emit source name =>
    refine .bind (h.source? source) fun id _ => ?_
    cases name with
    | none => exact .ok (h.done (h.world.emit id _))
    | some name => exact .bind rfl fun signal _ => .ok (h.done (h.world.emit id signal))
  | removeHook =>
    exact .bind h.page? fun _ _ =>
      .ok (h.flagged ⟨isSome_of_rel h.world.page.hook,h.world.onPage (h.world.page.setHook .none)⟩)
  | swapHook expected label =>
    exact .bind h.page? fun _ _ => .bind (h.hook? expected) fun id _ => .ok (h.swapHook id label)
  | removePopState label =>
    refine .bind h.page? fun _ _ => ?_
    rw [h.popStates]
    split
    · exact .ok ⟨rfl,h⟩
    · exact .ok (h.done (h.world.onPage (h.world.page.removePopState _)))
  | removeLifecycle label =>
    refine .bind h.page? fun _ _ => ?_
    rw [h.lifecycles]
    split
    · exact .ok ⟨rfl,h⟩
    · exact .ok (h.done (h.world.onPage (h.world.page.removeLifecycle _)))

theorem Alike.perform (h : s.Alike m s') {a a' : Step} (ha : a.Alike m a') :
    ResultAlike m (s.perform a) (s'.perform a') := by
  cases ha with
  | plain ha => exact h.performPlain ha
  | page ha => exact .bind h.page? fun _ _ => .ok (h.done (h.world.act ha))
  | install hc source =>
    exact .bind h.page? fun _ _ => .bind rfl fun c hv => .bind (h.sourceOf? source) fun id _ =>
      .ok (h.install (hc c (config?_ok hv)) id)
  | @installTag tag hc source =>
    refine .bind h.page? fun _ _ => ?_
    cases htag : tag.config with
    | error e => exact .error _
    | ok c => exact .bind (h.sourceOf? source) fun id _ => .ok (h.install (hc c htag) id)
  | installReal hc => exact .bind h.page? fun _ _ => .ok (h.installReal hc)
  | attach hc =>
    refine .bind h.page? fun _ _ => .bind rfl fun c hv => .bind rfl fun settings hsettings => .ok (h.attach ?_)
    exact resolve?_includeQuery hsettings ▸ hc c (config?_ok hv)
  | wrapHook hl chained last => exact .bind h.page? fun _ _ => .ok (h.wrapHook hl chained last)
  | addPopState hl => exact .bind h.page? fun _ _ => .ok (h.addPopState hl)
  | addLifecycle hl => exact .bind h.page? fun _ _ => .ok (h.addLifecycle hl)

theorem Alike.step (h : s.Alike m s') {a a' : Step} (ha : a.Alike m a') :
    AnswerAlike m (s.step a) (s'.step a') := by
  have hcleared : Alike m { s with world := { s.world with sent := [], events := [] } }
      { s' with world := { s'.world with sent := [], events := [] } } :=
    { h with world := { h.world with sent := rfl } }
  have hperform := hcleared.perform ha
  unfold Session.step
  dsimp only
  generalize Session.perform _ a = r at *
  generalize Session.perform _ a' = r' at *
  cases hperform with
  | error f => exact ⟨rfl,hcleared⟩
  | ok hr => exact hr

/-- Whole sessions, by induction on their steps. -/
theorem Alike.run (h : s.Alike m s') {steps steps' : List Step} (hsteps : List.Forall₂ (Step.Alike m) steps steps') :
    List.Forall₂ (AnswerAlike m) (s.run steps) (s'.run steps') := by
  induction hsteps generalizing s s' with
  | nil => exact .nil
  | cons ha _ ih =>
    have hr := h.step ha
    exact .cons hr (ih hr.session)

end PageTelemetry.Session
