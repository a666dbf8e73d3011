import PageTelemetry.Config.Json
import PageTelemetry.Session.Step
import PageTelemetry.World.Embedding
import PageTelemetry.World.Step

/-! A session: an embedder who drives one page step by step, and gives names to what it makes. -/
namespace PageTelemetry

/-- The world with the embedder's names. A name stands for what was made under it last. -/
structure Session where
  world : World
  sources : List (String × SourceId) := []
  hooks : List (String × HookId) := []
  popStates : List (String × ListenerId) := []
  lifecycles : List (String × ListenerId) := []
  deriving Repr, Inhabited

namespace Session

/-- The outlet that all trackers of a session share, those with a transport of their own apart. -/
def recorder : OutletId := 0

def ofPage (p : Page) (now : Int) : Session :=
  { world := { page := p, clock := ⟨now⟩, outlets := [{ transport := .recording }] } }

/-- Takes a world on, once all that the last operation caused is done. -/
def settleOn (s : Session) (w : World) : Session := { s with world := w.settle World.patience }

/-! Looking things up. -/

def page? (s : Session) : Except Failure Unit :=
  if s.world.pageHeld then .ok () else .error .noPage

def config? (v : Json) : Except Failure Config :=
  match Config.ofJson? v with
  | some c => .ok c
  | none => .error .malformedConfig

def resolve? (c : Config) : Except Failure Settings :=
  match c.resolve with
  | .ok settings => .ok settings
  | .error e => .error (.config e)

def tracker? (s : Session) (api : Option Nat) : Except Failure TrackerId :=
  let id := match api with
    | some i => s.world.handles[i]?
    | none => s.world.handles.getLast?
  match id with
  | some id => .ok id
  | none => .error .noTracker

def source? (s : Session) (name : String) : Except Failure SourceId :=
  match s.sources.lookup name with
  | some id => .ok id
  | none => .error .unknownSource

def sourceOf? (s : Session) : Option String → Except Failure (Option SourceId)
  | none => .ok none
  | some name => some <$> s.source? name

def signal? (name : String) : Except Failure Signal :=
  match Signal.ofName? name with
  | some signal => .ok signal
  | none => .error .unknownSignal

def hook? (s : Session) (label : String) : Except Failure HookId :=
  match s.hooks.lookup label with
  | some id => .ok id
  | none => .error .unknownHook

/-! Steps. -/

/-- Keeps an API, unless it is kept already, and tells its place. -/
def keep (s : Session) : Option TrackerId → Answer × Session
  | none => (.api none,s)
  | some id =>
    match s.world.handles.idxOf? id with
    | some i => (.api (some i),s)
    | none =>
      (.api (some s.world.handles.length),
        { s with world := { s.world with handles := s.world.handles ++ [id] } })

def install (s : Session) (c : Config) (source : Option SourceId) : Answer × Session :=
  let (id,w) := s.world.install c source recorder
  (s.settleOn w).keep id

/-- A tracker of the world. -/
def installed? (s : Session) (id : TrackerId) : Option Tracker :=
  (s.world.trackers[id]?).map Installation.tracker

def installReal (s : Session) (tag : ScriptTag) (e : Config.Environment) : Answer × Session :=
  let (id,w) := s.world.embed tag {} e
  let s := s.settleOn w
  (.installed ((id.bind s.installed?).map fun t => t.settings.debug),s)

/-- Gives up a source; one of that name may follow. -/
def release (s : Session) (name : String) : Session :=
  match s.sources.lookup name with
  | none => s
  | some id =>
    { s with
      world := { s.world with sources := s.world.sources.modify id fun x => { x with held := false } }
      sources := s.sources.filter (·.1 != name) }

def addSource (s : Session) (name : String) (kind : SourceKind) : Session :=
  let s := s.release name
  let (id,w) := s.world.addSource kind true
  { s with world := w, sources := (name,id)::s.sources }

def restore (s : Session) (id : SourceId) : Answer × Session :=
  if ((s.world.sources[id]?).map Source.isHistory).getD false then
    let (b,w) := s.world.restore id
    (.flag b,s.settleOn w)
  else (.done,s)

def wrapHook (s : Session) (l : Listener) (chained last : Bool) : Answer × Session :=
  let (b,w) := s.world.wrapHook l chained last
  (.flag b,{ s.settleOn w with hooks := (l.label,w.lastHook)::s.hooks })

def swapHook (s : Session) (expected : HookId) : Option String → Answer × Session
  | none =>
    let (b,page) := s.world.page.replaceHookIf expected none
    (.flag b,s.settleOn { s.world with page := page })
  | some label =>
    let id := s.world.lastHook + 1
    let hook := Hook.custom id { label := label } none false
    let (b,page) := s.world.page.replaceHookIf expected (some hook)
    (.flag b,
      { s.settleOn { s.world with page := page, lastHook := id } with hooks := (label,id)::s.hooks })

def addPopState (s : Session) (l : Listener) : Answer × Session :=
  let w := s.world.modifyPage (·.addPopState (.listener l))
  (.listener w.page.lastListener,
    { s.settleOn w with popStates := (l.label,w.page.lastListener)::s.popStates })

def addLifecycle (s : Session) (l : Listener) : Answer × Session :=
  let w := s.world.modifyPage (·.addLifecycle (.listener l))
  (.listener w.page.lastListener,
    { s.settleOn w with lifecycles := (l.label,w.page.lastListener)::s.lifecycles })

/-- An operation of the world that tells a payload. -/
def reported (s : Session) (r : Option Payload × World) : Answer × Session :=
  (.payload r.1,s.settleOn r.2)

def flagged (s : Session) (r : Bool × World) : Answer × Session := (.flag r.1,s.settleOn r.2)

def done (s : Session) (w : World) : Answer × Session := (.done,s.settleOn w)

/-- Does a step, or refuses it. What is missing first is what is told: the page, then what the step
is given, an API before a source. -/
def perform (s : Session) : Step → Except Failure (Answer × Session)
  | .page a => do
    s.page?
    return s.done (s.world.act a)
  | .back => do
    s.page?
    return s.flagged s.world.back
  | .forward => do
    s.page?
    return s.flagged s.world.forward
  | .dropPage => return s.done { s.world with pageHeld := false }
  | .dropApis => return s.done { s.world with handles := [] }
  | .advance span => return s.done { s.world with clock := s.world.clock.advance span }
  | .setClock now => return s.done { s.world with clock := s.world.clock.set now }
  | .install v source => do
    s.page?
    let c ← config? v
    return s.install c (← s.sourceOf? source)
  | .installTag tag source => do
    s.page?
    match tag.config with
    | .error e => .error (.config e)
    | .ok c => return s.install c (← s.sourceOf? source)
  | .installReal tag e => do
    s.page?
    return s.installReal tag e
  | .attach v => do
    s.page?
    let settings ← resolve? (← config? v)
    let (id,w) := s.world.addTracker settings recorder
    return (s.settleOn w).keep (some id)
  | .expose name api => do
    s.page?
    let id ← s.tracker? api
    return s.done (s.world.modifyPage (·.expose name id))
  | .exposed name => do
    s.page?
    return s.keep (s.world.page.global? name)
  | .track api name properties => do
    let id ← s.tracker? api
    return s.reported (s.world.track id (some (Tracker.callOverrides name properties)))
  | .trackInput api input => do
    let id ← s.tracker? api
    return s.reported (s.world.track id (some (Tracker.inputOverrides input)))
  | .trackPageView api => do
    return s.reported (s.world.trackPageView (← s.tracker? api))
  | .trackLeave api => do
    return s.reported (s.world.trackLeave (← s.tracker? api))
  | .signal api name => do
    let id ← s.tracker? api
    return s.done (s.world.handle id (← signal? name))
  | .shutdown api => do
    return s.done (s.world.shutdown (← s.tracker? api))
  | .addHistorySource name => do
    s.page?
    return (.done,s.addSource name (.history none))
  | .addMemorySource name => return (.done,s.addSource name (.memory none))
  | .dropSource name => return (.flag (s.sources.lookup name).isSome,s.release name)
  | .subscribe source label => do
    return s.flagged (s.world.subscribe (← s.source? source) (.log label))
  | .observe source api => do
    let id ← s.tracker? api
    return s.flagged (s.world.subscribe (← s.source? source) (.tracker id))
  | .restore source => return s.restore (← s.source? source)
  | .isInstalled source => do
    let id ← s.source? source
    return (.flag (((s.world.sources[id]?).map Source.isInstalled).getD false),s)
  | .emit source name => do
    let id ← s.source? source
    match name with
    | none => return s.done (s.world.emit id (.navigate .push))
    | some name => return s.done (s.world.emit id (← signal? name))
  | .wrapHook l chained last => do
    s.page?
    return s.wrapHook l chained last
  | .removeHook => do
    s.page?
    return s.flagged s.world.removeHook
  | .swapHook expected label => do
    s.page?
    return s.swapHook (← s.hook? expected) label
  | .addPopState l => do
    s.page?
    return s.addPopState l
  | .addLifecycle l => do
    s.page?
    return s.addLifecycle l
  | .removePopState label => do
    s.page?
    match s.popStates.lookup label with
    | none => return (.done,s)
    | some id => return s.done (s.world.modifyPage (·.removePopState id))
  | .removeLifecycle label => do
    s.page?
    match s.lifecycles.lookup label with
    | none => return (.done,s)
    | some id => return s.done (s.world.modifyPage (·.removeLifecycle id))

/-- A step from an empty log. -/
def step (s : Session) (a : Step) : Answer × Session :=
  let s := { s with world := { s.world with sent := [], events := [] } }
  match s.perform a with
  | .ok r => r
  | .error f => (.failed f,s)

/-- The requests recorded in the last step. -/
def recorded (s : Session) : List Request := (s.world.traffic recorder).recorded

/-- The tracker behind the last of the APIs that the embedder keeps. -/
def lastTracker? (s : Session) : Option Tracker := s.world.handles.getLast?.bind s.installed?

/-- Does steps one after the other, and tells after each what is answered and how things are. -/
def run (s : Session) : List Step → List (Answer × Session)
  | [] => []
  | a::rest =>
    let (answer,s) := s.step a
    (answer,s)::run s rest

end Session

end PageTelemetry
