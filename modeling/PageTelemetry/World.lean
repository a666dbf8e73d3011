import PageTelemetry.Page

/-! A page with its embedder: clock, trackers, navigation sources, and who keeps what. -/
namespace PageTelemetry

/-- What a page, or the start of a tracker, has still to do before the operation that caused it
returns. -/
inductive Task
  | hook (h : Hook) (kind : NavigationKind)
  /-- The part of a source in a hook: its handler, if the source still has that hook installed. -/
  | relay (id : HookId) (handler : Handler) (kind : NavigationKind)
  | call (l : Listener) (occasion : Occasion)
  | signal (handler : Handler) (s : Signal)
  | start (tracker : TrackerId) (source : Option SourceId)
  | act (a : Act)
  deriving Repr, Inhabited

/-- What a history source has put on the page. -/
structure Interception where
  hook : Hook
  previous : Option Hook
  popState : ListenerId
  lifecycle : ListenerId
  deriving Repr, Inhabited

inductive SourceKind
  /-- Intercepts the history of the page. -/
  | history (installed : Option Interception)
  /-- Is driven by hand. -/
  | memory (subscriber : Option Handler)
  deriving Repr, Inhabited

structure Source where
  kind : SourceKind
  /-- Whether the embedder keeps it. -/
  held : Bool := true
  deriving Repr, Inhabited

def Source.isHistory (s : Source) : Bool :=
  match s.kind with
  | .history _ => true
  | .memory _ => false

def Source.isInstalled (s : Source) : Bool :=
  match s.kind with
  | .history installed => installed.isSome
  | .memory subscriber => subscriber.isSome

def Source.hasHook (id : HookId) (s : Source) : Bool :=
  match s.kind with
  | .history (some i) => i.hook.id == id
  | _ => false

/-- A tracker with the outlet that its requests go to. -/
structure Installation where
  tracker : Tracker
  outlet : OutletId
  deriving Repr, Inhabited

/-- A request that an outlet has accepted. -/
structure Delivery where
  tracker : TrackerId
  outlet : OutletId
  request : Request
  /-- The tracker that was exposed on the page at that moment. -/
  exposed : Option TrackerId
  deriving DecidableEq, Repr, Inhabited

structure World where
  page : Page
  /-- Whether the embedder keeps the page. -/
  pageHeld : Bool := true
  clock : ManualClock := ⟨0⟩
  /-- Every tracker there ever was; its place is its id. -/
  trackers : List Installation := []
  /-- The APIs that the embedder keeps, by their trackers. -/
  handles : List TrackerId := []
  /-- Every navigation source there ever was; its place is its id. -/
  sources : List Source := []
  outlets : List Outlet := []
  sent : List Delivery := []
  events : List Event := []
  agenda : List Task := []
  lastHook : HookId := 0
  deriving Repr, Inhabited

/-! Who keeps what. -/

def LoadCallback.keepsSource (c : LoadCallback) (id : SourceId) : Bool :=
  match c with
  | .start _ (some s) => s == id
  | _ => false

def LoadCallback.keepsTracker (c : LoadCallback) (id : TrackerId) : Bool :=
  match c with
  | .start t _ => t == id
  | _ => false

def Task.keepsSource (t : Task) (id : SourceId) : Bool :=
  match t with
  | .start _ (some s) => s == id
  | _ => false

def Task.keepsTracker (t : Task) (id : TrackerId) : Bool :=
  match t with
  | .start i _ => i == id
  | _ => false

namespace World

/-- A source is kept by the embedder, and by a tracker that waits to observe it. -/
def sourceKept (w : World) (id : SourceId) : Bool :=
  (w.sources[id]?.map Source.held).getD false ||
    w.page.onLoad.any (LoadCallback.keepsSource · id) || w.agenda.any (Task.keepsSource · id)

/-- A page is kept by the embedder, and by the history sources that are kept. -/
def pageKept (w : World) : Bool :=
  w.pageHeld ||
    (List.range w.sources.length).any fun id =>
      (w.sources[id]?.map Source.isHistory).getD false && w.sourceKept id

/-- A tracker is kept by the APIs that the embedder or a kept page holds, and by its own start. -/
def trackerKept (w : World) (id : TrackerId) : Bool :=
  w.handles.contains id || w.agenda.any (Task.keepsTracker · id) ||
    (w.pageKept &&
      (w.page.globals.any (·.2 == id) || w.page.onLoad.any (LoadCallback.keepsTracker · id)))

/-- What trackers see: a page that nobody keeps is blank. -/
def ambient (w : World) : Payload.Ambient := if w.pageKept then w.page.ambient else {}

/-! Trackers. -/

def modifyPage (w : World) (f : Page → Page) : World := { w with page := f w.page }

/-- Puts tasks in front of all that is still to do. -/
def enqueue (w : World) (tasks : List Task) : World := { w with agenda := tasks ++ w.agenda }

def note (w : World) (e : Event) : World := { w with events := w.events ++ [e] }

/-- A request as an outlet accepts it at the moment. -/
def delivery (w : World) (id : TrackerId) (outlet : OutletId) (r : Request) : Delivery :=
  ⟨id,outlet,r,w.page.global? Page.namespaceName⟩

def deliver (w : World) (id : TrackerId) (i : Installation) (p : Payload) : World :=
  match w.outlets[i.outlet]? with
  | none => w
  | some o =>
    if o.accepts then
      { w with sent := w.sent ++ [w.delivery id i.outlet (Request.ofPayload i.tracker.settings p)] }
    else w

/-- What has gone through an outlet. -/
def traffic (w : World) (o : OutletId) : Traffic :=
  ⟨w.outlets[o]?.getD { transport := .recording },
    (w.sent.filter (·.outlet == o)).map Delivery.request⟩

/-- Lets a tracker report, and delivers what it reports. -/
def report (w : World) (id : TrackerId)
    (f : Tracker → Payload.Ambient → Int → Option Payload × Tracker) : Option Payload × World :=
  match w.trackers[id]? with
  | none => (none,w)
  | some i =>
    let (p,t) := f i.tracker w.ambient w.clock.now
    let w := { w with trackers := w.trackers.set id { i with tracker := t } }
    match p with
    | none => (none,w)
    | some p => (some p,w.deliver id i p)

def track (w : World) (id : TrackerId) (overrides : Option Json) : Option Payload × World :=
  w.report id fun t a now => let (p,t) := t.track a now overrides; (some p,t)

def trackPageView (w : World) (id : TrackerId) : Option Payload × World :=
  w.report id Tracker.trackPageView

def trackLeave (w : World) (id : TrackerId) : Option Payload × World := w.report id Tracker.trackLeave

def handle (w : World) (id : TrackerId) (s : Signal) : World :=
  (w.report id fun t a now => t.handle a now s).2

/-- Ends the deliveries of a tracker. -/
def shutdown (w : World) (id : TrackerId) : World :=
  match w.trackers[id]? with
  | none => w
  | some i => { w with outlets := w.outlets.modify i.outlet Outlet.close }

/-- Gives a signal to a handler. A tracker that nothing keeps does not hear it. -/
def signal (w : World) (h : Handler) (s : Signal) : World :=
  match h with
  | .tracker id => if w.trackerKept id then w.handle id s else w
  | .log label => w.note (.signalled label s)

/-! Navigation sources. -/

def addSource (w : World) (kind : SourceKind) (held : Bool) : SourceId × World :=
  (w.sources.length,{ w with sources := w.sources ++ [⟨kind,held⟩] })

def setSource (w : World) (id : SourceId) (kind : SourceKind) : World :=
  { w with sources := w.sources.modify id fun s => { s with kind := kind } }

/-- Whether some source still has that hook installed. -/
def hookActive (w : World) (id : HookId) : Bool := w.sources.any (Source.hasHook id)

/-- Lets a source tell a handler what happens. A source that already has a subscriber refuses. -/
def subscribe (w : World) (id : SourceId) (h : Handler) : Bool × World :=
  match w.sources[id]?.map Source.kind with
  | some (.history none) =>
    let previous := w.page.hook
    let hook := Hook.observer (w.lastHook + 1) h previous
    let page := ({ w.page with hook := some hook }.addPopState (.handler h))
    let popState := page.lastListener
    let page := page.addLifecycle (.handler h)
    let w := { w with page := page, lastHook := w.lastHook + 1 }
    (true,w.setSource id (.history (some ⟨hook,previous,popState,page.lastListener⟩)))
  | some (.memory none) => (true,w.setSource id (.memory (some h)))
  | _ => (false,w)

/-- Takes back what a history source has put on the page. A hook that came later stays. -/
def restore (w : World) (id : SourceId) : Bool × World :=
  match w.sources[id]?.map Source.kind with
  | some (.history (some i)) =>
    let w := w.setSource id (.history none)
    let page := (w.page.replaceHookIf i.hook.id i.previous).2
    (true,{ w with page := (page.removePopState i.popState).removeLifecycle i.lifecycle })
  | _ => (false,w)

/-- Gives a signal to the subscriber of a source that is driven by hand. -/
def emit (w : World) (id : SourceId) (s : Signal) : World :=
  match w.sources[id]?.map Source.kind with
  | some (.memory (some h)) => w.signal h s
  | _ => w

/-! Installing a tracker. -/

def addTracker (w : World) (s : Settings) (outlet : OutletId) : TrackerId × World :=
  (w.trackers.length,{ w with trackers := w.trackers ++ [⟨.ofSettings s,outlet⟩] })

/-- Begins the reports of a tracker: a page view, then what the source tells. Without a source the
history of the page is observed. -/
def start (w : World) (id : TrackerId) (source : Option SourceId) : World :=
  let w := (w.trackPageView id).2
  match source with
  | some s => (w.subscribe s (.tracker id)).2
  | none =>
    if w.pageKept then
      let (s,w) := w.addSource (.history none) false
      (w.subscribe s (.tracker id)).2
    else w

/-- Installs a tracker on the page, unless it is disabled, exposed already or without settings. It
begins once the document is complete. -/
def install (w : World) (c : Config) (source : Option SourceId) (outlet : OutletId) :
    Option TrackerId × World :=
  if !c.enabled then (none,w)
  else match w.page.global? Page.namespaceName with
    | some id => (some id,w)
    | none =>
      match c.resolve with
      | .error _ => (none,w)
      | .ok s =>
        let (id,w) := w.addTracker s outlet
        let w := w.modifyPage (·.expose Page.namespaceName id)
        if w.page.ready = .complete then (some id,w.start id source)
        else (some id,w.modifyPage fun p => { p with onLoad := p.onLoad ++ [.start id source] })

end World

end PageTelemetry
