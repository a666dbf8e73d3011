import PageTelemetry.World

/-! Operations on a page and the calls they cause, one task at a time. An operation puts what it
calls in front of the agenda, so that a listener's own operations end before the next listener is
called. -/
namespace PageTelemetry.World

/-! Operations. Those that can fail to move say whether they did. -/

def hookTasks (p : Page) (kind : NavigationKind) : List Task := (p.hook.map (Task.hook · kind)).toList

def push (w : World) (url : String) : World :=
  let w := w.modifyPage fun p => { p with history := p.history.push (p.resolve url) }
  w.enqueue (hookTasks w.page .push)

def replace (w : World) (url : String) : World :=
  let w := w.modifyPage fun p => { p with history := p.history.replace (p.resolve url) }
  w.enqueue (hookTasks w.page .replace)

/-- Changes the location without telling anyone. -/
def setHref (w : World) (url : String) : World :=
  w.modifyPage fun p => { p with history := p.history.replace (p.resolve url) }

def popStateTask : ListenerId × Callback → Task
  | (_,.handler h) => .signal h (.navigate .pop)
  | (_,.listener l) => .call l .popState

/-- Moves to another entry, and calls those who listen at that moment. -/
def moveTo (w : World) : Option History → Bool × World
  | none => (false,w)
  | some h =>
    let w := w.modifyPage fun p => { p with history := h }
    (true,w.enqueue (w.page.popState.map popStateTask))

def back (w : World) : Bool × World := w.moveTo w.page.history.back?

def forward (w : World) : Bool × World := w.moveTo w.page.history.forward?

def lifecycleTask (e : LifecycleEvent) : ListenerId × Callback → Task
  | (_,.handler h) => .signal h e.signal
  | (_,.listener l) => .call l (.lifecycle e)

def dispatch (w : World) (e : LifecycleEvent) : World :=
  w.enqueue (w.page.lifecycle.map (lifecycleTask e))

/-- Only a visible page tells that it is hidden. -/
def hide (w : World) : World :=
  let hidden := w.modifyPage fun p => { p with visibility := .hidden }
  if w.page.visibility = .visible then hidden.dispatch .hidden else hidden

def reveal (w : World) : World := w.modifyPage fun p => { p with visibility := .visible }

def unload (w : World) : World := w.dispatch .unload

def loadTask : LoadCallback → Task
  | .start id source => .start id source
  | .listener l => .call l .load

/-- Calls a listener once the document is complete, at once if it is. -/
def onLoad (w : World) (l : Listener) : World :=
  if w.page.ready = .complete then w.enqueue [.call l .load]
  else w.modifyPage fun p => { p with onLoad := p.onLoad ++ [.listener l] }

/-- Completes the document, and calls those who waited for it. -/
def finishLoading (w : World) : World :=
  if w.page.ready = .complete then w
  else
    let waiting := w.page.onLoad
    (w.modifyPage fun p => { p with ready := .complete, onLoad := [] }).enqueue (waiting.map loadTask)

def discard (w : World) : World := w.modifyPage Page.discard

/-- Installs a hook of someone else, which may chain the one in its place; says whether there was
one. -/
def wrapHook (w : World) (l : Listener) (chained last : Bool) : Bool × World :=
  let there := w.page.hook
  let hook := Hook.custom (w.lastHook + 1) l (if chained then there else none) last
  (there.isSome,{ w with page := { w.page with hook := some hook }, lastHook := w.lastHook + 1 })

def removeHook (w : World) : Bool × World :=
  (w.page.hook.isSome,w.modifyPage fun p => { p with hook := none })

/-- An event through the API that is exposed on the page, if there is one. -/
def trackExposed (w : World) (name : String) : World :=
  match w.page.global? Page.namespaceName with
  | none => w
  | some id => (w.track id (some (Tracker.callOverrides (some name) none))).2

def act (w : World) : Act → World
  | .push url => w.push url
  | .replace url => w.replace url
  | .setHref url => w.setHref url
  | .back => w.back.2
  | .forward => w.forward.2
  | .setTitle title => w.modifyPage fun p => { p with title := title }
  | .setWidth width => w.modifyPage fun p => { p with width := width }
  | .hide => w.hide
  | .reveal => w.reveal
  | .unload => w.unload
  | .finishLoading => w.finishLoading
  | .discard => w.discard
  | .track name => w.trackExposed name
  | .install c source outlet => (w.install c source outlet).2
  | .subscribe source h => (w.subscribe source h).2
  | .restore source => (w.restore source).2
  | .onLoad label ending acts => w.onLoad ⟨label,ending,acts⟩
  | .addPopState label ending acts => w.modifyPage (·.addPopState (.listener ⟨label,ending,acts⟩))
  | .addLifecycle label ending acts => w.modifyPage (·.addLifecycle (.listener ⟨label,ending,acts⟩))
  | .removePopState id => w.modifyPage (·.removePopState id)
  | .removeLifecycle id => w.modifyPage (·.removeLifecycle id)
  | .wrapHook label ending acts chained last => (w.wrapHook ⟨label,ending,acts⟩ chained last).2
  | .removeHook => w.removeHook.2

/-! Tasks. -/

/-- A listener reacts on a page that is still there and at a location with its ending. -/
def reacts (w : World) (l : Listener) : Bool :=
  w.pageKept && l.ending.toList.isSuffixOf w.page.href.toList

def call (w : World) (l : Listener) (o : Occasion) : World :=
  let w := w.note (.heard l.label o w.ambient.href)
  if w.reacts l then w.enqueue (l.acts.map .act) else w

def callHook (w : World) (kind : NavigationKind) : Hook → World
  | .observer id h previous =>
    w.enqueue ((previous.map (Task.hook · kind)).toList ++ [.relay id h kind])
  | .custom _ l chained last =>
    let own := Task.call l (.history kind)
    let inner := (chained.map (Task.hook · kind)).toList
    w.enqueue (if last then inner ++ [own] else own::inner)

def perform (w : World) : Task → World
  | .hook h kind => w.callHook kind h
  | .relay id h kind => if w.hookActive id then w.signal h (.navigate kind) else w
  | .call l o => w.call l o
  | .signal h s => w.signal h s
  | .start id source => w.start id source
  | .act a => w.act a

/-- Does the first task of the agenda. -/
def step (w : World) : World :=
  match w.agenda with
  | [] => w
  | t::rest => { w with agenda := rest }.perform t

/-- Whether everything that an operation caused is done. -/
def isSettled (w : World) : Bool := w.agenda.isEmpty

/-- Does tasks until none is left, but no more than so many. -/
def settle : Nat → World → World
  | 0, w => w
  | n + 1, w => if w.isSettled then w else settle n w.step

/-- How many tasks one operation may cause. -/
def patience : Nat := 20000

/-- An operation together with all that it causes. -/
def run (w : World) (a : Act) : World := (w.act a).settle patience

end PageTelemetry.World
