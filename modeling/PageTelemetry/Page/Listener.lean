import PageTelemetry.Config
import PageTelemetry.Tracker

/-! What a page calls when something happens to it. A function that someone leaves on a page is kept
as what it does: it says that it was called and then operates on the page. -/
namespace PageTelemetry

abbrev TrackerId := Nat
abbrev SourceId := Nat
abbrev OutletId := Nat
abbrev HookId := Nat
abbrev ListenerId := Nat

/-- The subscriber of a navigation source. -/
inductive Handler
  /-- A tracker, as long as something else keeps it. -/
  | tracker (id : TrackerId)
  /-- Whoever writes each signal into the log under a label. -/
  | log (label : String)
  deriving DecidableEq, Repr, Inhabited

/-- An operation on a page. Listeners that it leaves there are given by their label, the ending
that a location must have for them to react, and their reaction. -/
inductive Act
  | push (url : String)
  | replace (url : String)
  | setHref (url : String)
  | back
  | forward
  | setTitle (title : String)
  | setWidth (width : Nat)
  | hide
  | reveal
  | unload
  | finishLoading
  | discard
  /-- An event through the exposed API, if there is one. -/
  | track (name : String)
  | install (config : Config) (source : Option SourceId) (outlet : OutletId)
  | subscribe (source : SourceId) (handler : Handler)
  | restore (source : SourceId)
  | onLoad (label ending : String) (acts : List Act)
  | addPopState (label ending : String) (acts : List Act)
  | addLifecycle (label ending : String) (acts : List Act)
  | removePopState (id : ListenerId)
  | removeLifecycle (id : ListenerId)
  /-- Puts a hook in the place of the one that is there. A chained hook calls that one too, behind
  or before its own reaction. -/
  | wrapHook (label ending : String) (acts : List Act) (chained last : Bool)
  | removeHook
  deriving Repr, Inhabited

/-- Someone's function: it logs a call under its label and then reacts if the location has the
ending. Its reaction is the same list of operations at every call; a function that remembers earlier
calls, or looks at more of the page than its location, is none of these. -/
structure Listener where
  label : String
  ending : String := ""
  acts : List Act := []
  deriving Repr, Inhabited

/-- The function that the history entry points of a page call. -/
inductive Hook
  /-- Of a navigation source: the hook before it goes first, then the handler of the source. -/
  | observer (id : HookId) (handler : Handler) (previous : Option Hook)
  /-- Of someone else: the chained hook goes behind it, or before it if it is `last`. -/
  | custom (id : HookId) (listener : Listener) (chained : Option Hook) (last : Bool)
  deriving Repr, Inhabited

def Hook.id : Hook → HookId
  | .observer id _ _ | .custom id _ _ _ => id

inductive LifecycleEvent
  | hidden | unload
  deriving DecidableEq, Repr, Inhabited

def LifecycleEvent.signal : LifecycleEvent → Signal
  | .hidden => .hidden
  | .unload => .unload

/-- A function that waits for popstate or lifecycle events. -/
inductive Callback
  | handler (h : Handler)
  | listener (l : Listener)
  deriving Repr, Inhabited

/-- A function that waits for the document to be complete. -/
inductive LoadCallback
  /-- Begins the reports of a tracker, which it keeps together with the source to observe. -/
  | start (tracker : TrackerId) (source : Option SourceId)
  | listener (l : Listener)
  deriving Repr, Inhabited

/-- When a listener was called. -/
inductive Occasion
  | history (kind : NavigationKind)
  | popState
  | lifecycle (event : LifecycleEvent)
  | load
  deriving DecidableEq, Repr

/-- A line of the log. -/
inductive Event
  | heard (label : String) (occasion : Occasion) (href : String)
  | signalled (label : String) (signal : Signal)
  deriving DecidableEq, Repr

def Event.line : Event → String
  | .heard label (.history kind) href => "hook " ++ label ++ " " ++ kind.name ++ " " ++ href
  | .heard label .popState href => "pop " ++ label ++ " " ++ href
  | .heard label (.lifecycle event) _ => "life " ++ label ++ " " ++ event.signal.name
  | .heard label .load _ => "load " ++ label
  | .signalled label signal => "nav " ++ label ++ " " ++ signal.name

end PageTelemetry
