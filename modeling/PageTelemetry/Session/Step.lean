import PageTelemetry.Config.Layers
import PageTelemetry.Page.Listener

/-! What an embedder can do in a session, and what it is told then. -/
namespace PageTelemetry.Session

/-- A step. Trackers are given by their place among the APIs that the embedder keeps, the last one
by default; sources, hooks and listeners by their names. -/
inductive Step
  /-- An operation on the page that tells nothing. -/
  | page (a : Act)
  | back
  | forward
  | dropPage
  | dropApis
  | advance (span : Span)
  | setClock (now : Int)
  | install (config : Json) (source : Option String)
  | installTag (tag : ScriptTag) (source : Option String)
  /-- With the transport that the configuration asks for. -/
  | installReal (tag : ScriptTag) (environment : Config.Environment)
  /-- A tracker that is neither exposed nor observes anything. -/
  | attach (config : Json)
  | expose (name : String) (api : Option Nat)
  | exposed (name : String)
  | track (api : Option Nat) (name : Option String) (properties : Option Json)
  | trackInput (api : Option Nat) (input : Json)
  | trackPageView (api : Option Nat)
  | trackLeave (api : Option Nat)
  | signal (api : Option Nat) (name : String)
  | shutdown (api : Option Nat)
  | addHistorySource (name : String)
  | addMemorySource (name : String)
  | dropSource (name : String)
  | subscribe (source label : String)
  | observe (source : String) (api : Option Nat)
  | restore (source : String)
  | isInstalled (source : String)
  | emit (source : String) (signal : Option String)
  | wrapHook (l : Listener) (chained last : Bool)
  | removeHook
  /-- Puts a hook, or none, in the place of the expected one. -/
  | swapHook (expected : String) (label : Option String)
  | addPopState (l : Listener)
  | addLifecycle (l : Listener)
  | removePopState (label : String)
  | removeLifecycle (label : String)
  deriving Repr, Inhabited

/-- Why a step is refused. -/
inductive Failure
  | noPage
  | noTracker
  | malformedConfig
  | config (e : Config.Error)
  | unknownSignal
  | unknownHook
  | unknownSource
  deriving DecidableEq, Repr

inductive Answer
  | done
  | flag (b : Bool)
  /-- The place of an API among those that the embedder keeps. -/
  | api (index : Option Nat)
  /-- Whether there is a tracker now, and whether it only shows its requests. -/
  | installed (debug : Option Bool)
  | payload (p : Option Payload)
  | listener (id : ListenerId)
  | failed (f : Failure)
  deriving DecidableEq, Repr

end PageTelemetry.Session
