import PageTelemetry.Page.History
import PageTelemetry.Page.Listener

/-! A page: the document with its history, its visibility and what is left on it. -/
namespace PageTelemetry

inductive ReadyState
  | loading | interactive | complete
  deriving DecidableEq, Repr, Inhabited

def ReadyState.name : ReadyState → String
  | .loading => "Loading"
  | .interactive => "Interactive"
  | .complete => "Complete"

inductive Visibility
  | visible | hidden
  deriving DecidableEq, Repr, Inhabited

def Visibility.name : Visibility → String
  | .visible => "Visible"
  | .hidden => "Hidden"

structure Page where
  history : History
  referrer : String := ""
  title : String := ""
  width : Nat := 0
  ready : ReadyState := .loading
  visibility : Visibility := .visible
  hook : Option Hook := none
  popState : List (ListenerId × Callback) := []
  lifecycle : List (ListenerId × Callback) := []
  onLoad : List LoadCallback := []
  /-- The tracker behind the API that is exposed under each namespace. -/
  globals : List (String × TrackerId) := []
  lastListener : ListenerId := 0
  deriving Repr, Inhabited

namespace Page

def href (p : Page) : String := p.history.href

/-- What a page shows to trackers. -/
def ambient (p : Page) : Payload.Ambient := ⟨p.href,p.referrer,p.title,p.width⟩

/-- Where a URL leads from a location; the URL itself if either of them cannot be read. -/
def resolveFrom (href url : String) : String :=
  match Url.parse href with
  | .error _ => url
  | .ok base =>
    match base.join url with
    | .error _ => url
    | .ok u => u.text

def resolve (p : Page) (url : String) : String := resolveFrom p.href url

/-- The place on a page that trackers are exposed at. -/
def namespaceName : String := "pagetrail"

def global? (p : Page) (name : String) : Option TrackerId := p.globals.lookup name

def expose (p : Page) (name : String) (id : TrackerId) : Page :=
  { p with globals := (name,id)::p.globals.filter (·.1 != name) }

def addPopState (p : Page) (c : Callback) : Page :=
  { p with popState := p.popState ++ [(p.lastListener + 1,c)], lastListener := p.lastListener + 1 }

def addLifecycle (p : Page) (c : Callback) : Page :=
  { p with lifecycle := p.lifecycle ++ [(p.lastListener + 1,c)], lastListener := p.lastListener + 1 }

def removePopState (p : Page) (id : ListenerId) : Page :=
  { p with popState := p.popState.filter (·.1 != id) }

def removeLifecycle (p : Page) (id : ListenerId) : Page :=
  { p with lifecycle := p.lifecycle.filter (·.1 != id) }

/-- Puts a hook in the place of one, if that one is still installed. -/
def replaceHookIf (p : Page) (expected : HookId) (hook : Option Hook) : Bool × Page :=
  match p.hook with
  | some h => if h.id = expected then (true,{ p with hook := hook }) else (false,p)
  | none => (false,p)

/-- All that was left on the page is gone. -/
def discard (p : Page) : Page :=
  { p with hook := none, popState := [], lifecycle := [], onLoad := [], globals := [] }

end Page

end PageTelemetry
