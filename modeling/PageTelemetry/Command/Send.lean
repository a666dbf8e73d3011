import PageTelemetry.Config.Layers
import PageTelemetry.Json.Parser
import PageTelemetry.Payload.TrackInput
import PageTelemetry.World

/-! Sending one page view or event. -/
namespace PageTelemetry.Command

/-- What to send, and from which page and script. -/
structure Send where
  url : String
  source : String
  siteKey : Option String := none
  apiUrl : Option String := none
  includeQuery : Bool := false
  name : Option String := none
  /-- Properties as they are given one by one. -/
  pairs : List String := []
  /-- All properties as one JSON value or text. -/
  properties : Option String := none
  referrer : String := ""
  width : Nat := 1280
  dryRun : Bool := false
  deriving DecidableEq, Repr, Inhabited

namespace Send

inductive Error
  | config (e : Config.Error)
  | disabled
  | invalidProperty (pair : String)
  deriving DecidableEq, Repr

def Error.message : Error → String
  | .config e => e.message
  | .disabled => "tracking is disabled (PAGETRAIL_DISABLED / DO_NOT_TRACK / config)"
  | .invalidProperty pair => "Invalid property '" ++ pair ++ "', expected KEY=VALUE"

def tag (s : Send) : ScriptTag := .ofOptions s.source s.siteKey s.apiUrl s.includeQuery

def page (s : Send) : Page :=
  { history := .ofHref s.url, referrer := s.referrer, width := s.width }

/-- A key and a value around the first equals sign. -/
def pair? (p : String) : Option (String × Json) :=
  (Text.cut? (· == '=') p.toList).map fun (key,value) =>
    (String.ofList key,.string (String.ofList value))

/-- The object of pairs; of pairs with one key the last one counts. -/
def members? : List String → Except Error (List (String × Json))
  | [] => .ok []
  | p::rest =>
    match pair? p with
    | none => .error (.invalidProperty p)
    | some m => (members? rest).map (m::·)

/-- The properties to send, if some are given. -/
def properties? (s : Send) : Except Error (Option Json) :=
  match s.properties with
  | some text => .ok (some ((Json.parse? text).getD (.string text)))
  | none =>
    if s.pairs.isEmpty then .ok none
    else (members? s.pairs).map fun ms => some (.object (Json.Members.ofList ms))

def input (s : Send) (properties : Option Json) : TrackInput :=
  let t := match s.name with
    | some name => TrackInput.event name
    | none => TrackInput.pageView
  match properties with
  | some v => t.field "properties" v
  | none => t

/-- The settings to send with. -/
def settings (s : Send) (files : Config.Files) (e : Config.Environment) : Except Error Settings :=
  match Config.layered s.tag files e with
  | .error err => .error (.config err)
  | .ok c =>
    if !c.enabled then .error .disabled
    else match c.resolve with
      | .error err => .error (.config err)
      | .ok settings => .ok settings

/-- Sends with settings: a tracker reports once and is closed. -/
def sendWith (s : Send) (settings : Settings) (now : Int) (properties : Option Json) : Traffic :=
  let w : World :=
    { page := s.page, clock := ⟨now⟩, outlets := [.ofSettings settings s.dryRun] }
  let (id,w) := w.addTracker settings 0
  let w := (w.track id (some (s.input properties).toJson)).2
  (w.shutdown id).traffic 0

def run (s : Send) (files : Config.Files) (e : Config.Environment) (now : Int) :
    Except Error Traffic :=
  match s.settings files e with
  | .error err => .error err
  | .ok settings =>
    match s.properties? with
    | .error err => .error err
    | .ok properties => .ok (s.sendWith settings now properties)

end Send

end PageTelemetry.Command
