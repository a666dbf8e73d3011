import PageTelemetry.Command.Arguments
import PageTelemetry.Command.Send
import PageTelemetry.Replay

/-! The command line: what is asked for, and what is printed then. -/
namespace PageTelemetry

inductive Command
  | version
  | send (s : Command.Send)
  | replay (path : String) (dryRun : Bool)
  deriving DecidableEq, Repr, Inhabited

namespace Command

def versionText : String := "pagetrail 0.3.0\n"

/-- A width of 32 bits, with or without a sign. -/
def width? (text : String) : Option Nat :=
  let (negative,digits) := match text.toList with
    | '-'::cs => (true,cs)
    | '+'::cs => (false,cs)
    | cs => (false,cs)
  if digits.isEmpty || !digits.all Char.isDigit then none
  else
    let n := Text.ofDecimal digits
    if n < 0x100000000 ∧ (negative → n = 0) then some n else none

def sendOptions : List (String × OptionKind) :=
  [("url",.single),("src",.single),("site-key",.single),("api-url",.single),
    ("include-query",.flag),("name",.single),("prop",.repeated),("properties",.single),
    ("referrer",.single),("width",.single),("dry-run",.flag)]

def widthOf? : Option String → Option Nat
  | none => some 1280
  | some text => width? text

/-- Pairs and properties as a whole exclude each other. -/
def sendOf? (args : List String) : Option Send := do
  let g ← Arguments.read? sendOptions args
  let url ← g.value? "url"
  let source ← g.value? "src"
  let width ← widthOf? (g.value? "width")
  let pairs := g.valuesOf "prop"
  let properties := g.value? "properties"
  if !g.operands.isEmpty || (properties.isSome && !pairs.isEmpty) then none
  else
    return {
      url := url
      source := source
      siteKey := g.value? "site-key"
      apiUrl := g.value? "api-url"
      includeQuery := g.flag "include-query"
      name := g.value? "name"
      pairs := pairs
      properties := properties
      referrer := (g.value? "referrer").getD ""
      width := width
      dryRun := g.flag "dry-run" }

/-- One operand, the path of a script. -/
def replayOf? (args : List String) : Option Command := do
  let g ← Arguments.read? [("dry-run",.flag)] args
  match g.operands with
  | [path] => if path.isEmpty then none else some (.replay path (g.flag "dry-run"))
  | _ => none

def ofArguments? : List String → Option Command
  | [] => none
  | "send"::rest => (sendOf? rest).map .send
  | "replay"::rest => replayOf? rest
  | a::_ => if a = "--version" || "-V".toList.isPrefixOf a.toList then some .version else none

/-- The script that a command reads. -/
def script? : Command → Option String
  | .replay path _ => some path
  | _ => none

/-- What a command finds where it runs. -/
structure Surroundings where
  files : Config.Files := {}
  environment : Config.Environment := {}
  script : Config.FileContent := .missing
  now : Int := 0

/-- What a command prints, and its exit status. -/
structure Result where
  status : Nat := 0
  output : String := ""
  errors : String := ""
  deriving DecidableEq, Repr

namespace Result

/-- Recorded requests are printed one a line, shown ones go to the error output. -/
def ofTraffic (t : Traffic) : Result :=
  { output := String.join (t.recorded.map fun r => r.line ++ "\n")
    errors := String.join (t.shown.map Request.debugText) }

/-- A failure prints nothing of what was recorded. -/
def failed (message : String) (t : Option Traffic) : Result :=
  { status := 1
    errors := (t.map fun t => (ofTraffic t).errors).getD "" ++ "Error: " ++ message ++ "\n" }

end Result

def runReplay (path : String) (dryRun : Bool) (s : Surroundings) : Result :=
  match Replay.Script.load path s.script with
  | .error e => .failed e.message none
  | .ok script =>
    let outcome := Replay.run script s.files s.environment s.now dryRun
    match outcome.error with
    | some e => .failed e.message (some outcome.traffic)
    | none => .ofTraffic outcome.traffic

def run (c : Command) (s : Surroundings) : Result :=
  match c with
  | .version => { output := versionText }
  | .send what =>
    match what.run s.files s.environment s.now with
    | .error e => .failed e.message none
    | .ok t => .ofTraffic t
  | .replay path dryRun => runReplay path dryRun s

end Command

end PageTelemetry
