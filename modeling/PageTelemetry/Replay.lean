import PageTelemetry.Binary64.Decimal
import PageTelemetry.Config.Layers
import PageTelemetry.Replay.Script
import PageTelemetry.World.Step

/-! Replaying a script: a tracker that observes the history is installed on the page, and the steps
happen one after the other. -/
namespace PageTelemetry.Replay

inductive Error
  | config (e : Config.Error)
  | notInstalled
  | invalidAdvance (seconds : Binary64)
  deriving DecidableEq, Repr

def Error.message : Error → String
  | .config e => e.message
  | .notInstalled => "tracker not installed: missing site key or tracking disabled"
  | .invalidAdvance seconds => "invalid advance of " ++ seconds.toPositional ++ " seconds"

/-- What was sent until a replay ended, and the error if one ended it. -/
structure Outcome where
  traffic : Traffic
  error : Option Error
  deriving Repr

/-- One step; the tracker is the one that `track` goes to. -/
def step (w : World) (id : TrackerId) : Step → Except Error World
  | .push url => .ok (w.run (.push url))
  | .replace url => .ok (w.run (.replace url))
  | .back => .ok (w.run .back)
  | .forward => .ok (w.run .forward)
  | .advance seconds =>
    match Span.ofSeconds? seconds with
    | none => .error (.invalidAdvance seconds)
    | some span => .ok { w with clock := w.clock.advance span }
  | .track name properties => .ok (w.track id (some (Tracker.callOverrides name properties))).2
  | .title title => .ok (w.run (.setTitle title))
  | .hide => .ok (w.run .hide)
  | .reveal => .ok (w.run .reveal)
  | .unload => .ok (w.run .unload)
  | .load => .ok (w.run .finishLoading)

/-- Steps up to the first that fails. -/
def play (w : World) (id : TrackerId) : List Step → World × Option Error
  | [] => (w,none)
  | a::rest =>
    match step w id a with
    | .error e => (w,some e)
    | .ok w => play w id rest

/-- The outlet of a replay; it matters only if the configuration resolves. -/
def outlet (c : Config) (dryRun : Bool) : Outlet :=
  match c.resolve with
  | .ok settings => .ofSettings settings dryRun
  | .error _ => { transport := .recording }

/-- The world in which a script begins. -/
def begin (s : Script) (c : Config) (now : Int) (dryRun : Bool) : Option TrackerId × World :=
  let w : World := { page := s.page, clock := ⟨now⟩, outlets := [outlet c dryRun] }
  w.install c none 0

/-- Plays a script from a time on, and closes the tracker and the page at the end. -/
def runWith (s : Script) (c : Config) (now : Int) (dryRun : Bool) : Outcome :=
  match begin s c now dryRun with
  | (none,w) => ⟨w.traffic 0,some .notInstalled⟩
  | (some id,w) =>
    match play { w with handles := [id] } id s.steps with
    | (w,some e) => ⟨w.traffic 0,some e⟩
    | (w,none) => ⟨((w.shutdown id).run .discard).traffic 0,none⟩

def run (s : Script) (files : Config.Files) (e : Config.Environment) (now : Int) (dryRun : Bool) :
    Outcome :=
  match Config.layered s.tag files e with
  | .error err => ⟨⟨{ transport := .recording },[]⟩,some (.config err)⟩
  | .ok c => runWith s c now dryRun

end PageTelemetry.Replay
