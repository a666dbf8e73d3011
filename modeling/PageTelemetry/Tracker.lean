import PageTelemetry.Clock
import PageTelemetry.Delivery
import PageTelemetry.Payload.Builder

/-! A tracker: the state of its session, and what it reports when. -/
namespace PageTelemetry

/-- Where the current page view stands. -/
inductive Phase
  | idle | installed | leaving
  deriving DecidableEq, Repr, Inhabited

def Phase.name : Phase → String
  | .idle => "Idle"
  | .installed => "Installed"
  | .leaving => "Leaving"

inductive NavigationKind
  | push | replace | pop
  deriving DecidableEq, Repr, Inhabited

def NavigationKind.name : NavigationKind → String
  | .push => "Push"
  | .replace => "Replace"
  | .pop => "Pop"

/-- What a navigation source tells its subscriber. -/
inductive Signal
  | navigate (kind : NavigationKind)
  | hidden
  | unload
  deriving DecidableEq, Repr, Inhabited

def Signal.name : Signal → String
  | .navigate kind => kind.name
  | .hidden => "Hidden"
  | .unload => "Unload"

def Signal.ofName? : String → Option Signal
  | "push" => some (.navigate .push)
  | "replace" => some (.navigate .replace)
  | "pop" => some (.navigate .pop)
  | "hidden" => some .hidden
  | "unload" => some .unload
  | _ => none

structure Tracker where
  settings : Settings
  lastPath : Option String := none
  dwell : DwellClock := {}
  phase : Phase := .idle
  deriving DecidableEq, Repr, Inhabited

namespace Tracker

def ofSettings (s : Settings) : Tracker := { settings := s }

/-- Takes note of a payload that was tracked. One without a duration restarts the clock; a page
view also becomes the current one. -/
def note (t : Tracker) (now : Int) (p : Payload) : Tracker :=
  if p.duration = 0 then
    let t := { t with dwell := t.dwell.reset now }
    if p.name = "" then { t with lastPath := some p.path, phase := .installed } else t
  else t

/-- Reports a page view or an event, always. -/
def track (t : Tracker) (a : Payload.Ambient) (now : Int) (overrides : Option Json) :
    Payload × Tracker :=
  let p := Payload.build t.settings.siteKey t.settings.includeQuery a overrides
  (p,t.note now p)

/-- Reports a page view unless the path is still that of the last one. -/
def trackPageView (t : Tracker) (a : Payload.Ambient) (now : Int) : Option Payload × Tracker :=
  if t.lastPath = some (Location.path a.href t.settings.includeQuery) then (none,t)
  else
    let (p,t) := t.track a now none
    (some p,t)

/-- Reports the time on the page if it is in range; at most once per page view if the settings say
so. -/
def trackLeave (t : Tracker) (a : Payload.Ambient) (now : Int) : Option Payload × Tracker :=
  if t.settings.dedupeLeave && t.phase == .leaving then (none,t)
  else match t.dwell.leaveDuration now with
    | none => (none,t)
    | some seconds =>
      (some (Payload.buildLeave t.settings.siteKey t.settings.includeQuery a seconds),
        { t with phase := .leaving })

def handle (t : Tracker) (a : Payload.Ambient) (now : Int) : Signal → Option Payload × Tracker
  | .navigate _ => t.trackPageView a now
  | .hidden | .unload => t.trackLeave a now

/-- What a host page passes as name and properties, as overrides. -/
def callOverrides (name : Option String) (properties : Option Json) : Json :=
  .object (Json.Members.ofList
    ((name.map fun n => ("name",Json.string n)).toList ++
      (properties.map fun p => ("properties",p)).toList))

/-- What a host page passes as one value: a name, or the overrides themselves. -/
def inputOverrides : Json → Json
  | .string name => callOverrides (some name) none
  | v => v

end Tracker

end PageTelemetry
