import PageTelemetry.Config.Layers
import PageTelemetry.World

/-! Embedding a tracker in a page by the tag of its script. -/
namespace PageTelemetry.World

/-- The settings of the tracker that a page gets for a configuration, unless it gets none: if tracking is
disabled, if there is one already, or if no settings come of the configuration. -/
def newcomer? (w : World) (c : Config) : Option Settings :=
  if c.enabled && (w.page.global? Page.namespaceName).isNone then c.resolve.toOption else none

/-- Installs the tracker of a script tag, with the transport that its settings ask for. Without a
configuration nothing is installed, and without a new tracker no transport is chosen. -/
def embed (w : World) (tag : ScriptTag) (files : Config.Files) (e : Config.Environment)
    (spawns : Bool := true) : Option TrackerId × World :=
  match Config.layered tag files e with
  | .error _ => (none,w)
  | .ok c =>
    let outlet := (w.newcomer? c).map fun s => ({ transport := Transport.select s spawns } : Outlet)
    { w with outlets := w.outlets ++ outlet.toList }.install c none w.outlets.length

end PageTelemetry.World
