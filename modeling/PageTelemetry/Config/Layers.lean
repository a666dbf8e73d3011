import PageTelemetry.Config.File
import PageTelemetry.Config.ScriptTag

/-! The layers of a configuration: files below, the script tag above them, the environment on top. -/
namespace PageTelemetry.Config

/-- The files of a user and of a project. -/
structure Files where
  user : FileContent := .missing
  project : FileContent := .missing

/-- The variables that are set, to whatever value. -/
structure Environment where
  disabled : Bool := false
  doNotTrack : Bool := false
  debug : Bool := false
  deriving DecidableEq, Repr

def Environment.ofNames (names : List String) : Environment :=
  ⟨names.contains "PAGETRAIL_DISABLED",names.contains "DO_NOT_TRACK",names.contains "PAGETRAIL_DEBUG"⟩

def Environment.optsOut (e : Environment) : Bool := e.disabled || e.doNotTrack

/-- Lays a configuration over another. A value that is the default cannot be told from one that is
not given, and so gives way. -/
def merge (lower upper : Config) : Config where
  enabled := lower.enabled && upper.enabled
  debug := lower.debug || upper.debug
  includeQuery := lower.includeQuery || upper.includeQuery
  dedupeLeave := lower.dedupeLeave || upper.dedupeLeave
  transport := if upper.transport = .auto then lower.transport else upper.transport
  siteKey := upper.siteKey.or lower.siteKey
  apiUrl := upper.apiUrl.or lower.apiUrl

theorem default_merge (c : Config) : merge {} c = c := by
  by_cases h : c.transport = .auto <;> cases c <;> simp_all [merge]

theorem merge_default (c : Config) : merge c {} = c := by
  simp [merge]

/-- Layers may be laid over each other in any grouping. -/
theorem merge_assoc (a b c : Config) : merge (merge a b) c = merge a (merge b c) := by
  by_cases h : c.transport = .auto <;> simp [merge,h,Bool.and_assoc,Bool.or_assoc,Option.or_assoc]

/-- Lays a file over a configuration. The site key of a file does not count. -/
def mergeFile (base : Config) (content : FileContent) : Config :=
  match content.config? with
  | none => base
  | some c => merge base { c with siteKey := none }

/-- An opt-out hides the wish for debugging. -/
def applyEnvironment (e : Environment) (c : Config) : Config :=
  if e.optsOut then { c with enabled := false }
  else if e.debug then { c with debug := true }
  else c

/-- The configuration of a tag above files and below the environment. The flag of the tag for
queries counts even when it is off. -/
def layered (tag : ScriptTag) (files : Files) (e : Environment) : Except Error Config :=
  match tag.config with
  | .error err => .error err
  | .ok own =>
    let base := mergeFile (mergeFile {} files.user) files.project
    let c := merge base own
    let c := match tag.includeQuery? with
      | none => c
      | some flag => { c with includeQuery := flag }
    .ok (applyEnvironment e c)

end PageTelemetry.Config
