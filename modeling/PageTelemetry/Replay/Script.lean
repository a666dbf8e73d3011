import PageTelemetry.Config.File
import PageTelemetry.Config.ScriptTag
import PageTelemetry.Page

/-! Replay scripts: a page, the script tag on it, and what happens then, as a TOML document. -/
namespace PageTelemetry.Replay

/-- One thing that happens on the page. -/
inductive Step
  | push (url : String)
  | replace (url : String)
  | back
  | forward
  /-- Time passes. -/
  | advance (seconds : Binary64)
  | track (name : Option String) (properties : Option Json)
  | title (title : String)
  | hide
  | reveal
  | unload
  | load
  deriving Repr, Inhabited

/-- The page at the start. -/
structure Scene where
  url : String
  referrer : String := ""
  title : String := ""
  width : Nat := 1280
  loaded : Bool := true
  deriving DecidableEq, Repr, Inhabited

structure Script where
  scene : Scene
  tag : ScriptTag
  steps : List Step
  deriving Repr, Inhabited

/-- A width has 32 bits. -/
def width? (v : Toml) : Option Nat :=
  v.integer?.bind fun i => if 0 ≤ i ∧ i < 0x100000000 then some i.toNat else none

def scene? (v : Toml) : Option Scene := do
  let r ← v.record?
  return {
    url := ← r.required "url" 0 Toml.string?
    referrer := ← r.withDefault "referrer" 1 Toml.string? ""
    title := ← r.withDefault "title" 2 Toml.string? ""
    width := ← r.withDefault "width" 3 width? 1280
    loaded := ← r.withDefault "loaded" 4 Toml.boolean? true }

def tag? (v : Toml) : Option ScriptTag := do
  let r ← v.record?
  let source ← r.required "src" 0 Toml.string?
  let siteKey ← r.perhaps "site_key" 1 Toml.string?
  let apiUrl ← r.perhaps "api_url" 2 Toml.string?
  let includeQuery ← r.withDefault "include_query" 3 Toml.boolean? false
  return .ofOptions source siteKey apiUrl includeQuery

namespace Step

/-- A step from its fields. As an array it has exactly its fields. -/
def ofFields? (action : String) (r : Toml.Record) : Option Step :=
  let one (step : String → Step) (name : String) : Option Step :=
    if r.fits 1 then (r.required name 0 Toml.string?).map step else none
  let plain (step : Step) : Option Step := if r.fits 0 then some step else none
  match action with
  | "push" => one .push "url"
  | "replace" => one .replace "url"
  | "back" => plain .back
  | "forward" => plain .forward
  | "advance" => if r.fits 1 then (r.required "seconds" 0 Toml.number?).map .advance else none
  | "track" =>
    if r.fits 2 then do
      let name ← r.perhaps "name" 0 Toml.string?
      let properties ← r.perhaps "properties" 1 fun v => some v.toJson
      return .track name properties
    else none
  | "title" => one .title "title"
  | "hide" => plain .hide
  | "show" => plain .reveal
  | "unload" => plain .unload
  | "load" => plain .load
  | _ => none

/-- The action is named by an entry of a table, or leads an array. -/
def ofToml? : Toml → Option Step
  | .table entries =>
    match Toml.Entries.get? "action" entries with
    | some (.string action) => ofFields? action (.named entries)
    | _ => none
  | .array (.string action::fields) => ofFields? action (.placed fields)
  | _ => none

end Step

def steps? : Toml → Option (List Step)
  | .array items => items.mapM Step.ofToml?
  | _ => none

namespace Script

def ofDocument? (text : String) : Option Script := do
  let r : Toml.Record := .named (← Toml.parse? text)
  return {
    scene := ← r.required "page" 0 scene?
    tag := ← r.required "script" 1 tag?
    steps := ← r.withDefault "steps" 2 steps? [] }

/-- The page before anything happens. -/
def page (s : Script) : Page :=
  { history := .ofHref s.scene.url
    referrer := s.scene.referrer
    title := s.scene.title
    width := s.scene.width
    ready := if s.scene.loaded then .complete else .loading }

end Script

/-- Why there is no script at a path. -/
structure ScriptError where
  path : String
  fault : Config.FileFault
  deriving DecidableEq, Repr

def ScriptError.message (e : ScriptError) : String :=
  (match e.fault with
    | .unreadable => "Failed to read replay script: "
    | .malformed => "Failed to parse replay script: ") ++ e.path

def Script.load (path : String) (content : Config.FileContent) : Except ScriptError Script :=
  match content.text? with
  | none => .error ⟨path,.unreadable⟩
  | some text =>
    match ofDocument? text with
    | none => .error ⟨path,.malformed⟩
    | some s => .ok s

end PageTelemetry.Replay
