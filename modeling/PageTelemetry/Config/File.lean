import PageTelemetry.Config
import PageTelemetry.Toml.Parser
import PageTelemetry.Toml.Record

/-! Configuration files: the `tracker` table of a TOML document. -/
namespace PageTelemetry.Config

/-- What is found at the path of a file. -/
inductive FileContent
  | missing
  | bytes (b : ByteArray)

/-- The text of a file that exists and holds UTF-8. -/
def FileContent.text? : FileContent → Option String
  | .missing => none
  | .bytes b => String.fromUTF8? b

inductive FileFault
  | unreadable
  | malformed
  deriving DecidableEq, Repr

structure FileError where
  path : String
  fault : FileFault
  deriving DecidableEq, Repr

def FileError.message (e : FileError) : String :=
  (match e.fault with
    | .unreadable => "Failed to read config: "
    | .malformed => "Failed to parse config: ") ++ e.path

def isEmptyTable : Toml → Bool
  | .table [] | .array [] => true
  | _ => false

/-- A transport by its name, or by a table of which it is the only, empty entry. -/
def readTransport? : Toml → Option TransportPreference
  | .string s => TransportPreference.ofName? s
  | .table [(name,v)] => if isEmptyTable v then TransportPreference.ofName? name else none
  | _ => none

def ofToml? (v : Toml) : Option Config := do
  let r ← v.record?
  return { siteKey := ← r.withDefault "site_key" 0 (fun v => v.string?.map some) none
           apiUrl := ← r.withDefault "api_url" 1 (fun v => v.string?.map some) none
           includeQuery := ← r.withDefault "include_query" 2 Toml.boolean? false
           enabled := ← r.withDefault "enabled" 3 Toml.boolean? true
           debug := ← r.withDefault "debug" 4 Toml.boolean? false
           transport := ← r.withDefault "transport" 5 readTransport? .auto
           dedupeLeave := ← r.withDefault "dedupe_leave" 6 Toml.boolean? false }

/-- The configuration in a document; all else in the document does not count. -/
def ofDocument? (text : String) : Option Config := do
  let entries ← Toml.parse? text
  match entries.get? "tracker" with
  | none => some {}
  | some v => ofToml? v

def load (path : String) (content : FileContent) : Except FileError Config :=
  match content.text? with
  | none => .error ⟨path,.unreadable⟩
  | some text =>
    match ofDocument? text with
    | none => .error ⟨path,.malformed⟩
    | some c => .ok c

/-- The configuration in a file; a file that is missing or broken holds none. -/
def FileContent.config? (content : FileContent) : Option Config := content.text?.bind ofDocument?

end PageTelemetry.Config
