import PageTelemetry.Config

/-! The script tag that embeds a tracker, and the configuration it carries. -/
namespace PageTelemetry

structure ScriptTag where
  source : String
  attributes : List (String × String)
  deriving DecidableEq, Repr, Inhabited

namespace ScriptTag

def siteKeyAttribute : String := "data-site-key"
def apiUrlAttribute : String := "data-api-url"
def includeQueryAttribute : String := "data-include-query"

def attribute? (tag : ScriptTag) (name : String) : Option String := tag.attributes.lookup name

/-- The tag of a script with the attributes that are given. -/
def ofOptions (source : String) (siteKey apiUrl : Option String) (includeQuery : Bool) : ScriptTag :=
  ⟨source,
    (siteKey.map fun k => (siteKeyAttribute,k)).toList ++
      (apiUrl.map fun u => (apiUrlAttribute,u)).toList ++
      (if includeQuery then [(includeQueryAttribute,"true")] else [])⟩

/-- A flag is set by its bare presence and by the words for yes. -/
def parseFlag (value : String) : Bool :=
  ["","true","1","yes"].contains (Text.lowerAscii (Text.trim value))

/-- The text before the last slash, or nothing. -/
def beforeLastSlash (cs : List Char) : List Char :=
  ((cs.reverse.dropWhile (· != '/')).drop 1).reverse

/-- The directory of a script, without a slash at the end: its origin and the front of its path. -/
def directory (source : String) : Except Config.Error String :=
  match Url.parse source with
  | .error e => .error (.invalidScriptSource source (.malformed e))
  | .ok u =>
    if u.isHttp then .ok (u.originText ++ String.ofList (beforeLastSlash u.path.write))
    else .error (.invalidScriptSource source .notHttp)

/-- The collector of a tag: the one it names, else the directory of its script. -/
def apiUrl (tag : ScriptTag) : Except Config.Error String :=
  match (tag.attribute? apiUrlAttribute).bind Text.trimmed? with
  | some url => .ok (Text.trimEndSlashes url)
  | none => directory tag.source

def includeQuery? (tag : ScriptTag) : Option Bool :=
  (tag.attribute? includeQueryAttribute).map parseFlag

/-- The configuration that a tag carries. -/
def config (tag : ScriptTag) : Except Config.Error Config :=
  match tag.apiUrl with
  | .error e => .error e
  | .ok url =>
    .ok { siteKey := (tag.attribute? siteKeyAttribute).bind Text.trimmed?
          apiUrl := some url
          includeQuery := tag.includeQuery?.getD false }

end ScriptTag

end PageTelemetry
