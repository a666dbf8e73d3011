import PageTelemetry.Text.Blank
import PageTelemetry.Url.Parser

/-! The configuration of a tracker, what is wrong with one, and the settings a tracker runs with. -/
namespace PageTelemetry

/-- How requests should leave the process. -/
inductive TransportPreference
  | auto | beacon | keepAlive
  deriving DecidableEq, Repr, Inhabited

def TransportPreference.name : TransportPreference → String
  | .auto => "auto"
  | .beacon => "beacon"
  | .keepAlive => "keepalive"

def TransportPreference.ofName? (s : String) : Option TransportPreference :=
  [auto,beacon,keepAlive].find? (·.name == s)

structure Config where
  siteKey : Option String := none
  apiUrl : Option String := none
  includeQuery : Bool := false
  enabled : Bool := true
  debug : Bool := false
  transport : TransportPreference := .auto
  dedupeLeave : Bool := false
  deriving DecidableEq, Repr, Inhabited

/-- A configuration with a site key and a collector to send to. -/
structure Settings where
  siteKey : String
  apiUrl : String
  includeQuery : Bool
  debug : Bool
  transport : TransportPreference
  dedupeLeave : Bool
  deriving DecidableEq, Repr, Inhabited

namespace Config

/-- Why the source of a script names no directory. -/
inductive SourceFault
  | malformed (e : Url.Error)
  | notHttp
  deriving DecidableEq, Repr

def SourceFault.message : SourceFault → String
  | .malformed e => e.message
  | .notHttp => "not an http(s) url"

inductive Error
  | missingSiteKey
  | invalidScriptSource (source : String) (fault : SourceFault)
  | invalidApiUrl (url : String)
  deriving DecidableEq, Repr

def Error.message : Error → String
  | .missingSiteKey => "script tag has no data-site-key attribute"
  | .invalidScriptSource source fault => "invalid script source '" ++ source ++ "': " ++ fault.message
  | .invalidApiUrl url => "invalid api url '" ++ url ++ "'"

/-- Takes a configuration that has a site key and the URL of a collector; slashes at its end do not
count. -/
def resolve (c : Config) : Except Error Settings :=
  match c.siteKey.bind Text.trimmed? with
  | none => .error .missingSiteKey
  | some siteKey =>
    let apiUrl := Text.trimEndSlashes (c.apiUrl.getD "")
    if apiUrl.isEmpty then .error (.invalidApiUrl "")
    else match Url.parse apiUrl with
      | .error _ => .error (.invalidApiUrl apiUrl)
      | .ok _ => .ok ⟨siteKey,apiUrl,c.includeQuery,c.debug,c.transport,c.dedupeLeave⟩

end Config

end PageTelemetry
