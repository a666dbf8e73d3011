import PageTelemetry.Config
import PageTelemetry.Json

/-! The JSON form of a configuration. -/
namespace PageTelemetry.Config

/-- A member, or a default where there is none. -/
def memberOr (ms : Json.Members) (name : String) (read? : Json → Option α) (default : α) : Option α :=
  match ms.get? name with
  | none => some default
  | some v => read? v

/-- A text or null. -/
def nullableText? : Json → Option (Option String)
  | .null => some none
  | .string s => some (some s)
  | _ => none

def transport? : Json → Option TransportPreference
  | .string s => TransportPreference.ofName? s
  | _ => none

/-- Reads an object; members that are not named here do not count. -/
def ofJson? (v : Json) : Option Config := do
  let ms ← v.members?
  return {
    siteKey := ← memberOr ms "site_key" nullableText? none
    apiUrl := ← memberOr ms "api_url" nullableText? none
    includeQuery := ← memberOr ms "include_query" Json.bool? false
    enabled := ← memberOr ms "enabled" Json.bool? true
    debug := ← memberOr ms "debug" Json.bool? false
    transport := ← memberOr ms "transport" transport? .auto
    dedupeLeave := ← memberOr ms "dedupe_leave" Json.bool? false }

end PageTelemetry.Config
