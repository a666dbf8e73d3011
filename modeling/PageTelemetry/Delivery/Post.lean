import PageTelemetry.Delivery

/-! What a collector gets. -/
namespace PageTelemetry

structure Post where
  /-- The path with the query. -/
  target : String
  contentType : String
  body : String
  deriving DecidableEq, Repr, Inhabited

namespace Post

def method : String := "POST"

/-- A beacon calls its JSON plain text. -/
def contentType? : Transport → Option String
  | .beacon => some "text/plain;charset=UTF-8"
  | .keepAlive => some "application/json"
  | .debug | .recording => none

def targetOf (u : Url) : String :=
  u.pathText ++ match u.query with
    | none => ""
    | some q => "?" ++ String.ofList q

/-- The post that an outlet makes of a request, if it makes one. -/
def ofRequest? (o : Outlet) (r : Request) : Option Post :=
  if o.accepts then
    match contentType? o.transport, Url.parse r.url with
    | some contentType, .ok u => some ⟨targetOf u,contentType,r.body⟩
    | _, _ => none
  else none

end Post

end PageTelemetry
