import PageTelemetry.Json.Printer
import PageTelemetry.Location

/-! Telemetry payloads: page views, leaves and events, and the JSON body of each. -/
namespace PageTelemetry

structure Payload where
  siteKey : String := ""
  /-- Empty unless this is an event. -/
  name : String := ""
  path : String := ""
  title : String := ""
  properties : String := ""
  referrer : String := ""
  screenWidth : Nat := 0
  /-- Seconds on the page; only a leave has some. -/
  duration : Nat := 0
  campaign : Campaign := {}
  deriving DecidableEq, Repr, Inhabited

namespace Payload

inductive Kind
  | pageView | leave | event
  deriving DecidableEq, Repr

def Kind.name : Kind → String
  | .pageView => "PageView"
  | .leave => "Leave"
  | .event => "Event"

/-- Where the collector takes a payload. -/
inductive Endpoint
  | collect | event
  deriving DecidableEq, Repr

def Endpoint.path : Endpoint → String
  | .collect => "/api/collect"
  | .event => "/api/event"

def kind (p : Payload) : Kind :=
  if p.name ≠ "" then .event else if p.duration = 0 then .pageView else .leave

def endpoint (p : Payload) : Endpoint :=
  match p.kind with
  | .event => .event
  | .pageView | .leave => .collect

/-- The members of an event's body. -/
def eventMembers (p : Payload) : List (String × Json) :=
  [("name",.string p.name),("path",.string p.path),("properties",.string p.properties)]

/-- The members of the body of a page view or a leave. An empty title and a duration of zero are
left out. -/
def collectMembers (p : Payload) : List (String × Json) :=
  ("path",.string p.path) ::
    ((if p.title = "" then [] else [("title",.string p.title)]) ++
      ("referrer",.string p.referrer)::("screen_width",.int p.screenWidth) ::
      ((if p.duration = 0 then [] else [("duration",.int p.duration)]) ++
        [("utm_source",.string p.campaign.source),("utm_medium",.string p.campaign.medium),
          ("utm_campaign",.string p.campaign.campaign)]))

def members (p : Payload) : List (String × Json) :=
  match p.endpoint with
  | .collect => p.collectMembers
  | .event => p.eventMembers

/-- The body, with its members in the order above. There always is one: texts and natural numbers can all be
written, so no payload is dropped for want of a body. -/
def body (p : Payload) : String := (Json.object p.members).render

end Payload

end PageTelemetry
