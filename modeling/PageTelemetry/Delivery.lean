import PageTelemetry.Config
import PageTelemetry.Payload
import PageTelemetry.Url.Form
import PageTelemetry.Json.Parser

/-! Delivery: the request that carries a payload, and the transports that take requests. -/
namespace PageTelemetry

structure Request where
  url : String
  body : String
  deriving DecidableEq, Repr, Inhabited

namespace Request

/-- The route of the collector below a base, with the site key as the last query pair. A base that
makes no URL with the route gets the key as it is. -/
def endpointUrl (apiUrl siteKey : String) (endpoint : Payload.Endpoint) : String :=
  let raw := apiUrl ++ endpoint.path
  match Url.parse raw with
  | .ok u => (u.appendPair "site_key".toList siteKey.toList).text
  | .error _ => raw ++ "?site_key=" ++ siteKey

def ofPayload (s : Settings) (p : Payload) : Request :=
  ⟨endpointUrl s.apiUrl s.siteKey p.endpoint,p.body⟩

def bodyJson (r : Request) : Json := (Json.parse? r.body).getD .null

/-- A request on one line, as a dry run shows it. -/
def line (r : Request) : String :=
  (Json.object [("body",r.bodyJson),("url",.string r.url)]).render

/-- A request as the debug transport shows it. -/
def debugText (r : Request) : String :=
  "📊 pagetrail payload (DEBUG MODE - not sent):\n" ++
    (Json.object [("body",(Json.parse? r.body).getD (.string r.body)),("url",.string r.url)]).renderPretty
      ++ "\n"

end Request

/-- The ways in which requests leave a tracker. -/
inductive Transport
  | beacon | keepAlive | debug | recording
  deriving DecidableEq, Repr, Inhabited

namespace Transport

def name : Transport → String
  | .beacon => "beacon"
  | .keepAlive => "keepalive"
  | .debug => "debug"
  | .recording => "recording"

/-- The transport that settings ask for. A beacon needs a thread of its own; where none can be started,
keep-alive requests stand in for it. -/
def select (s : Settings) (spawns : Bool := true) : Transport :=
  if s.debug then .debug
  else match s.transport with
    | .keepAlive => .keepAlive
    | .auto | .beacon => if spawns then .beacon else .keepAlive

end Transport

/-- A transport in use: whether a runtime drives it, and whether it is open. -/
structure Outlet where
  transport : Transport
  hasRuntime : Bool := true
  isOpen : Bool := true
  deriving DecidableEq, Repr, Inhabited

namespace Outlet

/-- The outlet of a command: a recorder for a dry run, else the transport that the settings ask for.
No runtime is there to drive keep-alive requests. The commands themselves run where a beacon can start its thread. -/
def ofSettings (s : Settings) (dryRun : Bool) (spawns : Bool := true) : Outlet :=
  { transport := if dryRun then .recording else Transport.select s spawns, hasRuntime := false }

/-- A beacon takes nothing once it is closed; keep-alive requests need a runtime. -/
def accepts (o : Outlet) : Bool :=
  match o.transport with
  | .beacon => o.isOpen
  | .keepAlive => o.hasRuntime
  | .debug | .recording => true

def close (o : Outlet) : Outlet := { o with isOpen := false }

/-- Whether what is accepted goes to the collector. -/
def reachesCollector (o : Outlet) : Bool :=
  match o.transport with
  | .beacon | .keepAlive => true
  | .debug | .recording => false

end Outlet

/-- An outlet with the requests that it has accepted, in order. -/
structure Traffic where
  outlet : Outlet
  requests : List Request
  deriving DecidableEq, Repr, Inhabited

namespace Traffic

/-- What was kept in place of being sent. -/
def recorded (t : Traffic) : List Request :=
  if t.outlet.transport = .recording then t.requests else []

/-- What was shown in place of being sent. -/
def shown (t : Traffic) : List Request :=
  if t.outlet.transport = .debug then t.requests else []

/-- What was handed to the collector. -/
def posted (t : Traffic) : List Request := if t.outlet.reachesCollector then t.requests else []

end Traffic

end PageTelemetry
