import PageTelemetry.Url.Parser
import PageTelemetry.Url.Form

/-! What a page's location says: its logical path, its campaign, and whether a referrer is foreign. -/
namespace PageTelemetry.Location

/-- Where a bare path is taken to be. -/
def localUrl : Url :=
  ⟨"http".toList,[],[],some (.domain "localhost".toList),none,.segments [[]],none,none⟩

/-- A location as a URL; one that is not absolute is taken to be a reference on the local host. -/
def read? (href : String) : Option Url :=
  match Url.parse href with
  | .ok u => some u
  | .error _ => (localUrl.join href).toOption

/-- The path of a URL, with its query if that is wanted and not empty. -/
def pathOf (u : Url) (includeQuery : Bool) : String :=
  match u.query with
  | some (c::q) => if includeQuery then u.pathText ++ "?" ++ String.ofList (c::q) else u.pathText
  | _ => u.pathText

/-- The logical path of a location; the root if it cannot be read. -/
def path (href : String) (includeQuery : Bool) : String :=
  match read? href with
  | none => "/"
  | some u => pathOf u includeQuery

/-- Whether a referrer is a URL on the host of a location. -/
def sameHost (referrer href : String) : Bool :=
  match Url.parse referrer, read? href with
  | .ok a, some b => a.hostText?.isSome && a.hostText? == b.hostText?
  | _, _ => false

/-- The referrer without blanks around it; one on the same host is none. -/
def normalizeReferrer (referrer href : String) : String :=
  let r := Text.trim referrer
  if r.isEmpty || sameHost r href then "" else r

end PageTelemetry.Location

namespace PageTelemetry

/-- The campaign that a visit belongs to. -/
structure Campaign where
  source : String := ""
  medium : String := ""
  campaign : String := ""
  deriving DecidableEq, Repr, Inhabited

namespace Campaign

/-- Takes in a query pair; a slot that holds something keeps it. -/
def note (c : Campaign) (pair : List Char × List Char) : Campaign :=
  let value := String.ofList pair.2
  if pair.1 = "utm_source".toList then
    if c.source.isEmpty then { c with source := value } else c
  else if pair.1 = "utm_medium".toList then
    if c.medium.isEmpty then { c with medium := value } else c
  else if pair.1 = "utm_campaign".toList then
    if c.campaign.isEmpty then { c with campaign := value } else c
  else c

def ofPairs (pairs : List (List Char × List Char)) : Campaign := pairs.foldl note {}

def ofHref (href : String) : Campaign :=
  match Location.read? href with
  | none => {}
  | some u => ofPairs u.queryPairs

end Campaign

end PageTelemetry
