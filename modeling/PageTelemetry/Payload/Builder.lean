import PageTelemetry.Payload

/-! Building payloads from a page and from the values that a caller sets in its place. -/
namespace PageTelemetry.Payload

/-- What a page shows to the trackers on it. -/
structure Ambient where
  href : String := ""
  referrer : String := ""
  title : String := ""
  width : Nat := 0
  deriving DecidableEq, Repr, Inhabited

/-- Text passes as it is, null and nothing are empty, all else is written as JSON. -/
def propertiesText : Option Json → String
  | none | some .null => ""
  | some (.string s) => s
  | some v => v.render

def textField? (fields : Json.Members) (name : String) : Option String :=
  (fields.get? name).bind Json.string?

/-- A count: an integer of 64 bits, or a number that is not negative, rounded and clamped to one. -/
def count? (v : Json) : Option Nat :=
  match v.nat64? with
  | some n => some n
  | none =>
    match v.number? with
    | none => none
    | some x => if x.isNonneg then x.round?.map fun i => min i.toNat 0xffffffffffffffff else none

def countField? (fields : Json.Members) (name : String) : Option Nat :=
  (fields.get? name).bind count?

/-- A width is given in 32 bits. -/
def width? (fields : Json.Members) : Option Nat :=
  match countField? fields "screen_width" with
  | some n => if n < 0x100000000 then some n else none
  | none => none

/-- The payload of a page with the fields of an object set over it. A field of the wrong type does
not count. An event has no duration. -/
def buildWith (siteKey : String) (includeQuery : Bool) (a : Ambient) (fields : Json.Members) :
    Payload :=
  let utm := Campaign.ofHref a.href
  let name := (textField? fields "name").getD ""
  { siteKey := siteKey
    name := name
    path := (textField? fields "path").getD (Location.path a.href includeQuery)
    title := (textField? fields "title").getD a.title
    properties := propertiesText (fields.get? "properties")
    referrer := (textField? fields "referrer").getD (Location.normalizeReferrer a.referrer a.href)
    screenWidth := (width? fields).getD a.width
    duration := if name = "" then (countField? fields "duration").getD 0 else 0
    campaign :=
      { source := (textField? fields "utm_source").getD utm.source
        medium := (textField? fields "utm_medium").getD utm.medium
        campaign := (textField? fields "utm_campaign").getD utm.campaign } }

/-- The payload of a page with overrides; what is no object sets nothing. -/
def build (siteKey : String) (includeQuery : Bool) (a : Ambient) (overrides : Option Json) : Payload :=
  buildWith siteKey includeQuery a ((overrides.bind Json.members?).getD [])

/-- The payload for leaving a page; it has no title. -/
def buildLeave (siteKey : String) (includeQuery : Bool) (a : Ambient) (duration : Nat) : Payload :=
  { build siteKey includeQuery a none with title := "", duration := duration }

end PageTelemetry.Payload
