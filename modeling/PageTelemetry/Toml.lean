import PageTelemetry.Json

/-! TOML values, and the JSON value that stands for each. -/
namespace PageTelemetry

inductive Toml
  | string (s : String)
  | integer (i : Int)
  | float (x : Binary64)
  | boolean (b : Bool)
  | datetime (text : String)
  | array (items : List Toml)
  | table (entries : List (String × Toml))
  deriving Repr, Inhabited

namespace Toml

abbrev Entries := List (String × Toml)

def Entries.get? (key : String) : Entries → Option Toml
  | [] => none
  | (k,v)::rest => if k = key then some v else get? key rest

def string? : Toml → Option String
  | .string s => some s
  | _ => none

def boolean? : Toml → Option Bool
  | .boolean b => some b
  | _ => none

def integer? : Toml → Option Int
  | .integer i => some i
  | _ => none

/-- A float, or the float nearest to an integer. -/
def number? : Toml → Option Binary64
  | .float x => some x
  | .integer i => some (.ofInt i)
  | _ => none

/-- The member name under which the text of a date or time goes into JSON. -/
def datetimeKey : String := "$__toml_private_datetime"

mutual

/-- A float that is not finite has no JSON number and becomes null. -/
def toJson : Toml → Json
  | .string s => .string s
  | .integer i => .int i
  | .float x => if x.isFinite then .double x else .null
  | .boolean b => .bool b
  | .datetime text => .object [(datetimeKey,.string text)]
  | .array items => .array (itemsToJson items)
  | .table entries => .object (membersOf [] entries)

def itemsToJson : List Toml → List Json
  | [] => []
  | v::vs => toJson v::itemsToJson vs

def membersOf (ms : Json.Members) : List (String × Toml) → Json.Members
  | [] => ms
  | (key,v)::rest => membersOf (Json.Members.insert key (toJson v) ms) rest

end

end Toml

end PageTelemetry
