import PageTelemetry.Toml

/-! Records in TOML: a table gives the fields by name, an array gives them in order, and a date or
time is a record of its text. -/
namespace PageTelemetry.Toml

inductive Record
  | named (entries : Entries)
  | placed (items : List Toml)

def record? : Toml → Option Record
  | .table entries => some (.named entries)
  | .array items => some (.placed items)
  | .datetime text => some (.named [(datetimeKey,.string text)])
  | _ => none

namespace Record

/-- Whether an array has no items beside so many fields. A table may have any entries. -/
def fits (r : Record) (fields : Nat) : Bool :=
  match r with
  | .named _ => true
  | .placed items => items.length ≤ fields

def get? (r : Record) (name : String) (place : Nat) : Option Toml :=
  match r with
  | .named entries => entries.get? name
  | .placed items => items[place]?

def required (r : Record) (name : String) (place : Nat) (read : Toml → Option α) : Option α :=
  (r.get? name place).bind read

def withDefault (r : Record) (name : String) (place : Nat) (read : Toml → Option α) (default : α) :
    Option α :=
  match r.get? name place with
  | none => some default
  | some v => read v

/-- A field that may be left out of a table, but not of an array. -/
def perhaps (r : Record) (name : String) (place : Nat) (read : Toml → Option α) :
    Option (Option α) :=
  match r, r.get? name place with
  | .named _, none => some none
  | .placed _, none => none
  | _, some v => (read v).map some

end Record

end PageTelemetry.Toml
