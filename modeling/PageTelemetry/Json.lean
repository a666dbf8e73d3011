import PageTelemetry.Binary64

/-! JSON values. The members of an object are kept sorted by name, each name once. -/
namespace PageTelemetry

inductive Json
  | null
  | bool (b : Bool)
  | int (i : Int)
  | double (x : Binary64)
  | string (s : String)
  | array (items : List Json)
  | object (members : List (String × Json))
  deriving Repr, Inhabited

namespace Json

abbrev Members := List (String × Json)

namespace Members

def get? (name : String) : Members → Option Json
  | [] => none
  | (n,v)::rest => if n = name then some v else get? name rest

/-- The order of names, which is that of their characters. -/
def precedes (name other : String) : Bool :=
  name.toList.lex other.toList fun c d => c.toNat < d.toNat

/-- Sets a member in its place in the order of names; an earlier value is replaced. -/
def insert (name : String) (value : Json) : Members → Members
  | [] => [(name,value)]
  | (n,v)::rest =>
    if n = name then (name,value)::rest
    else if precedes name n then (name,value)::(n,v)::rest
    else (n,v)::insert name value rest

def ofList (ms : List (String × Json)) : Members :=
  ms.foldl (fun acc (name,value) => insert name value acc) []

theorem get?_insert_self (name : String) (value : Json) (ms : Members) :
    get? name (insert name value ms) = some value := by
  induction ms with
  | nil => simp [insert,get?]
  | cons m ms ih =>
    obtain ⟨n,v⟩ := m
    by_cases h : n = name
    · simp [insert,h,get?]
    · by_cases hlt : precedes name n
      · simp [insert,h,hlt,get?]
      · simp [insert,h,hlt,get?,ih]

theorem get?_insert_of_ne {name other : String} (value : Json) (ms : Members) (h : other ≠ name) :
    get? other (insert name value ms) = get? other ms := by
  induction ms with
  | nil => simp [insert,get?,Ne.symm h]
  | cons m ms ih =>
    obtain ⟨n,v⟩ := m
    by_cases hn : n = name
    · subst hn
      simp [insert,get?,Ne.symm h]
    · by_cases hlt : precedes name n
      · simp [insert,hn,hlt,get?,Ne.symm h]
      · simp only [insert,hn,hlt,if_false,Bool.false_eq_true,get?]
        by_cases ho : n = other
        · simp [ho]
        · simp [ho,ih]

end Members

/-- The member of that name, if the value is an object that has one. -/
def get? (name : String) : Json → Option Json
  | .object ms => Members.get? name ms
  | _ => none

def string? : Json → Option String
  | .string s => some s
  | _ => none

def bool? : Json → Option Bool
  | .bool b => some b
  | _ => none

def members? : Json → Option Members
  | .object ms => some ms
  | _ => none

def array? : Json → Option (List Json)
  | .array items => some items
  | _ => none

def int? : Json → Option Int
  | .int i => some i
  | _ => none

/-- An integer in the range of an unsigned 64-bit number. -/
def nat64? : Json → Option Nat
  | .int i => if 0 ≤ i ∧ i < 0x10000000000000000 then some i.toNat else none
  | _ => none

def number? : Json → Option Binary64
  | .int i => some (.ofInt i)
  | .double x => some x
  | _ => none

end Json

end PageTelemetry
