import PageTelemetry.Toml
import PageTelemetry.Text.Blank
import PageTelemetry.Binary64.Decimal

/-! TOML integers and floats. -/
namespace PageTelemetry.Toml.Number

/-- Digits that satisfy `p`; single underscores between them are left out. -/
def digitsWith (p : Char → Bool) : List Char → Option (List Char × List Char)
  | [] => none
  | c::rest =>
    if p c then
      match rest with
      | [] => some ([c],[])
      | '_'::next => (digitsWith p next).map fun (ds,r) => (c::ds,r)
      | d::next =>
        if p d then (digitsWith p (d::next)).map fun (ds,r) => (c::ds,r)
        else some ([c],d::next)
    else none

def isBelow (base : Nat) (c : Char) : Bool :=
  match Text.hexValue? c with
  | some d => d < base
  | none => false

/-- Integers have 64 bits. -/
def inRange? (i : Int) : Option Int :=
  if -0x8000000000000000 ≤ i ∧ i < 0x8000000000000000 then some i else none

/-- The digits behind `0x`, `0o` or `0b`. -/
def readBased (base : Nat) (cs : List Char) : Option (Toml × List Char) := do
  let (ds,rest) ← digitsWith (isBelow base) cs
  let i ← inRange? (Text.ofDigits base (ds.filterMap Text.hexValue?))
  return (.integer i,rest)

/-- `e` or `E`, perhaps a sign, and digits. -/
def readExponent : List Char → Option (Int × List Char)
  | 'e'::rest | 'E'::rest => do
    let (negative,rest) := match rest with
      | '-'::r => (true,r)
      | '+'::r => (false,r)
      | r => (false,r)
    let (ds,rest) ← digitsWith Char.isDigit rest
    let n : Int := Text.ofDecimal ds
    return (if negative then -n else n,rest)
  | _ => none

/-- A float beyond the greatest one is refused, unless it is negative. -/
def float? (negative : Bool) (whole fraction : List Char) (exponent : Int) : Option Toml :=
  let x := Binary64.ofDecimal negative (Text.ofDecimal (whole ++ fraction)) (exponent - fraction.length)
  if x = .infinity false then none else some (.float x)

def readDecimal (negative : Bool) (cs : List Char) : Option (Toml × List Char) := do
  let (whole,rest) ← match cs with
    | '0'::r => some (['0'],r)
    | _ => digitsWith Char.isDigit cs
  match rest with
  | '.'::r => do
    let (fraction,r) ← digitsWith Char.isDigit r
    match r with
    | 'e'::_ | 'E'::_ => do
      let (exponent,r) ← readExponent r
      return (← float? negative whole fraction exponent,r)
    | _ => return (← float? negative whole fraction 0,r)
  | 'e'::_ | 'E'::_ => do
    let (exponent,r) ← readExponent rest
    return (← float? negative whole [] exponent,r)
  | _ =>
    let n : Int := Text.ofDecimal whole
    return (.integer (← inRange? (if negative then -n else n)),rest)

def readUnsigned (negative : Bool) : List Char → Option (Toml × List Char)
  | 'i' :: 'n' :: 'f' :: rest => some (.float (.infinity negative),rest)
  | 'n' :: 'a' :: 'n' :: rest => some (.float .nan,rest)
  | cs => readDecimal negative cs

def read : List Char → Option (Toml × List Char)
  | '+'::rest => readUnsigned false rest
  | '-'::rest => readUnsigned true rest
  | '0' :: 'x' :: rest => readBased 16 rest
  | '0' :: 'o' :: rest => readBased 8 rest
  | '0' :: 'b' :: rest => readBased 2 rest
  | cs => readUnsigned false cs

end PageTelemetry.Toml.Number
