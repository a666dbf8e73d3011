import PageTelemetry.Json
import PageTelemetry.Text.Blank
import PageTelemetry.Binary64.Decimal

/-! JSON number literals: how their digits become an integer or a double, and how a double is
written. -/
namespace PageTelemetry.Json.Number

/-- The digits of a literal so far: a significand of 64 bits and a power of ten. -/
structure Scaled where
  significand : Nat
  exponent : Int

def fits (n : Nat) : Bool := n < 0x10000000000000000

/-- Takes digits into the significand as long as it fits; `onDigit` is what each digit taken does
to the exponent and `onRest` what each further digit does to it. -/
def Scaled.take (onDigit onRest : Int) (s : Scaled) (digits : List Nat) : Scaled :=
  (digits.foldl (fun (s,full) d =>
    let n := s.significand * 10 + d
    if full || !fits n then (⟨s.significand,s.exponent + onRest⟩,true)
    else (⟨n,s.exponent + onDigit⟩,false)) (s,false)).1

/-- The powers of ten up to the greatest double. -/
def tenPower (n : Nat) : Binary64 := .ofNat (Binary64.tenTo n)

def lowered (x : Binary64 × Int) : Binary64 × Int :=
  if x.2 < -308 then (x.1.div (tenPower 308),x.2 + 308) else x

/-- The significand as a double, scaled by a power of ten; both steps round. A number beyond the
greatest double is refused. -/
def Scaled.toDouble? (s : Scaled) : Option Binary64 :=
  let x := Binary64.ofNat s.significand
  if x.isZero then some x
  else if 308 < s.exponent then none
  else if 0 ≤ s.exponent then
    let y := x.mul (tenPower s.exponent.toNat)
    if y.isFinite then some y else none
  else
    let (y,e) := lowered (lowered (x,s.exponent))
    some (if e < -308 then .zero else y.div (tenPower (-e).toNat))

def signed (negative : Bool) (x : Binary64) : Binary64 := if negative then x.neg else x

def digitsOf (cs : List Char) : List Nat := cs.map fun c => c.toNat - '0'.toNat

/-- A literal without fraction and exponent: an integer where 64 bits hold it. The literal of a
negative zero is a double. -/
def ofWhole? (negative : Bool) (whole : List Char) : Option Json :=
  let n := Text.ofDecimal whole
  if negative then
    if n = 0 || !fits n || 0x8000000000000000 < n then double? else some (.int (-n))
  else if fits n then some (.int n) else double?
where
  double? : Option Json :=
    ((Scaled.take 0 1 ⟨0,0⟩ (digitsOf whole)).toDouble?).map fun x => .double (signed negative x)

def ofParts? (negative : Bool) (whole fraction : List Char) (exponent : Int) : Option Json :=
  let first := Scaled.take 0 1 ⟨0,0⟩ (digitsOf whole)
  let all := Scaled.take (-1) 0 first (digitsOf fraction)
  (Scaled.toDouble? ⟨all.significand,all.exponent + exponent⟩).map fun x =>
    .double (signed negative x)

/-- `e` or `E`, perhaps a sign, and digits; without the letter the exponent is zero. -/
def readExponent (cs : List Char) : Option (Option Int × List Char) :=
  match cs with
  | 'e'::rest | 'E'::rest =>
    let (negative,rest) := match rest with
      | '-'::r => (true,r)
      | '+'::r => (false,r)
      | r => (false,r)
    match rest.takeWhile Char.isDigit with
    | [] => none
    | ds =>
      let n : Int := Text.ofDecimal ds
      some (some (if negative then -n else n),rest.dropWhile Char.isDigit)
  | _ => some (none,cs)

/-- A whole part has a leading zero only if that is all of it. -/
def readWhole (cs : List Char) : Option (List Char × List Char) :=
  match cs.takeWhile Char.isDigit with
  | [] => none
  | '0'::_::_ => none
  | ds => some (ds,cs.dropWhile Char.isDigit)

def readUnsigned (negative : Bool) (cs : List Char) : Option (Json × List Char) :=
  match readWhole cs with
  | none => none
  | some (whole,'.'::rest) =>
    match rest.takeWhile Char.isDigit with
    | [] => none
    | fraction => do
      let (exponent,rest) ← readExponent (rest.dropWhile Char.isDigit)
      return (← ofParts? negative whole fraction (exponent.getD 0),rest)
  | some (whole,rest) => do
    match ← readExponent rest with
    | (none,rest) => return (← ofWhole? negative whole,rest)
    | (some exponent,rest) => return (← ofParts? negative whole [] exponent,rest)

def read : List Char → Option (Json × List Char)
  | '-'::rest => readUnsigned true rest
  | cs => readUnsigned false cs

/-- The fewest digits that read back, with at least one fraction digit, positional if the decimal
exponent lies in -5 to 15; a number that is not finite has no literal. -/
def ofDouble : Binary64 → List Char
  | .finite s m e =>
    let d := Binary64.shortest m e
    let sign := if s then ['-'] else []
    if -5 ≤ d.point - 1 ∧ d.point - 1 ≤ 15 then
      let body := d.positional
      sign ++ if body.contains '.' then body else body ++ ['.','0']
    else sign ++ d.scientific
  | _ => "null".toList

def ofInt (i : Int) : List Char :=
  if i < 0 then '-'::Nat.toDigits 10 i.natAbs else Nat.toDigits 10 i.natAbs

end PageTelemetry.Json.Number
