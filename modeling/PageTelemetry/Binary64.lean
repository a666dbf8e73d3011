/-! Binary64 numbers as exact values, with rounding to nearest and ties to even. -/
namespace PageTelemetry

/-- An IEEE 754 binary64 number; a finite one is `± mantissa · 2 ^ exponent`. -/
inductive Binary64
  | finite (negative : Bool) (mantissa : Nat) (exponent : Int)
  | infinity (negative : Bool)
  | nan
  deriving DecidableEq, Repr, Inhabited

namespace Binary64

def leastExponent : Int := -1074
def greatestExponent : Int := 971

/-- The least mantissa of 53 bits. -/
def leastNormal : Nat := 0x10000000000000

/-- The least mantissa with a bit too many. -/
def leastOverflow : Nat := 0x20000000000000

/-- `n / d`, rounded to nearest with ties to even. -/
def divEven (n d : Nat) : Nat :=
  let q := n / d
  let r := n % d
  if 2 * r < d then q else if d < 2 * r then q + 1 else q + q % 2

/-- `n / d`, rounded to nearest with ties upwards. -/
def divAway (n d : Nat) : Nat := (2 * n + d) / (2 * d)

/-- A ratio of the same value as `(n / d) / 2 ^ e`. -/
def unscale (n d : Nat) (e : Int) : Nat × Nat :=
  if 0 ≤ e then (n,d <<< e.toNat) else (n <<< (-e).toNat,d)

/-- The exponent that leaves 53 bits of `n / d` before the point, but never below the least one. -/
def fittingExponent (n d : Nat) : Int :=
  let guess := max ((n.log2 : Int) - (d.log2 : Int) - 53) leastExponent
  let (p,q) := unscale n d guess
  if leastOverflow ≤ p / q then guess + 1 else guess

def ofMantissa (negative : Bool) (mantissa : Nat) (exponent : Int) : Binary64 :=
  let (m,e) := if mantissa = leastOverflow then (leastNormal,exponent + 1) else (mantissa,exponent)
  if greatestExponent < e then .infinity negative else .finite negative m e

/-- The binary64 number nearest to `± n / d`. -/
def ofRatio (negative : Bool) (n d : Nat) : Binary64 :=
  if n = 0 then .finite negative 0 leastExponent
  else
    let e := fittingExponent n d
    let (p,q) := unscale n d e
    ofMantissa negative (divEven p q) e

def zero : Binary64 := .finite false 0 leastExponent

def ofNat (n : Nat) : Binary64 := ofRatio false n 1

def ofInt (i : Int) : Binary64 := ofRatio (i < 0) i.natAbs 1

def neg : Binary64 → Binary64
  | .finite s m e => .finite (!s) m e
  | .infinity s => .infinity (!s)
  | .nan => .nan

/-- The magnitude `m · 2 ^ e` as a ratio. -/
def ratio (m : Nat) (e : Int) : Nat × Nat :=
  if 0 ≤ e then (m <<< e.toNat,1) else (m,1 <<< (-e).toNat)

def isZero : Binary64 → Bool
  | .finite _ 0 _ => true
  | _ => false

def isFinite : Binary64 → Bool
  | .finite .. => true
  | _ => false

def isNegative : Binary64 → Bool
  | .finite s _ _ => s
  | .infinity s => s
  | .nan => false

def mul : Binary64 → Binary64 → Binary64
  | .finite s m e, .finite t n f =>
    let (a,b) := ratio m e
    let (c,d) := ratio n f
    ofRatio (s != t) (a * c) (b * d)
  | .nan, _ | _, .nan => .nan
  | x, y => if x.isZero || y.isZero then .nan else .infinity (x.isNegative != y.isNegative)

def div : Binary64 → Binary64 → Binary64
  | .finite s m e, .finite t n f =>
    if n = 0 then if m = 0 then .nan else .infinity (s != t)
    else
      let (a,b) := ratio m e
      let (c,d) := ratio n f
      ofRatio (s != t) (a * d) (b * c)
  | .finite s _ _, .infinity t => .finite (s != t) 0 leastExponent
  | .infinity s, .finite t _ _ => .infinity (s != t)
  | _, _ => .nan

/-- Not below zero; the zero with a sign counts as zero. -/
def isNonneg : Binary64 → Bool
  | .finite s m _ => !s || m = 0
  | .infinity s => !s
  | .nan => false

/-- The nearest integer, a half going away from zero; none for infinities and for nan. -/
def round? : Binary64 → Option Int
  | .finite s m e =>
    let (a,b) := ratio m e
    let n := divAway a b
    some (if s then -(n : Int) else n)
  | _ => none

end Binary64

end PageTelemetry
