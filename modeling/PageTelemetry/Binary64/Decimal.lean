import PageTelemetry.Binary64

/-! Binary64 numbers as decimals: reading one, and the fewest digits that read back as it. -/
namespace PageTelemetry.Binary64

/-- The power `10 ^ k`. -/
def tenTo (k : Nat) : Nat := Nat.pow 10 k

/-- The number nearest to `± digits · 10 ^ scale`. Far outside the range of a binary64 number the
power of ten is not computed. -/
def ofDecimal (negative : Bool) (digits : Nat) (scale : Int) : Binary64 :=
  if digits = 0 then .finite negative 0 leastExponent
  else
    let magnitude := (digits.log2 : Int) + scale * 3
    if 0 ≤ scale then
      if 1100 < magnitude then .infinity negative
      else ofRatio negative (digits * tenTo scale.toNat) 1
    else if magnitude < -1200 then .finite negative 0 leastExponent
    else ofRatio negative digits (tenTo (-scale).toNat)

/-- The real numbers that round to a finite number other than zero, as `low / unit` to
`high / unit` around `value / unit`; the ends belong to them if `closed`. -/
structure Interval where
  low : Nat
  value : Nat
  high : Nat
  unit : Nat
  closed : Bool

/-- Half the distance to each neighbour. Below a power of two the neighbours are closer. -/
def interval (m : Nat) (e : Int) : Interval :=
  let (n,d) := ratio 1 (e - 2)
  let below := if m = leastNormal ∧ leastExponent < e then 1 else 2
  ⟨(4 * m - below) * n,4 * m * n,(4 * m + 2) * n,d,m % 2 = 0⟩

/-- `n / d < 10 ^ k`. -/
def belowPower (n d : Nat) (k : Int) : Bool :=
  if 0 ≤ k then n < d * tenTo k.toNat else n * tenTo (-k).toNat < d

/-- The least `k` with `n / d < 10 ^ k`. -/
def decimalPoint (n d : Nat) : Int :=
  let guess : Int := Int.fdiv (((n.log2 : Int) - (d.log2 : Int)) * 30103) 100000
  if belowPower n d (guess - 1) then guess - 1
  else if belowPower n d guess then guess
  else if belowPower n d (guess + 1) then guess + 1
  else guess + 2

/-- Digits `c` on the grid of multiples of `10 ^ p` that lie inside the interval. -/
def Interval.contains (i : Interval) (c : Nat) (p : Int) : Bool :=
  let (a,b) := if 0 ≤ p then (c * tenTo p.toNat * i.unit,1) else (c * i.unit,tenTo (-p).toNat)
  if i.closed then i.low * b ≤ a && a ≤ i.high * b else i.low * b < a && a < i.high * b

/-- The multiple of `10 ^ p` to stand for the number: of the two around it, the one inside the
interval; if both are, the nearer; if both are equally near, the even one. -/
def Interval.onGrid? (i : Interval) (p : Int) : Option Nat :=
  let (n,d) :=
    if 0 ≤ p then (i.value,i.unit * tenTo p.toNat) else (i.value * tenTo (-p).toNat,i.unit)
  let c := n / d
  match i.contains c p, i.contains (c + 1) p with
  | false, false => none
  | true, false => some c
  | false, true => some (c + 1)
  | true, true => some (divEven n d)

/-- Digits with the place of the point: the number `0.d₁d₂… · 10 ^ point`. -/
structure Digits where
  digits : List Char
  point : Int

def decimalDigits (n : Nat) : List Char := Nat.toDigits 10 n

def Interval.search (i : Interval) (point : Int) : Nat → Nat → Digits
  | 0, count => ⟨decimalDigits (i.value / i.unit),count⟩
  | tries + 1, count =>
    match i.onGrid? (point - count) with
    | some c =>
      let ds := decimalDigits c
      let shown := (ds.reverse.dropWhile (· == '0')).reverse
      ⟨shown,point - count + ds.length⟩
    | none => i.search point tries (count + 1)

/-- The fewest digits that read back as `m · 2 ^ e`, and of those the nearest. -/
def shortest (m : Nat) (e : Int) : Digits :=
  if m = 0 then ⟨['0'],1⟩
  else
    let i := interval m e
    i.search (decimalPoint i.value i.unit) 17 1

/-- Digits with the point in its place; an integer has no point. -/
def Digits.positional (d : Digits) : List Char :=
  if d.point ≤ 0 then '0' :: '.' :: (List.replicate (-d.point).toNat '0' ++ d.digits)
  else
    let whole := d.point.toNat
    if d.digits.length ≤ whole then d.digits ++ List.replicate (whole - d.digits.length) '0'
    else d.digits.take whole ++ '.'::d.digits.drop whole

/-- One digit, a point and the rest if there is any, and an exponent with its sign. -/
def Digits.scientific (d : Digits) : List Char :=
  let exponent := d.point - 1
  let mantissa := match d.digits with
    | [] => ['0']
    | [c] => [c]
    | c :: rest => c :: '.' :: rest
  mantissa ++ 'e'::(if exponent < 0 then '-' else '+')::decimalDigits exponent.natAbs

/-- The fewest digits that read back, always written out in full. -/
def toPositional : Binary64 → String
  | .finite s m e => String.ofList ((if s then ['-'] else []) ++ (shortest m e).positional)
  | .infinity s => if s then "-inf" else "inf"
  | .nan => "NaN"

end PageTelemetry.Binary64
