/-! Punycode: code points beyond ASCII as ASCII letters and digits (RFC 3492). -/
namespace PageTelemetry.Url.Punycode

def digitOf (d : Nat) : Char :=
  if d < 26 then Char.ofNat ('a'.toNat + d) else Char.ofNat ('0'.toNat + (d - 26))

def valueOf? (c : Char) : Option Nat :=
  if 'a' ≤ c && c ≤ 'z' then some (c.toNat - 'a'.toNat)
  else if 'A' ≤ c && c ≤ 'Z' then some (c.toNat - 'A'.toNat)
  else if '0' ≤ c && c ≤ '9' then some (c.toNat - '0'.toNat + 26)
  else none

/-- The least digit that ends a number at place `k`. -/
def threshold (k bias : Nat) : Nat := min 26 (max 1 (k - bias))

theorem threshold_pos (k bias : Nat) : 0 < threshold k bias := by
  simp only [threshold]
  omega

/-- The shift of thresholds that suits a next delta of the size of the last one. -/
def adapt (delta count : Nat) (first : Bool) : Nat :=
  let d := if first then delta / 700 else delta / 2
  go (d + d / count) 0
where
  go (d k : Nat) : Nat := if 455 < d then go (d / 35) (k + 36) else k + 36 * d / (d + 38)
  termination_by d
  decreasing_by omega

/-- A delta in digits of variable weight, least significant first. -/
def writeDelta (bias k q : Nat) : List Char :=
  let t := threshold k bias
  if q < t then [digitOf q]
  else digitOf (t + (q - t) % (36 - t))::writeDelta bias (k + 36) ((q - t) / (36 - t))
termination_by q
decreasing_by
  have hle := Nat.div_le_self (q - threshold k bias) (36 - threshold k bias)
  have hpos := threshold_pos k bias
  omega

structure Encoder where
  delta : Nat
  bias : Nat
  /-- How many code points are written. -/
  handled : Nat
  written : List Char

/-- Meets one code point of the text while those equal to `m` are being written. -/
def Encoder.meet (basic m : Nat) (e : Encoder) (n : Nat) : Encoder :=
  if n < m then { e with delta := e.delta + 1 }
  else if n = m then
    ⟨0,adapt e.delta (e.handled + 1) (e.handled = basic),e.handled + 1,
      e.written ++ writeDelta e.bias 36 e.delta⟩
  else e

/-- One pass over the text for each code point beyond ASCII, in ascending order; `next` is the
least code point that is not written yet. -/
def Encoder.passes (text : List Nat) (basic : Nat) : Nat → List Nat → Encoder → Encoder
  | _, [], e => e
  | next, m::ms, e =>
    let e := { e with delta := e.delta + (m - next) * (e.handled + 1) }
    let e := text.foldl (meet basic m) e
    passes text basic (m + 1) ms { e with delta := e.delta + 1 }

def insertOnce (n : Nat) : List Nat → List Nat
  | [] => [n]
  | m::ms => if n < m then n::m::ms else if n = m then m::ms else m::insertOnce n ms

def encode (text : List Nat) : List Char :=
  let basic := text.filter (· < 0x80)
  let others := (text.filter (0x80 ≤ ·)).foldl (fun ms n => insertOnce n ms) []
  let e := Encoder.passes text basic.length 0x80 others ⟨0,72,basic.length,[]⟩
  basic.map Char.ofNat ++ (if basic.isEmpty then [] else ['-']) ++ e.written

structure Decoder where
  /-- The code point that was inserted last, and how far the position has moved in all. -/
  next : Nat
  position : Nat
  bias : Nat
  /-- Value, weight and place of the delta that is being read; the place is 0 between deltas. -/
  value : Nat
  weight : Nat
  place : Nat
  text : List Nat

/-- Ends a delta: it says how far to move, around the text and then to the next code point. -/
def Decoder.finish? (d : Decoder) (value : Nat) : Option Decoder :=
  let count := d.text.length + 1
  let moved := d.position + value
  let n := d.next + moved / count
  let i := moved % count
  if 0x10ffff < n || (0xd800 ≤ n && n ≤ 0xdfff) then none
  else some ⟨n,i + 1,adapt value count (d.position = 0),0,1,0,
    d.text.take i ++ n::d.text.drop i⟩

def Decoder.read? (d : Decoder) (c : Char) : Option Decoder :=
  match valueOf? c with
  | none => none
  | some digit =>
    let place := d.place + 36
    let t := threshold place d.bias
    let value := d.value + digit * d.weight
    if digit < t then d.finish? value
    else some { d with value := value, weight := d.weight * (36 - t), place := place }

/-- What stands before the last hyphen, and what follows it. -/
def splitBasic (cs : List Char) : List Char × List Char :=
  match (cs.reverse.dropWhile (· != '-')) with
  | [] | ['-'] => ([],cs)
  | _::before => (before.reverse,(cs.reverse.takeWhile (· != '-')).reverse)

def decode? (cs : List Char) : Option (List Nat) := do
  let (basic,rest) := splitBasic cs
  let d ← rest.foldlM Decoder.read? ⟨0x80,0,72,0,1,0,basic.map Char.toNat⟩
  if d.place = 0 then some d.text else none

end PageTelemetry.Url.Punycode
