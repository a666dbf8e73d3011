import PageTelemetry.Text.Blank
import PageTelemetry.Url.Error

/-! IPv6 addresses: eight pieces of 16 bits, of which one run of zeros may be left out. -/
namespace PageTelemetry.Url.Ipv6

def piece? (cs : List Char) : Option Nat :=
  if cs.isEmpty || 4 < cs.length then none
  else (cs.mapM Text.hexValue?).map (Text.ofDigits 16)

/-- A decimal number up to 255 without a leading zero. -/
def byte? (cs : List Char) : Option Nat :=
  if cs.isEmpty || 3 < cs.length || !cs.all Char.isDigit || (1 < cs.length && cs.head? == some '0') then
    none
  else
    let n := Text.ofDecimal cs
    if 255 < n then none else some n

/-- The two pieces that an IPv4 address stands for. -/
def dotted? (cs : List Char) : Option (List Nat) :=
  match (Text.pieces (· == '.') cs).mapM byte? with
  | some [a,b,c,d] => some [256 * a + b,256 * c + d]
  | _ => none

/-- Pieces between colons; only the very last may be an IPv4 address. -/
def pieces? (mayEndDotted : Bool) : List (List Char) → Option (List Nat)
  | [] => some []
  | [last] =>
    if mayEndDotted && last.contains '.' then dotted? last else (piece? last).map ([·])
  | cs::rest => do
    let n ← piece? cs
    let ns ← pieces? mayEndDotted rest
    return n::ns

def side? (mayEndDotted : Bool) (cs : List Char) : Option (List Nat) :=
  if cs.isEmpty then some [] else pieces? mayEndDotted (Text.pieces (· == ':') cs)

/-- What stands before and after the first two colons in a row. -/
def splitGap : List Char → Option (List Char × List Char)
  | ':' :: ':' :: rest => some ([],rest)
  | c::rest => (splitGap rest).map fun (before,after) => (c::before,after)
  | [] => none

def parse? (cs : List Char) : Option (List Nat) :=
  match splitGap cs with
  | none => do
    let ns ← side? true cs
    if ns.length = 8 then some ns else none
  | some (before,after) => do
    let front ← side? false before
    let back ← side? true after
    if front.length + back.length ≤ 7 then
      some (front ++ List.replicate (8 - front.length - back.length) 0 ++ back)
    else none

def parse (cs : List Char) : Except Error (List Nat) :=
  match parse? cs with
  | some ns => .ok ns
  | none => .error .ipv6

def zerosFrom (ns : List Nat) : Nat := (ns.takeWhile (· == 0)).length

/-- Start and length of the first longest run of at least two zeros. -/
def gap? (ns : List Nat) : Option (Nat × Nat) :=
  (List.range ns.length).foldl (fun best i =>
    let n := zerosFrom (ns.drop i)
    if 2 ≤ n && (best.map Prod.snd).getD 1 < n then some (i,n) else best) none

def writePieces (ns : List Nat) : List Char :=
  (ns.map (Nat.toDigits 16)).intersperse [':'] |>.flatten

def write (ns : List Nat) : List Char :=
  match gap? ns with
  | none => writePieces ns
  | some (start,n) => writePieces (ns.take start) ++ ':' :: ':' :: writePieces (ns.drop (start + n))

end PageTelemetry.Url.Ipv6
