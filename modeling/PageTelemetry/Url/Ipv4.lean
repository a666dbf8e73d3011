import PageTelemetry.Text.Blank
import PageTelemetry.Url.Error

/-! IPv4 addresses in host names: up to four numbers, each decimal, octal or hexadecimal. -/
namespace PageTelemetry.Url.Ipv4

def digitBelow? (base : Nat) (c : Char) : Option Nat :=
  match Text.hexValue? c with
  | some d => if d < base then some d else none
  | none => none

def digits? (base : Nat) (cs : List Char) : Option Nat :=
  (cs.mapM (digitBelow? base)).map (Text.ofDigits base)

/-- A number after `0x` is hexadecimal, one with a leading zero is octal. -/
def number? : List Char → Option Nat
  | [] => none
  | '0' :: 'x' :: rest | '0' :: 'X' :: rest => digits? 16 rest
  | ['0'] => some 0
  | '0'::rest => digits? 8 rest
  | cs => digits? 10 cs

/-- The parts between points; an empty part at the end does not count unless it is all there is. -/
def parts (cs : List Char) : List (List Char) :=
  let ps := Text.pieces (· == '.') cs
  if 1 < ps.length && ps.getLast? == some [] then ps.dropLast else ps

/-- Whether a host has to be read as an IPv4 address: its last part is a number. -/
def endsInNumber (cs : List Char) : Bool :=
  let ps := Text.pieces (· == '.') cs
  if ps == [[]] then false
  else match (parts cs).getLast? with
    | none => false
    | some last => (!last.isEmpty && last.all Char.isDigit) || (number? last).isSome

/-- All parts but the last are one byte each; the last one fills the remaining bytes. -/
def ofNumbers? (ns : List Nat) : Option Nat :=
  match ns.reverse with
  | [] => none
  | last::front =>
    if front.any (255 < ·) then none
    else if 1 <<< (8 * (5 - ns.length)) ≤ last then none
    else
      let bytes := front.reverse
      some (last + Text.ofDigits 256 bytes <<< (8 * (4 - bytes.length)))

def parse (cs : List Char) : Except Error Nat :=
  let ps := parts cs
  if 4 < ps.length then .error .ipv4
  else match (ps.mapM number?).bind ofNumbers? with
    | some n => .ok n
    | none => .error .ipv4

def write (n : Nat) : List Char :=
  let byte (i : Nat) := Nat.toDigits 10 ((n >>> (8 * i)) % 256)
  byte 3 ++ '.'::(byte 2 ++ '.'::(byte 1 ++ '.'::byte 0))

end PageTelemetry.Url.Ipv4
