import PageTelemetry.Unicode.Mapping
import PageTelemetry.Unicode.Normal
import PageTelemetry.Unicode.Label
import PageTelemetry.Url.Punycode

/-! Domain names in ASCII: mapping, normal form, the rules for labels, and Punycode. -/
namespace PageTelemetry.Url.Domain
open Unicode

/-- Maps every code point, or refuses the name. -/
def mapAll? : List Nat → Option (List Nat)
  | [] => some []
  | n::rest =>
    match mapping n with
    | .refused => none
    | .stays => (mapAll? rest).map (n::·)
    | .replaced ns => (mapAll? rest).map (ns ++ ·)

def virama : Nat := 9

/-- A joiner after a virama, or the one that separates between letters that would join. -/
def joinerAllowed (before after : List Nat) (n : Nat) : Bool :=
  (match before with
    | [] => false
    | m::_ => combiningClass m == virama) ||
  n == 0x200c &&
    (match before.dropWhile (fun m => joining m == .transparent) with
      | [] => false
      | m::_ => joining m == .left || joining m == .dual) &&
    (match after.dropWhile (fun m => joining m == .transparent) with
      | [] => false
      | m::_ => joining m == .right || joining m == .dual)

def joinersAllowed (before : List Nat) : List Nat → Bool
  | [] => true
  | n::rest =>
    ((n != 0x200c && n != 0x200d) || joinerAllowed before rest n) && joinersAllowed (n::before) rest

def isRightToLeft (n : Nat) : Bool :=
  match direction n with
  | .right | .arabicLetter | .arabicNumber => true
  | _ => false

/-- The direction of the last code point that is no nonspacing mark. -/
def lastDirection? (ns : List Nat) : Option Direction :=
  ((ns.map direction).reverse.dropWhile (· == .nonspacing)).head?

/-- The rule for labels of names in which something runs from right to left. -/
def directionsAllowed (ns : List Nat) : Bool :=
  let ds := ns.map direction
  match ds with
  | [] => true
  | .left::_ =>
    ds.all (fun d => d != .right && d != .arabicLetter && d != .arabicNumber && d != .other) &&
      (lastDirection? ns == some .left || lastDirection? ns == some .europeanNumber)
  | .right::_ | .arabicLetter::_ =>
    ds.all (fun d => d != .left && d != .other) &&
      (match lastDirection? ns with
        | some .right | some .arabicLetter | some .europeanNumber | some .arabicNumber => true
        | _ => false) &&
      !(ds.contains .europeanNumber && ds.contains .arabicNumber)
  | _ => false

def hyphens : List Nat := ['x','n','-','-'].map Char.toNat

/-- A label as its code points, Punycode undone; none if it is malformed. -/
def label? (ns : List Nat) : Option (List Nat) :=
  if hyphens.isPrefixOf ns then
    let rest := ns.drop 4
    if rest.any (0x80 ≤ ·) then none
    else match Punycode.decode? (rest.map Char.ofNat) with
      | none => none
      | some decoded =>
        if decoded.all (· < 0x80) || normalize decoded != decoded || hyphens.isPrefixOf decoded then none
        else some decoded
  else some ns

def labelAllowed (ns : List Nat) : Bool :=
  (match ns with
    | [] => true
    | n::_ => !isMark n) &&
  ns.all (fun n => mapping n == .stays && n != '.'.toNat) && joinersAllowed [] ns

def writeLabel (ns : List Nat) : List Char :=
  if ns.all (· < 0x80) then ns.map Char.ofNat
  else ['x','n','-','-'] ++ Punycode.encode ns

def splitLabels : List Nat → List (List Nat)
  | [] => [[]]
  | n::rest =>
    if n = '.'.toNat then []::splitLabels rest
    else match splitLabels rest with
      | [] => [[n]]
      | first::others => (n::first)::others

/-- A name that is all ASCII and has no encoded label only changes its case. -/
def isPlain (cs : List Char) : Bool :=
  cs.all (fun c => c.toNat < 0x80) &&
    (Text.pieces (· == '.') (cs.map Char.toLower)).all
      (fun label => !(['x','n','-','-'].isPrefixOf label))

def toAscii? (cs : List Char) : Option (List Char) :=
  if isPlain cs then some (cs.map Char.toLower)
  else do
    let mapped ← mapAll? (cs.map Char.toNat)
    let labels ← (splitLabels (normalize mapped)).mapM label?
    if labels.all labelAllowed &&
        (!labels.any (·.any isRightToLeft) || labels.all directionsAllowed) then
      some (((labels.map writeLabel).intersperse ['.']).flatten)
    else none

end PageTelemetry.Url.Domain
