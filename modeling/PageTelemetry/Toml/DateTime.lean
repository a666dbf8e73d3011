import PageTelemetry.Toml
import PageTelemetry.Text.Blank

/-! TOML dates and times, each read into the one text that stands for it. -/
namespace PageTelemetry.Toml.DateTime

/-- A number of exactly `count` digits. -/
def fixed? (count : Nat) (cs : List Char) : Option (Nat × List Char) :=
  let ds := cs.take count
  if ds.length = count && ds.all Char.isDigit then some (Text.ofDecimal ds,cs.drop count) else none

def expect? (c : Char) : List Char → Option (List Char)
  | d::rest => if c = d then some rest else none
  | [] => none

def pad (width n : Nat) : List Char :=
  let ds := Nat.toDigits 10 n
  List.replicate (width - ds.length) '0' ++ ds

def isLeapYear (y : Nat) : Bool := y % 4 == 0 && (y % 100 != 0 || y % 400 == 0)

def daysIn (year month : Nat) : Nat :=
  if month = 2 then if isLeapYear year then 29 else 28
  else if month = 4 ∨ month = 6 ∨ month = 9 ∨ month = 11 then 30
  else 31

def readDate (cs : List Char) : Option (List Char × List Char) := do
  let (year,cs) ← fixed? 4 cs
  let cs ← expect? '-' cs
  let (month,cs) ← fixed? 2 cs
  let cs ← expect? '-' cs
  let (day,cs) ← fixed? 2 cs
  if 1 ≤ month ∧ month ≤ 12 ∧ 1 ≤ day ∧ day ≤ daysIn year month then
    return (pad 4 year ++ '-'::(pad 2 month ++ '-'::pad 2 day),cs)
  else none

/-- Nine digits of a fraction count, and zeros at the end are not written. -/
def readFraction : List Char → Option (List Char × List Char)
  | '.'::rest =>
    match rest.takeWhile Char.isDigit with
    | [] => none
    | ds =>
      let shown := Text.stripEnd (· == '0') (ds.take 9)
      some (if shown.isEmpty then [] else '.'::shown,rest.dropWhile Char.isDigit)
  | cs => some ([],cs)

def readTime (cs : List Char) : Option (List Char × List Char) := do
  let (hour,cs) ← fixed? 2 cs
  let cs ← expect? ':' cs
  let (minute,cs) ← fixed? 2 cs
  let cs ← expect? ':' cs
  let (second,cs) ← fixed? 2 cs
  let (fraction,cs) ← readFraction cs
  if hour ≤ 23 ∧ minute ≤ 59 ∧ second ≤ 60 then
    return (pad 2 hour ++ ':'::(pad 2 minute ++ ':'::(pad 2 second ++ fraction)),cs)
  else none

/-- `Z`, or a sign, hours and minutes; no offset is written with a plus sign. -/
def readOffset : List Char → Option (List Char × List Char)
  | 'Z'::rest | 'z'::rest => some (['Z'],rest)
  | sign::cs =>
    if sign = '+' ∨ sign = '-' then do
      let (hour,cs) ← fixed? 2 cs
      let cs ← expect? ':' cs
      let (minute,cs) ← fixed? 2 cs
      if hour ≤ 23 ∧ minute ≤ 59 then
        let shown := if hour = 0 ∧ minute = 0 then '+' else sign
        return (shown::(pad 2 hour ++ ':'::pad 2 minute),cs)
      else none
    else some ([],sign::cs)
  | [] => some ([],[])

/-- A date, a time, or both with a letter or a blank between them and perhaps an offset. -/
def read (cs : List Char) : Option (Toml × List Char) :=
  match readDate cs with
  | some (date,rest) =>
    let both := match rest with
      | c::next =>
        if c = 'T' ∨ c = 't' ∨ c = ' ' then do
          let (time,next) ← readTime next
          let (offset,next) ← readOffset next
          return (date ++ 'T'::(time ++ offset),next)
        else none
      | [] => none
    match both with
    | some (text,next) => some (.datetime (String.ofList text),next)
    | none => some (.datetime (String.ofList date),rest)
  | none => (readTime cs).map fun (time,rest) => (.datetime (String.ofList time),rest)

end PageTelemetry.Toml.DateTime
