import PageTelemetry.Text.Blank

/-! Properties of code points as runs in ascending order, read from a compact text.

A word of the text, between blanks, is the gap since the previous run, a capital letter for the kind, the length of
the run and arguments behind commas. Numbers are in base 36; a missing gap is 0 and a missing
length 1. -/
namespace PageTelemetry.Unicode

structure Run where
  first : Nat
  last : Nat
  kind : Char
  args : List Nat
  deriving Repr, Inhabited

def base36 (cs : List Char) : Nat :=
  Text.ofDigits 36 (cs.map fun c => if c.isDigit then c.toNat - '0'.toNat else c.toNat - 'a'.toNat + 10)

/-- The run that a word describes when the previous run ends just below `start`. -/
def Run.ofWord (start : Nat) (word : List Char) : Option Run :=
  match word.dropWhile (fun c => !c.isUpper) with
  | [] => none
  | kind::rest =>
    let first := start + base36 (word.takeWhile fun c => !c.isUpper)
    match Text.pieces (· == ',') rest with
    | [] => none
    | length::args =>
      let n := if length.isEmpty then 1 else base36 length
      some ⟨first,first + n - 1,kind,args.map base36⟩

abbrev Table := Array Run

def Table.ofWords : Nat → List (List Char) → Table → Table
  | _, [], runs => runs
  | start, word::words, runs =>
    match Run.ofWord start word with
    | none => ofWords start words runs
    | some run => ofWords (run.last + 1) words (runs.push run)

def Table.ofText (text : String) : Table :=
  Table.ofWords 0 (Text.pieces Char.isWhitespace text.toList) #[]

/-- Halves the part of the table from `low` up to but not including `high`. -/
def Table.search (t : Table) (n : Nat) : Nat → Nat → Nat → Option Run
  | 0, _, _ => none
  | tries + 1, low, high =>
    if high ≤ low then none
    else
      let middle := (low + high) / 2
      match t[middle]? with
      | none => none
      | some run =>
        if n < run.first then t.search n tries low middle
        else if run.last < n then t.search n tries (middle + 1) high
        else some run

/-- The run that holds a code point. -/
def Table.find? (t : Table) (n : Nat) : Option Run := t.search n (t.size.log2 + 2) 0 t.size

end PageTelemetry.Unicode
