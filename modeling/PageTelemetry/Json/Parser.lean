import PageTelemetry.Json.Number

/-! Reading JSON text strictly as RFC 8259 has it, objects with the last value of each name. -/
namespace PageTelemetry.Json

def isSpace (c : Char) : Bool := c == ' ' || c == '\t' || c == '\n' || c == '\r'

def skipSpace (cs : List Char) : List Char := cs.dropWhile isSpace

def hexQuad? (a b c d : Char) : Option Nat := do
  let ds ← [a,b,c,d].mapM Text.hexValue?
  return Text.ofDigits 16 ds

def unescape? : Char → Option Char
  | '"' => some '"'
  | '\\' => some '\\'
  | '/' => some '/'
  | 'b' => some '\x08'
  | 'f' => some '\x0c'
  | 'n' => some '\n'
  | 'r' => some '\r'
  | 't' => some '\t'
  | _ => none

def isHighSurrogate (n : Nat) : Bool := 0xd800 ≤ n && n ≤ 0xdbff
def isLowSurrogate (n : Nat) : Bool := 0xdc00 ≤ n && n ≤ 0xdfff

/-- A string from behind its opening quote, and what follows its closing quote. A surrogate has to
be one half of a pair. -/
def readString : List Char → Option (List Char × List Char)
  | [] => none
  | '"'::rest => some ([],rest)
  | '\\' :: 'u' :: a :: b :: c :: d :: rest =>
    match hexQuad? a b c d with
    | none => none
    | some n =>
      if isHighSurrogate n then
        match rest with
        | '\\' :: 'u' :: e :: f :: g :: h :: rest =>
          match hexQuad? e f g h with
          | none => none
          | some m =>
            if isLowSurrogate m then
              (readString rest).map fun (cs,r) =>
                (Char.ofNat (0x10000 + (n - 0xd800) * 0x400 + (m - 0xdc00))::cs,r)
            else none
        | _ => none
      else if isLowSurrogate n then none
      else (readString rest).map fun (cs,r) => (Char.ofNat n::cs,r)
  | '\\'::e::rest =>
    match unescape? e with
    | none => none
    | some c => (readString rest).map fun (cs,r) => (c::cs,r)
  | c::rest =>
    if c.toNat < 0x20 ∨ c = '\\' then none
    else (readString rest).map fun (cs,r) => (c::cs,r)

/-- How deep arrays and objects may be nested. -/
def greatestDepth : Nat := 127

mutual

def readValue : Nat → Nat → List Char → Option (Json × List Char)
  | 0, _, _ => none
  | fuel + 1, depth, cs =>
    match skipSpace cs with
    | 'n' :: 'u' :: 'l' :: 'l' :: rest => some (.null,rest)
    | 't' :: 'r' :: 'u' :: 'e' :: rest => some (.bool true,rest)
    | 'f' :: 'a' :: 'l' :: 's' :: 'e' :: rest => some (.bool false,rest)
    | '"'::rest => (readString rest).map fun (s,r) => (.string (String.ofList s),r)
    | '['::rest =>
      if depth = 0 then none
      else match skipSpace rest with
        | ']'::rest => some (.array [],rest)
        | rest => (readItems fuel (depth - 1) rest).map fun (items,r) => (.array items,r)
    | '\x7b'::rest =>
      if depth = 0 then none
      else match skipSpace rest with
        | '\x7d'::rest => some (.object [],rest)
        | rest => (readMembers fuel (depth - 1) [] rest).map fun (ms,r) => (.object ms,r)
    | rest => Number.read rest

def readItems : Nat → Nat → List Char → Option (List Json × List Char)
  | 0, _, _ => none
  | fuel + 1, depth, cs =>
    match readValue fuel depth cs with
    | none => none
    | some (v,rest) =>
      match skipSpace rest with
      | ','::rest => (readItems fuel depth rest).map fun (vs,r) => (v::vs,r)
      | ']'::rest => some ([v],rest)
      | _ => none

def readMembers : Nat → Nat → Members → List Char → Option (Members × List Char)
  | 0, _, _, _ => none
  | fuel + 1, depth, ms, cs =>
    match skipSpace cs with
    | '"'::rest =>
      match readString rest with
      | none => none
      | some (name,rest) =>
        match skipSpace rest with
        | ':'::rest =>
          match readValue fuel depth rest with
          | none => none
          | some (v,rest) =>
            let ms := Members.insert (String.ofList name) v ms
            match skipSpace rest with
            | ','::rest => readMembers fuel depth ms rest
            | '\x7d'::rest => some (ms,rest)
            | _ => none
        | _ => none
    | _ => none

end

/-- The value of a text that holds one value and nothing else but space. -/
def parseChars? (cs : List Char) : Option Json :=
  match readValue (2 * cs.length + 2) greatestDepth cs with
  | some (v,rest) => if (skipSpace rest).isEmpty then some v else none
  | none => none

def parse? (text : String) : Option Json := parseChars? text.toList

end PageTelemetry.Json
