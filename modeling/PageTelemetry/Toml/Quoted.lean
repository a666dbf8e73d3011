import PageTelemetry.Text.Blank

/-! TOML strings: basic and literal, on one line or on several. -/
namespace PageTelemetry.Toml.Quoted

/-- Characters that may stand in a comment or a string: no control characters but the tab. -/
def isPlain (c : Char) : Bool := c == '\t' || (0x20 ≤ c.toNat && c.toNat != 0x7f)

def escape? : Char → Option Char
  | 'b' => some '\x08'
  | 't' => some '\t'
  | 'n' => some '\n'
  | 'f' => some '\x0c'
  | 'r' => some '\r'
  | '"' => some '"'
  | '\\' => some '\\'
  | _ => none

/-- The character with a code point in hexadecimal; a surrogate is none. -/
def scalar? (ds : List Char) : Option Char := do
  let n := Text.ofDigits 16 (← ds.mapM Text.hexValue?)
  if n < 0xd800 ∨ (0xdfff < n ∧ n ≤ 0x10ffff) then some (Char.ofNat n) else none

/-- The character of an escape sequence from behind its backslash. -/
def readEscape : List Char → Option (Char × List Char)
  | 'u'::a::b::c::d::rest => (scalar? [a,b,c,d]).map (·,rest)
  | 'U'::a::b::c::d::e::f::g::h::rest =>
    (scalar? [a,b,c,d,e,f,g,h]).map (·,rest)
  | c::rest => (escape? c).map (·,rest)
  | [] => none

/-- A basic string from behind its opening quote. -/
def readBasic : Nat → List Char → Option (List Char × List Char)
  | 0, _ => none
  | fuel + 1, cs =>
    match cs with
    | [] => none
    | '"'::rest => some ([],rest)
    | '\\'::rest => do
      let (x,rest) ← readEscape rest
      (readBasic fuel rest).map fun (cs,r) => (x::cs,r)
    | c::rest => if isPlain c then (readBasic fuel rest).map fun (cs,r) => (c::cs,r) else none

def readLiteral : List Char → Option (List Char × List Char)
  | [] => none
  | '\''::rest => some ([],rest)
  | c::rest => if isPlain c then (readLiteral rest).map fun (cs,r) => (c::cs,r) else none

/-- Drops blanks and line ends. -/
def skipBlankLines : List Char → List Char
  | '\n'::rest => skipBlankLines rest
  | '\r' :: '\n' :: rest => skipBlankLines rest
  | ' '::rest => skipBlankLines rest
  | '\t'::rest => skipBlankLines rest
  | cs => cs

/-- What follows a backslash at the end of a line: the line end and all blanks behind it do not
count. -/
def foldLine? (cs : List Char) : Option (List Char) :=
  match cs.dropWhile (fun c => c == ' ' || c == '\t') with
  | '\n'::rest => some (skipBlankLines rest)
  | '\r' :: '\n' :: rest => some (skipBlankLines rest)
  | _ => none

/-- A basic string of several lines, from behind its opening quotes. Up to two quotes may stand
directly before the closing ones. -/
def readLongBasic : Nat → List Char → Option (List Char × List Char)
  | 0, _ => none
  | fuel + 1, cs =>
    match cs with
    | [] => none
    | '\r' :: '\n' :: rest => (readLongBasic fuel rest).map fun (cs,r) => ('\n' :: cs,r)
    | '"' :: '"' :: '"' :: '"' :: '"' :: rest => some (['"','"'],rest)
    | '"' :: '"' :: '"' :: '"' :: rest => some (['"'],rest)
    | '"' :: '"' :: '"' :: rest => some ([],rest)
    | '\\'::rest =>
      match foldLine? rest with
      | some rest => readLongBasic fuel rest
      | none => do
        let (x,rest) ← readEscape rest
        (readLongBasic fuel rest).map fun (cs,r) => (x::cs,r)
    | c::rest =>
      if c = '\n' ∨ isPlain c then (readLongBasic fuel rest).map fun (cs,r) => (c::cs,r) else none

def readLongLiteral : List Char → Option (List Char × List Char)
  | [] => none
  | '\r' :: '\n' :: rest => (readLongLiteral rest).map fun (cs,r) => ('\n' :: cs,r)
  | '\'' :: '\'' :: '\'' :: '\'' :: '\'' :: rest => some (['\'','\''],rest)
  | '\'' :: '\'' :: '\'' :: '\'' :: rest => some (['\''],rest)
  | '\'' :: '\'' :: '\'' :: rest => some ([],rest)
  | c::rest =>
    if c = '\n' ∨ isPlain c then (readLongLiteral rest).map fun (cs,r) => (c::cs,r) else none

/-- A line end directly behind the opening quotes does not count. -/
def dropLineEnd : List Char → List Char
  | '\n' :: rest | '\r' :: '\n' :: rest => rest
  | cs => cs

/-- A string of one line, as a key may be. -/
def readLine? : List Char → Option (List Char × List Char)
  | '"'::rest => readBasic (rest.length + 1) rest
  | '\''::rest => readLiteral rest
  | _ => none

def read? : List Char → Option (List Char × List Char)
  | '"' :: '"' :: '"' :: rest => readLongBasic (rest.length + 1) (dropLineEnd rest)
  | '\'' :: '\'' :: '\'' :: rest => readLongLiteral (dropLineEnd rest)
  | cs => readLine? cs

end PageTelemetry.Toml.Quoted
