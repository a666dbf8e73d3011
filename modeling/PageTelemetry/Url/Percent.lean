import PageTelemetry.Text.Blank
import PageTelemetry.Text.Utf8

/-! Percent-encoding, and the sets of characters that each part of a URL encodes. -/
namespace PageTelemetry.Url.Percent

/-- Control characters and everything beyond ASCII. -/
def isControl (c : Char) : Bool := c.toNat ≤ 0x1f || 0x7e < c.toNat

def inFragment (c : Char) : Bool :=
  isControl c || c == ' ' || c == '"' || c == '<' || c == '>' || c == '`'

def inQuery (c : Char) : Bool :=
  isControl c || c == ' ' || c == '"' || c == '#' || c == '<' || c == '>'

def inSpecialQuery (c : Char) : Bool := inQuery c || c == '\''

def inPath (c : Char) : Bool := inQuery c || c == '?' || c == '`' || c == '\x7b' || c == '\x7d'

def inUserinfo (c : Char) : Bool :=
  inPath c || c == '/' || c == ':' || c == ';' || c == '=' || c == '@' || c == '[' || c == '\\' ||
    c == ']' || c == '^' || c == '|'

def encodeByte (b : UInt8) : List Char :=
  ['%',Text.upperHexDigit (b.toNat / 16),Text.upperHexDigit (b.toNat % 16)]

def encodeChar (encoded : Char → Bool) (c : Char) : List Char :=
  if encoded c then (String.utf8EncodeChar c).flatMap encodeByte else [c]

def encode (encoded : Char → Bool) (cs : List Char) : List Char := cs.flatMap (encodeChar encoded)

/-- The bytes of a text in which `%` and two hexadecimal digits stand for one byte. -/
def decode : List Char → List UInt8
  | [] => []
  | '%'::a::b::rest =>
    match Text.hexValue? a, Text.hexValue? b with
    | some x, some y => UInt8.ofNat (16 * x + y)::decode rest
    | _, _ => UInt8.ofNat '%'.toNat::decode (a::b::rest)
  | c::rest => String.utf8EncodeChar c ++ decode rest

end PageTelemetry.Url.Percent
