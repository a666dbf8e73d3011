import PageTelemetry.Url

/-! Query pairs, form-encoded: reading the pairs of a query and appending one. -/
namespace PageTelemetry.Url

namespace Form

def isLiteral (c : Char) : Bool :=
  c.isAlphanum || c == '*' || c == '-' || c == '.' || c == '_'

def encodeChar (c : Char) : List Char :=
  if c = ' ' then ['+'] else Percent.encodeChar (fun c => !isLiteral c) c

def encode (cs : List Char) : List Char := cs.flatMap encodeChar

/-- Plus signs are blanks, percent-encoded bytes are read as UTF-8. -/
def decode (cs : List Char) : List Char :=
  Text.Utf8.decodeLossy (Percent.decode (cs.map fun c => if c = '+' then ' ' else c))

def decodePair (cs : List Char) : List Char × List Char :=
  let (name,value) := Text.cut (· == '=') cs
  (decode name,decode value)

/-- The pairs of a query; empty pieces between ampersands are none. -/
def pairs (query : List Char) : List (List Char × List Char) :=
  ((Text.pieces (· == '&') query).filter (!·.isEmpty)).map decodePair

def encodePair (name value : List Char) : List Char := encode name ++ '='::encode value

end Form

/-- The decoded pairs of the query. -/
def queryPairs (u : Url) : List (List Char × List Char) :=
  match u.query with
  | none => []
  | some q => Form.pairs q

/-- Adds a pair behind the query as it stands. -/
def appendPair (u : Url) (name value : List Char) : Url :=
  let pair := Form.encodePair name value
  match u.query with
  | none | some [] => { u with query := some pair }
  | some q => { u with query := some (q ++ '&'::pair) }

end PageTelemetry.Url
