import PageTelemetry.Json.Number

/-! Writing JSON text, on one line or indented. Members are written in the order they are kept. -/
namespace PageTelemetry.Json

def escape (c : Char) : List Char :=
  if c = '"' then ['\\','"']
  else if c = '\\' then ['\\','\\']
  else if c = '\x08' then ['\\','b']
  else if c = '\x0c' then ['\\','f']
  else if c = '\n' then ['\\','n']
  else if c = '\r' then ['\\','r']
  else if c = '\t' then ['\\','t']
  else if c.toNat < 0x20 then
    ['\\','u','0','0',Text.hexDigit (c.toNat / 16),Text.hexDigit (c.toNat % 16)]
  else [c]

def quote (s : String) : List Char := '"'::(s.toList.flatMap escape ++ ['"'])

mutual

def write : Json → List Char
  | .null => "null".toList
  | .bool true => "true".toList
  | .bool false => "false".toList
  | .int i => Number.ofInt i
  | .double x => Number.ofDouble x
  | .string s => quote s
  | .array [] => ['[',']']
  | .array (v::vs) => '['::(write v ++ writeItems vs)
  | .object [] => ['\x7b','\x7d']
  | .object ((name,v)::ms) => '\x7b'::(quote name ++ ':'::(write v ++ writeMembers ms))

def writeItems : List Json → List Char
  | [] => [']']
  | v::vs => ','::(write v ++ writeItems vs)

def writeMembers : List (String × Json) → List Char
  | [] => ['\x7d']
  | (name,v)::ms => ','::(quote name ++ ':'::(write v ++ writeMembers ms))

end

def render (v : Json) : String := String.ofList (write v)

def indent (level : Nat) : List Char := '\n'::List.replicate (2 * level) ' '

mutual

/-- Each item and each member on a line of its own; an empty array or object stays on one line. -/
def writePretty (level : Nat) : Json → List Char
  | .array (v::vs) =>
    '['::(indent (level + 1) ++ writePretty (level + 1) v ++ writePrettyItems level vs)
  | .object ((name,v)::ms) =>
    '\x7b' :: (indent (level + 1) ++ quote name ++ ':' :: ' ' ::
      (writePretty (level + 1) v ++ writePrettyMembers level ms))
  | v => write v

def writePrettyItems (level : Nat) : List Json → List Char
  | [] => indent level ++ [']']
  | v::vs => ','::(indent (level + 1) ++ writePretty (level + 1) v ++ writePrettyItems level vs)

def writePrettyMembers (level : Nat) : List (String × Json) → List Char
  | [] => indent level ++ ['\x7d']
  | (name,v)::ms =>
    ',' :: (indent (level + 1) ++ quote name ++ ':' :: ' ' ::
      (writePretty (level + 1) v ++ writePrettyMembers level ms))

end

def renderPretty (v : Json) : String := String.ofList (writePretty 0 v)

end PageTelemetry.Json
