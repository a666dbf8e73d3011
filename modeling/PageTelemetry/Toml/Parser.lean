import PageTelemetry.Toml.Number
import PageTelemetry.Toml.DateTime
import PageTelemetry.Toml.Quoted
import PageTelemetry.Toml.Tree

/-! Reading TOML 1.0 documents. -/
namespace PageTelemetry.Toml

def isSpace (c : Char) : Bool := c == ' ' || c == '\t'

def skipSpace (cs : List Char) : List Char := cs.dropWhile isSpace

def isBareKeyChar (c : Char) : Bool := c.isAlphanum || c == '_' || c == '-'

/-- Arrays, inline tables and dotted keys nest to fewer levels than this. -/
def depthLimit : Nat := 80

/-- Drops a comment up to the end of its line. -/
def skipComment : List Char → Option (List Char)
  | '#'::rest =>
    match rest.dropWhile Quoted.isPlain with
    | [] => some []
    | '\n'::r => some ('\n'::r)
    | '\r' :: '\n' :: r => some ('\n' :: r)
    | _ => none
  | cs => some cs

/-- The rest after a line that holds nothing more than blanks and a comment. -/
def endLine (cs : List Char) : Option (List Char) := do
  match ← skipComment (skipSpace cs) with
  | [] => some []
  | '\n'::rest => some rest
  | '\r' :: '\n' :: rest => some rest
  | _ => none

def readSimpleKey (cs : List Char) : Option (String × List Char) :=
  match cs.takeWhile isBareKeyChar with
  | [] => (Quoted.readLine? cs).map fun (k,rest) => (String.ofList k,rest)
  | k => some (String.ofList k,cs.dropWhile isBareKeyChar)

/-- Keys with points between them, blanks around each. -/
def readKeys : Nat → List Char → Option (List String × List Char)
  | 0, _ => none
  | fuel + 1, cs => do
    let (key,rest) ← readSimpleKey (skipSpace cs)
    match skipSpace rest with
    | '.'::rest => (readKeys fuel rest).map fun (keys,r) => (key::keys,r)
    | rest => some ([key],rest)

/-- A dotted key as the path in front and the last key. -/
def readKey (cs : List Char) : Option (List String × String × List Char) := do
  let (keys,rest) ← readKeys (depthLimit - 1) cs
  let last ← keys.getLast?
  return (keys.dropLast,last,rest)

/-- Drops blanks, line ends and comments, as between the items of an array. -/
def skipLines : Nat → List Char → Option (List Char)
  | 0, cs => some cs
  | fuel + 1, cs =>
    match skipSpace cs with
    | '\n'::rest => skipLines fuel rest
    | '\r' :: '\n' :: rest => skipLines fuel rest
    | '#'::rest => (skipComment ('#'::rest)).bind (skipLines fuel)
    | rest => some rest

mutual

def readValue : Nat → Nat → List Char → Option (Toml × List Char)
  | 0, _, _ => none
  | fuel + 1, depth, cs =>
    match cs with
    | '"'::_ | '\''::_ => (Quoted.read? cs).map fun (s,r) => (.string (String.ofList s),r)
    | 't' :: 'r' :: 'u' :: 'e' :: rest => some (.boolean true,rest)
    | 'f' :: 'a' :: 'l' :: 's' :: 'e' :: rest => some (.boolean false,rest)
    | '['::rest =>
      if depth = 0 then none
      else (readItems fuel (depth - 1) rest).map fun (items,r) => (.array items,r)
    | '\x7b'::rest =>
      if depth = 0 then none
      else match skipSpace rest with
        | '\x7d'::r => some (.table [],r)
        | rest =>
          (readInline fuel (depth - 1) [] rest).map fun (nodes,r) => (.table (nodesToToml nodes),r)
    | _ => (DateTime.read cs).orElse fun _ => Number.read cs

/-- The items of an array up to its closing bracket; a comma may stand behind the last. -/
def readItems : Nat → Nat → List Char → Option (List Toml × List Char)
  | 0, _, _ => none
  | fuel + 1, depth, cs => do
    match ← skipLines (cs.length + 1) cs with
    | ']'::rest => some ([],rest)
    | cs => do
      let (v,rest) ← readValue fuel depth cs
      match ← skipLines (rest.length + 1) rest with
      | ','::rest => (readItems fuel depth rest).map fun (vs,r) => (v::vs,r)
      | ']'::rest => some ([v],rest)
      | _ => none

/-- The entries of an inline table up to its closing brace, all on one line. -/
def readInline : Nat → Nat → Nodes → List Char → Option (Nodes × List Char)
  | 0, _, _, _ => none
  | fuel + 1, depth, nodes, cs => do
    let (path,key,rest) ← readKey cs
    match rest with
    | '='::rest => do
      let (v,rest) ← readValue fuel depth (skipSpace rest)
      let nodes ← nodes.addDotted? path key v .header
      match skipSpace rest with
      | ','::rest => readInline fuel depth nodes rest
      | '\x7d'::rest => some (nodes,rest)
      | _ => none
    | _ => none

end

/-- A document up to some line: what it holds, and the path of the table that is open. -/
structure Document where
  nodes : Nodes
  path : List String

def Document.empty : Document := ⟨[],[]⟩

/-- Sets the key and value of one line in the open table. -/
def Document.set? (d : Document) (path : List String) (key : String) (v : Toml) : Option Document := do
  let nodes ← d.nodes.descend? false (fun origin inner => inner.addDotted? path key v origin)
    d.path .header
  return { d with nodes := nodes }

def Document.readLine (d : Document) (cs : List Char) : Option (Document × List Char) :=
  match cs with
  | '[' :: '[' :: rest => do
    let (path,key,rest) ← readKey rest
    match rest with
    | ']' :: ']' :: rest =>
      return (⟨← d.nodes.openNext? path key,path ++ [key]⟩,← endLine rest)
    | _ => none
  | '['::rest => do
    let (path,key,rest) ← readKey rest
    match rest with
    | ']'::rest => return (⟨← d.nodes.open? path key,path ++ [key]⟩,← endLine rest)
    | _ => none
  | cs => do
    let (path,key,rest) ← readKey cs
    match rest with
    | '='::rest => do
      let (v,rest) ← readValue (2 * rest.length + 2) (depthLimit - 1) (skipSpace rest)
      return (← d.set? path key v,← endLine rest)
    | _ => none

def readLines : Nat → Document → List Char → Option Document
  | 0, d, _ => some d
  | fuel + 1, d, cs =>
    match skipSpace cs with
    | [] => some d
    | '\n'::rest => readLines fuel d rest
    | '\r' :: '\n' :: rest => readLines fuel d rest
    | '#'::rest => (skipComment ('#'::rest)).bind (readLines fuel d)
    | cs => (d.readLine cs).bind fun (d,rest) => readLines fuel d rest

/-- The root table of a document, which may begin with a byte order mark. -/
def parse? (text : String) : Option Entries :=
  let cs := match text.toList with
    | '\ufeff'::rest => rest
    | cs => cs
  (readLines (cs.length + 1) .empty cs).map fun d => nodesToToml d.nodes

end PageTelemetry.Toml
