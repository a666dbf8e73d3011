import PageTelemetry.Url

/-! Reading a URL, alone or against a base. The text is cut into fragment, query, scheme, authority
and path from the outside in; each part is then read on its own. -/
namespace PageTelemetry.Url

/-- Surrounding blanks and control characters do not count, nor do tabs and line ends inside. -/
def cleaned (cs : List Char) : List Char :=
  (Text.strip (fun c => c.toNat ≤ 0x20) cs).filter fun c => c != '\t' && c != '\n' && c != '\r'

/-- A text with its query and fragment cut off. -/
structure Reference where
  front : List Char
  query : Option (List Char)
  fragment : Option (List Char)

def Reference.ofChars (cs : List Char) : Reference :=
  let (rest,fragment) := match Text.cut? (· == '#') cs with
    | none => (cs,none)
    | some (rest,f) => (rest,some f)
  match Text.cut? (· == '?') rest with
  | none => ⟨rest,none,fragment⟩
  | some (front,q) => ⟨front,some q,fragment⟩

def isSchemeChar (c : Char) : Bool := c.isAlphanum || c == '+' || c == '-' || c == '.'

/-- The scheme in lower case and what follows its colon. -/
def splitScheme (cs : List Char) : Option (List Char × List Char) :=
  match cs with
  | [] => none
  | c::_ =>
    if c.isAlpha then
      match cs.dropWhile isSchemeChar with
      | ':'::rest => some ((cs.takeWhile isSchemeChar).map Char.toLower,rest)
      | _ => none
    else none

def isSlash (special : Bool) (c : Char) : Bool := c == '/' || special && c == '\\'

def startsWithSlash (special : Bool) : List Char → Bool
  | c::_ => isSlash special c
  | [] => false

/-- The segments of a path up to here, without the last one. A drive letter at the front of a file
path stays. -/
def shorten (file : Bool) (ss : List (List Char)) : List (List Char) :=
  match file, ss with
  | true, [[c,':']] => if c.isAlpha then ss else []
  | _, _ => ss.dropLast

def isDriveLetter : List Char → Bool
  | [c,d] => c.isAlpha && (d == ':' || d == '|')
  | _ => false

def isNormalDriveLetter : List Char → Bool
  | [c,':'] => c.isAlpha
  | _ => false

def startsWithDriveLetter : List Char → Bool
  | [c,d] => isDriveLetter [c,d]
  | c::d::e::_ => isDriveLetter [c,d] && (e == '/' || e == '\\')
  | _ => false

/-- A dot may be percent-encoded. -/
def dots : List Char → List Char
  | [] => []
  | '%' :: '2' :: 'e' :: rest | '%' :: '2' :: 'E' :: rest => '.' :: dots rest
  | c::rest => c::dots rest

def isSingleDot (cs : List Char) : Bool := dots cs == ['.']
def isDoubleDot (cs : List Char) : Bool := dots cs == ['.','.']

/-- Adds the pieces between slashes to the segments; dots in the place of the last segment leave an
empty one. -/
def addSegments (file : Bool) (ss : List (List Char)) : List (List Char) → List (List Char)
  | [] => ss
  | piece::rest =>
    if isDoubleDot piece then
      let ss := shorten file ss
      addSegments file (if rest.isEmpty then ss ++ [[]] else ss) rest
    else if isSingleDot piece then addSegments file (if rest.isEmpty then ss ++ [[]] else ss) rest
    else
      let segment := match file, ss, piece with
        | true, [], [c,'|'] => if c.isAlpha then [c,':'] else Percent.encode Percent.inPath piece
        | _, _, _ => Percent.encode Percent.inPath piece
      addSegments file (ss ++ [segment]) rest

/-- Reads a path behind the segments that a base gives it. One slash in front only begins it. -/
def readPath (scheme : List Char) (ss : List (List Char)) (cs : List Char) : Path :=
  let special := isSpecialScheme scheme
  let body := match cs with
    | c::rest => if isSlash special c then rest else cs
    | [] => []
  if cs.isEmpty && !special then .segments ss
  else .segments (addSegments (isFileScheme scheme) ss (Text.pieces (isSlash special) body))

def readQuery (scheme : List Char) (query : Option (List Char)) : Option (List Char) :=
  query.map (Percent.encode (if isSpecialScheme scheme then Percent.inSpecialQuery else Percent.inQuery))

def readFragment (fragment : Option (List Char)) : Option (List Char) :=
  fragment.map (Percent.encode Percent.inFragment)

/-- What stands before and behind the last at sign. -/
def splitCredentials (cs : List Char) : Option (List Char × List Char) :=
  (Text.cut? (· == '@') cs.reverse).map fun (host,credentials) =>
    (credentials.reverse,host.reverse)

/-- The host ends at a colon outside brackets. -/
def splitPort (inBrackets : Bool) : List Char → List Char × Option (List Char)
  | [] => ([],none)
  | c::rest =>
    if c == ':' && !inBrackets then ([],some rest)
    else
      let (host,port) := splitPort (if c == '[' then true else if c == ']' then false else inBrackets) rest
      (c::host,port)

def readPort (scheme : List Char) (cs : List Char) : Except Error (Option Nat) :=
  if cs.isEmpty then .ok none
  else if !cs.all Char.isDigit then .error .port
  else
    let n := Text.ofDecimal cs
    if 65535 < n then .error .port
    else .ok (if defaultPort? scheme == some n then none else some n)

structure Authority where
  username : List Char
  password : List Char
  host : Host
  port : Option Nat

def readAuthority (scheme cs : List Char) : Except Error Authority := do
  let (credentials,rest) := match splitCredentials cs with
    | none => (none,cs)
    | some (c,rest) => (some c,rest)
  let (hostText,portText) := splitPort false rest
  if hostText.isEmpty && (isSpecialScheme scheme || credentials.isSome || portText.isSome) then
    throw .emptyHost
  let host ← Host.parse (isSpecialScheme scheme) hostText
  let port ← readPort scheme (portText.getD [])
  let (username,password) := Text.cut (· == ':') (credentials.getD [])
  return ⟨Percent.encode Percent.inUserinfo username,Percent.encode Percent.inUserinfo password,
    host,port⟩

/-- Reads authority and path behind two slashes. -/
def readBehindSlashes (scheme cs : List Char) (r : Reference) : Except Error Url := do
  let isEnd := isSlash (isSpecialScheme scheme)
  let a ← readAuthority scheme (cs.takeWhile fun c => !isEnd c)
  return ⟨scheme,a.username,a.password,some a.host,a.port,
    readPath scheme [] (cs.dropWhile fun c => !isEnd c),readQuery scheme r.query,
    readFragment r.fragment⟩

def segmentsOf (u : Url) : List (List Char) :=
  match u.path with
  | .segments ss => ss
  | .rootless _ => []

/-- Reads the host of a file URL: none is needed, and the local host is none. -/
def readFileHost (cs : List Char) (r : Reference) : Except Error Url := do
  let hostText := cs.takeWhile fun c => !isSlash true c
  let scheme := "file".toList
  let finish (host : Host) (path : List Char) : Url :=
    ⟨scheme,[],[],some host,none,readPath scheme [] path,readQuery scheme r.query,
      readFragment r.fragment⟩
  if isDriveLetter hostText then return finish .empty cs
  let path := cs.dropWhile fun c => !isSlash true c
  if hostText.isEmpty then return finish .empty path
  let host ← Host.parse true hostText
  return finish (if host = .domain "localhost".toList then .empty else host) path

/-- Reads what follows `file:`, against a base that is a file URL if there is one. -/
def readFile (base : Option Url) (r : Reference) (cs : List Char) : Except Error Url :=
  let scheme := "file".toList
  let make (host : Option Host) (path : Path) (query : Option (List Char)) : Url :=
    ⟨scheme,[],[],host,none,path,query,readFragment r.fragment⟩
  let query := readQuery scheme r.query
  match cs with
  | c::rest =>
    if isSlash true c then
      if startsWithSlash true rest then readFileHost (rest.drop 1) r
      else match base with
        | none => .ok (make (some .empty) (readPath scheme [] cs) query)
        | some b =>
          let drive := (segmentsOf b).take 1
          let kept := if !startsWithDriveLetter rest && drive.any isNormalDriveLetter then drive else []
          .ok (make b.host (readPath scheme kept cs) query)
    else match base with
      | none => .ok (make (some .empty) (readPath scheme [] cs) query)
      | some b =>
        let kept := if startsWithDriveLetter cs then [] else shorten true (segmentsOf b)
        .ok (make b.host (readPath scheme kept cs) query)
  | [] =>
    match base with
    | none => .ok (make (some .empty) (readPath scheme [] []) query)
    | some b => .ok (make b.host b.path (if r.query.isSome then query else b.query))

/-- Reads a reference without a scheme of its own against a base that is no file URL. -/
def readRelative (b : Url) (r : Reference) (cs : List Char) : Except Error Url :=
  let special := isSpecialScheme b.scheme
  let query := readQuery b.scheme r.query
  let fragment := readFragment r.fragment
  match cs with
  | [] =>
    .ok { b with query := if r.query.isSome then query else b.query, fragment := fragment }
  | c::rest =>
    if isSlash special c then
      if startsWithSlash special rest then
        let authority := if special then rest.dropWhile (isSlash true) else rest.drop 1
        readBehindSlashes b.scheme authority r
      else .ok { b with path := readPath b.scheme [] cs, query := query, fragment := fragment }
    else
      let kept := (segmentsOf b).dropLast
      .ok { b with path := readPath b.scheme kept cs, query := query, fragment := fragment }

def isRootless (u : Url) : Bool :=
  match u.path with
  | .rootless _ => true
  | .segments _ => false

/-- Reads what follows a scheme. -/
def readScheme (base : Option Url) (scheme cs : List Char) (r : Reference) : Except Error Url :=
  if isFileScheme scheme then
    readFile (base.filter fun b => isFileScheme b.scheme && !b.isRootless) r cs
  else if isSpecialScheme scheme then
    match base with
    | some b =>
      if b.scheme = scheme ∧ ¬ (cs.take 2 = ['/','/']) then readRelative b r cs
      else readBehindSlashes scheme (cs.dropWhile (isSlash true)) r
    | none => readBehindSlashes scheme (cs.dropWhile (isSlash true)) r
  else
    match cs with
    | '/' :: '/' :: rest => readBehindSlashes scheme rest r
    | '/'::_ =>
      .ok ⟨scheme,[],[],none,none,readPath scheme [] cs,readQuery scheme r.query,
        readFragment r.fragment⟩
    | _ =>
      .ok ⟨scheme,[],[],none,none,.rootless (Percent.encode Percent.isControl cs),
        readQuery scheme r.query,readFragment r.fragment⟩

def readChars (base : Option Url) (text : List Char) : Except Error Url :=
  let r := Reference.ofChars (cleaned text)
  match splitScheme r.front with
  | some (scheme,rest) => readScheme base scheme rest r
  | none =>
    match base with
    | none => .error .noBase
    | some b =>
      if b.isRootless then
        if r.front.isEmpty && r.query.isNone && r.fragment.isSome then
          .ok { b with fragment := readFragment r.fragment }
        else .error .rootlessBase
      else if isFileScheme b.scheme then readFile (some b) r r.front
      else readRelative b r r.front

/-- Reads an absolute URL. -/
def parse (text : String) : Except Error Url := readChars none text.toList

/-- Reads a URL as it stands in a document at `base`. -/
def join (base : Url) (text : String) : Except Error Url := readChars (some base) text.toList

end PageTelemetry.Url
