import PageTelemetry.Url.Host

/-! URLs as records, their text, and the parts of it that other modules ask for. -/
namespace PageTelemetry

/-- A path of segments, or the text behind the scheme of a URL that cannot be a base. -/
inductive Url.Path
  | segments (ss : List (List Char))
  | rootless (text : List Char)
  deriving DecidableEq, Repr, Inhabited

structure Url where
  scheme : List Char
  username : List Char
  password : List Char
  host : Option Url.Host
  /-- Absent where it is the scheme's default. -/
  port : Option Nat
  path : Url.Path
  query : Option (List Char)
  fragment : Option (List Char)
  deriving DecidableEq, Repr, Inhabited

namespace Url

def defaultPort? (scheme : List Char) : Option Nat :=
  if scheme = "http".toList ∨ scheme = "ws".toList then some 80
  else if scheme = "https".toList ∨ scheme = "wss".toList then some 443
  else if scheme = "ftp".toList then some 21
  else none

def isFileScheme (scheme : List Char) : Bool := scheme == "file".toList

/-- The schemes whose URLs have domains as hosts and take backslashes for slashes. -/
def isSpecialScheme (scheme : List Char) : Bool :=
  (defaultPort? scheme).isSome || isFileScheme scheme

def Path.write : Path → List Char
  | .segments ss => ss.flatMap ('/'::·)
  | .rootless text => text

def writeCredentials (u : Url) : List Char :=
  if u.username.isEmpty && u.password.isEmpty then []
  else u.username ++ (if u.password.isEmpty then [] else ':'::u.password) ++ ['@']

def writePort (u : Url) : List Char :=
  match u.port with
  | none => []
  | some n => ':'::Nat.toDigits 10 n

/-- A path that begins with an empty segment must not read as a host. -/
def writeAuthority (u : Url) : List Char :=
  match u.host with
  | some host => '/' :: '/' :: (u.writeCredentials ++ host.write ++ u.writePort)
  | none =>
    match u.path with
    | .segments ([]::_::_) => ['/','.']
    | _ => []

def write (u : Url) : List Char :=
  u.scheme ++ ':'::(u.writeAuthority ++ u.path.write) ++
    (match u.query with
      | none => []
      | some q => '?'::q) ++
    (match u.fragment with
      | none => []
      | some f => '#'::f)

def text (u : Url) : String := String.ofList u.write

def pathText (u : Url) : String := String.ofList u.path.write

/-- The text of the host, unless there is none or it is empty. -/
def hostText? (u : Url) : Option String :=
  match u.host with
  | none | some .empty => none
  | some host => some (String.ofList host.write)

/-- Scheme, host and port of a URL that has a host. -/
def originText (u : Url) : String :=
  String.ofList (u.scheme ++ ':' :: '/' :: '/' ::
    ((match u.host with
      | none => []
      | some host => host.write) ++ u.writePort))

def isHttp (u : Url) : Bool := u.scheme == "http".toList || u.scheme == "https".toList

end Url

end PageTelemetry
