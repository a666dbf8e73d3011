import PageTelemetry.Url.Percent
import PageTelemetry.Url.Domain
import PageTelemetry.Url.Ipv4
import PageTelemetry.Url.Ipv6

/-! Hosts: domain names, addresses, and the names of schemes that have no rules for them. -/
namespace PageTelemetry.Url

inductive Host
  | empty
  | domain (name : List Char)
  | ipv4 (address : Nat)
  | ipv6 (pieces : List Nat)
  | verbatim (text : List Char)
  deriving DecidableEq, Repr, Inhabited

namespace Host

def isForbidden (c : Char) : Bool :=
  c == '\x00' || c == '\t' || c == '\n' || c == '\r' || c == ' ' || c == '#' || c == '/' ||
    c == ':' || c == '<' || c == '>' || c == '?' || c == '@' || c == '[' || c == '\\' ||
    c == ']' || c == '^' || c == '|'

def isForbiddenInDomain (c : Char) : Bool :=
  isForbidden c || c.toNat ≤ 0x1f || c == '%' || c.toNat == 0x7f

def ofDomain (cs : List Char) : Except Error Host :=
  match Domain.toAscii? (Text.Utf8.decodeLossy (Percent.decode cs)) with
  | none => .error .internationalDomain
  | some [] => .error .emptyHost
  | some name =>
    if name.any isForbiddenInDomain then .error .internationalDomain
    else if Ipv4.endsInNumber name then (Ipv4.parse name).map .ipv4
    else .ok (.domain name)

def ofName (cs : List Char) : Except Error Host :=
  if cs.isEmpty then .ok .empty
  else if cs.any isForbidden then .error .domainCharacter
  else .ok (.verbatim (Percent.encode Percent.isControl cs))

/-- The host that a text names; `special` schemes take domain names and IPv4 addresses. -/
def parse (special : Bool) : List Char → Except Error Host
  | '['::rest =>
    match rest.reverse with
    | ']'::inner => (Ipv6.parse inner.reverse).map .ipv6
    | _ => .error .ipv6
  | cs => if special then ofDomain cs else ofName cs

def write : Host → List Char
  | .empty => []
  | .domain name => name
  | .ipv4 n => Ipv4.write n
  | .ipv6 ns => '['::(Ipv6.write ns ++ [']'])
  | .verbatim text => text

end Host

end PageTelemetry.Url
