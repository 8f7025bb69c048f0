import PagePrep.Url.Domain.Ascii
import PagePrep.Url.Ipv4
import PagePrep.Url.Ipv6
import PagePrep.Url.Percent

/-!
# Hosts

Who a URL asks: a domain name, an address, or, in a URL of no special scheme, a name of its own
kind. Hosts are kept in their normal form, so equal hosts are written alike.
-/

set_option autoImplicit false

namespace PagePrep

/-- Why a text is no URL. -/
inductive UrlFault where
  | relativeWithoutBase
  | emptyHost
  | invalidPort
  | invalidIpv4
  | invalidIpv6
  | invalidDomainCharacter
  | invalidDomain
  deriving DecidableEq, Repr

/-- The fault in words. -/
def UrlFault.message : UrlFault → String
  | relativeWithoutBase => "relative URL without a base"
  | emptyHost => "empty host"
  | invalidPort => "invalid port number"
  | invalidIpv4 => "invalid IPv4 address"
  | invalidIpv6 => "invalid IPv6 address"
  | invalidDomainCharacter => "invalid domain character"
  | invalidDomain => "invalid international domain name"

namespace Url

/-- A host in normal form. -/
inductive Host where
  /-- A domain name, or the name of a host of another kind; it may be empty. -/
  | name (s : String)
  | ipv4 (address : Nat)
  | ipv6 (pieces : List Nat)
  deriving DecidableEq, Repr

namespace Host

/-- The host as a URL writes it. -/
def text : Host → String
  | name s => s
  | ipv4 address => Ipv4.text address
  | ipv6 pieces => "[" ++ Ipv6.text pieces ++ "]"

/-- The address between brackets, whose opening one is taken. -/
def ofBrackets (cs : List Char) : Except UrlFault Host :=
  if cs.getLast? = some ']' then
    match Ipv6.ofText? cs.dropLast with
    | some ps => .ok (ipv6 ps)
    | none => .error .invalidIpv6
  else .error .invalidIpv6

/-- The characters that some bytes encode, or nothing if they are not UTF-8. -/
def decodeBytes? (bs : List UInt8) : Option (List Char) :=
  (String.fromUTF8? ⟨bs.toArray⟩).map String.toList

/-- A domain name or an address. -/
def ofDomain (cs : List Char) : Except UrlFault Host :=
  match cs with
  | '[' :: rest => ofBrackets rest
  | cs =>
    match (decodeBytes? (percentDecode cs)).bind Domain.toAscii? with
    | none => .error .invalidDomain
    | some ascii =>
      if ascii.isEmpty then .error .emptyHost
      else if Ipv4.endsInNumber ascii then
        match Ipv4.ofHost? ascii with
        | some n => .ok (ipv4 n)
        | none => .error .invalidIpv4
      else .ok (name (String.ofList ascii))

/-- Characters that stand in no host of another kind. -/
def opaqueForbidden : List Char :=
  ['\x00', '\t', '\n', '\r', ' ', '#', '/', ':', '<', '>', '?', '@', '[', '\\', ']', '^', '|']

/-- A host that is no domain name. -/
def ofOpaque (cs : List Char) : Except UrlFault Host :=
  match cs with
  | '[' :: rest => ofBrackets rest
  | cs =>
    if cs.any opaqueForbidden.contains then .error .invalidDomainCharacter
    else .ok (name (String.ofList (percentEncode [] cs)))

end Host

end Url

end PagePrep
