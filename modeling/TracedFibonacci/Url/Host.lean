import TracedFibonacci.Idna.Domain
import TracedFibonacci.Net.Ipv6
import TracedFibonacci.Text.Percent
import TracedFibonacci.Text.Utf8

/-!
# Hosts of URLs

The host of a URL is a domain name, an IPv4 address, or an IPv6 address in brackets. What looks
like a number at its end is meant as an IPv4 address and has to be one, in any of the spellings
that were ever in use: with fewer than four parts, of which the last fills up the rest, and with
parts in octal or hexadecimal.
-/

namespace TracedFibonacci.Url

open Text Net

/-- Why a text is no URL. -/
inductive Fault where
  /-- It does not begin with a scheme. -/
  | relative
  /-- It has no host. -/
  | emptyHost
  /-- The port is no number of sixteen bits. -/
  | invalidPort
  /-- The host is no domain name. -/
  | invalidDomain
  /-- The host ends like an IPv4 address and is none. -/
  | invalidIpv4
  /-- The host begins like an IPv6 address and is none. -/
  | invalidIpv6
  /-- The host of a foreign scheme holds a character that ends hosts. -/
  | invalidHostCharacter
  deriving Repr, DecidableEq

/-- How a message tells why a text is no URL. -/
def Fault.message : Fault → String
  | relative => "relative URL without a base"
  | emptyHost => "empty host"
  | invalidPort => "invalid port number"
  | invalidDomain => "invalid international domain name"
  | invalidIpv4 => "invalid IPv4 address"
  | invalidIpv6 => "invalid IPv6 address"
  | invalidHostCharacter => "invalid domain character"

/-- A host. -/
inductive Host where
  /-- A domain name in ASCII. -/
  | domain (name : List Char)
  /-- An IPv4 address. -/
  | ipv4 (ip : Ipv4)
  /-- An IPv6 address. -/
  | ipv6 (ip : Ipv6)
  deriving Repr, DecidableEq

namespace Host

/-- The text of a host. -/
def write : Host → List Char
  | domain name => name
  | ipv4 ip => ip.write
  | ipv6 ip => ['['] ++ ip.write ++ [']']

/-- The value of a part of an IPv4 address, of any size: in hexadecimal after `0x`, in octal after
`0`, and otherwise in decimal. -/
def partValue? : List Char → Option Nat
  | [] => none
  | '0' :: 'x' :: ds | '0' :: 'X' :: ds => Numeral.read? 16 ds
  | '0' :: d :: ds => Numeral.read? 8 (d :: ds)
  | ds => Numeral.read? 10 ds

/-- The parts of a name, without an empty one at the end. -/
def parts (name : List Char) : List (List Char) :=
  let ps := name.splitOn '.'
  if ps.getLast? = some [] then ps.dropLast else ps

/-- Whether a name ends in a number, so that it is meant as an IPv4 address. -/
def endsInNumber (name : List Char) : Bool :=
  match (parts name).getLast? with
  | none => false
  | some last => (!last.isEmpty && last.all Char.isDigit) || (partValue? last).isSome

/-- The IPv4 address of these parts: bytes, and a last part that fills up the rest. -/
def ipv4OfParts? (values : List Nat) : Option Ipv4 := do
  let last ← values.getLast?
  let bytes := values.dropLast
  let room := 8 * (4 - bytes.length)
  if bytes.length ≤ 3 ∧ bytes.all (· < 256) ∧ last < 1 <<< room then
    some (.ofNat (Numeral.ofDigits 256 bytes <<< room + last))
  else none

/-- The host with the given text, which is not empty. -/
def read (cs : List Char) : Except Fault Host :=
  match cs with
  | '[' :: rest =>
    if rest.getLast? = some ']' then
      match Ipv6.read? rest.dropLast with
      | some ip => .ok (.ipv6 ip)
      | none => .error .invalidIpv6
    else .error .invalidIpv6
  | _ =>
    match Utf8.decode (percentDecode cs) with
    | .error _ => .error .invalidDomain
    | .ok s =>
      match Idna.toAscii? s.toList with
      | none => .error .invalidDomain
      | some name =>
        if name.isEmpty then .error .emptyHost
        else if endsInNumber name then
          match ((parts name).mapM partValue?).bind ipv4OfParts? with
          | some ip => .ok (.ipv4 ip)
          | none => .error .invalidIpv4
        else .ok (.domain name)

/-- The characters that may not stand in the host of a foreign scheme. -/
def isHostEnd (c : Char) : Bool :=
  c == '\x00' || c == '\t' || c == '\n' || c == '\r' || " #/:<>?@[\\]^|".toList.contains c

/-- Whether a text may be the host of a foreign scheme. -/
def checkForeign (cs : List Char) : Except Fault Unit :=
  match cs with
  | '[' :: rest =>
    if rest.getLast? = some ']' ∧ (Ipv6.read? rest.dropLast).isSome then .ok ()
    else .error .invalidIpv6
  | _ => if cs.any isHostEnd then .error .invalidHostCharacter else .ok ()

end Host

end TracedFibonacci.Url
