import TracedFibonacci.Net.Ipv6

/-!
# Socket addresses

An address and a port: `1.2.3.4:80`, or `[::1]:80` for an IPv6 address, which may have a scope, as
in `[fe80::1%3]:80`. Scope and port are decimal numbers, with any number of leading zeros when
they are read. A scope of zero is not written, and an address that stands for an IPv4 address
shows it.
-/

namespace TracedFibonacci.Net

open Text

/-- An address and a port. -/
inductive SocketAddress where
  /-- With an IPv4 address. -/
  | v4 (ip : Ipv4) (port : UInt16)
  /-- With an IPv6 address and its scope. -/
  | v6 (ip : Ipv6) (scope : UInt32) (port : UInt16)
  deriving Repr, DecidableEq

namespace SocketAddress

/-- A port after its colon. -/
def writePort (port : UInt16) : List Char := ':' :: Numeral.write 10 port.toNat

/-- The text of an IPv6 address, with the IPv4 address in it if it stands for one. -/
def writeIpv6 (ip : Ipv6) : List Char :=
  match ip.mapped? with
  | some inner => "::ffff:".toList ++ inner.write
  | none => ip.write

/-- The text of a scope after its mark; nothing for the scope zero. -/
def writeScope (scope : UInt32) : List Char :=
  if scope = 0 then [] else '%' :: Numeral.write 10 scope.toNat

/-- The text of a socket address. -/
def write : SocketAddress → List Char
  | v4 ip port => ip.write ++ writePort port
  | v6 ip scope port => ['['] ++ writeIpv6 ip ++ writeScope scope ++ [']'] ++ writePort port

/-- The value of at least one decimal digit, when it is below `bound`. -/
def readBelow? (bound : Nat) (cs : List Char) : Option Nat :=
  if cs.isEmpty then none else (Numeral.read? 10 cs).filter (· < bound)

/-- The port with these digits. -/
def readPort? (cs : List Char) : Option UInt16 := (readBelow? UInt16.size cs).map UInt16.ofNat

/-- The scope with these digits. -/
def readScope? (cs : List Char) : Option UInt32 := (readBelow? UInt32.size cs).map UInt32.ofNat

/-- The socket address with the given text. -/
def read? (cs : List Char) : Option SocketAddress :=
  match cs with
  | '[' :: rest =>
    match rest.splitOn ']' with
    | [inside, ':' :: port] =>
      match inside.splitOn '%' with
      | [ip] => do return v6 (← Ipv6.read? ip) 0 (← readPort? port)
      | [ip, scope] => do return v6 (← Ipv6.read? ip) (← readScope? scope) (← readPort? port)
      | _ => none
    | _ => none
  | _ =>
    match cs.splitOn ':' with
    | [ip, port] => do return v4 (← Ipv4.read? ip) (← readPort? port)
    | _ => none

/-- The text of a socket address. -/
def text (a : SocketAddress) : String := String.ofList a.write

/-- The socket address with the given text. -/
def ofText? (s : String) : Option SocketAddress := read? s.toList

end SocketAddress

end TracedFibonacci.Net
