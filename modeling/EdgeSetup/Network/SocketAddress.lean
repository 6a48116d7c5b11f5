import EdgeSetup.Network.Ipv6

/-!
# Socket addresses

An address to listen on: an IP address and a port, `1.2.3.4:80` or `[::1]:80`. The bracketed form
may carry a scope number, `[fe80::1%2]:80`.
-/

namespace EdgeSetup

/-- An IP address of either kind. -/
inductive IpAddress where
  | v4 (ip : Ipv4)
  | v6 (ip : Ipv6)
  deriving DecidableEq, Repr

/-- The text of an IP address. -/
def IpAddress.render : IpAddress → String
  | v4 ip => ip.render
  | v6 ip => ip.render

/-- An IP address and a port. -/
structure SocketAddress where
  ip : IpAddress
  port : UInt16
  deriving DecidableEq, Repr

namespace SocketAddress

/-- The number below a limit that a run of digits stands for. -/
def numberBelow? (limit : Nat) (text : List Char) : Option Nat :=
  if text.isEmpty || !text.all Char.isDigit then none
  else
    let value := Nat.ofDigitChars 10 text 0
    if value < limit then some value else none

/-- The port that a text stands for. -/
def port? (text : List Char) : Option UInt16 :=
  (numberBelow? UInt16.size text).map UInt16.ofNat

/-- The IPv6 address between brackets; a scope number after `%` is read and left aside. -/
def bracketed? (text : List Char) : Option Ipv6 :=
  match Text.cutAt? '%' text with
  | none => Ipv6.ofChars? text
  | some (ip, scope) => do
    let _ ← numberBelow? UInt32.size scope
    Ipv6.ofChars? ip

/-- The socket address that a text stands for. -/
def parse? (text : String) : Option SocketAddress :=
  match text.toList with
  | '[' :: rest => do
    let (inside, after) ← Text.cutAt? ']' rest
    let ip ← bracketed? inside
    let digits ← Text.stripStart? [':'] after
    let port ← port? digits
    some ⟨.v6 ip, port⟩
  | chars => do
    let (before, digits) ← Text.cutAt? ':' chars
    let ip ← Ipv4.ofChars? before
    let port ← port? digits
    some ⟨.v4 ip, port⟩

end SocketAddress

end EdgeSetup
