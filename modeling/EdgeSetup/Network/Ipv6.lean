import EdgeSetup.Network.Ipv4
import EdgeSetup.Text.Digit

/-!
# IPv6 addresses

Eight groups of 16 bits. In the text form the groups are hexadecimal with colons between them, one
run of zero groups may be cut out by `::`, and the last two groups may be written as an IPv4
address.
-/

namespace EdgeSetup

/-- An IPv6 address: its eight groups. -/
structure Ipv6 where
  groups : Vector UInt16 8
  deriving DecidableEq, Repr

namespace Ipv6

/-! ## Reading -/

/-- One group: one to four hexadecimal digits. -/
def group? (text : List Char) : Option Nat :=
  if text.isEmpty || text.length > 4 then none
  else (text.mapM Text.hexValue?).map (fun digits => digits.foldl (fun n d => 16 * n + d) 0)

/-- The two groups that an IPv4 address stands for. -/
def groupsOfIpv4 (ip : Ipv4) : List Nat :=
  [256 * ip.first.toNat + ip.second.toNat, 256 * ip.third.toNat + ip.fourth.toNat]

/-- The groups of the pieces between colons; the last piece may be an IPv4 address. -/
def groupsOfPieces? : List (List Char) → Option (List Nat)
  | [] => some []
  | [piece] =>
    match group? piece with
    | some group => some [group]
    | none => (Ipv4.ofChars? piece).map groupsOfIpv4
  | piece :: rest => do
    let group ← group? piece
    let groups ← groupsOfPieces? rest
    some (group :: groups)

/-- The groups of a text with no `::` in it; the empty text has none. -/
def groups? (text : List Char) : Option (List Nat) :=
  if text.isEmpty then some [] else groupsOfPieces? (Text.splitOn ':' text)

/-- The text before the first `::` and the text after it. -/
def cutAtGap? : List Char → Option (List Char × List Char)
  | ':' :: ':' :: rest => some ([], rest)
  | c :: rest => (cutAtGap? rest).map (fun (before, after) => (c :: before, after))
  | [] => none

/-- An address from exactly eight groups. -/
def ofGroups? (groups : List Nat) : Option Ipv6 :=
  let words := (groups.map UInt16.ofNat).toArray
  if h : words.size = 8 then some ⟨⟨words, h⟩⟩ else none

/-- The address that a text stands for. An IPv4 address may only stand at the very end, so not
before `::`, and the gap stands for at least one group. -/
def ofChars? (text : List Char) : Option Ipv6 :=
  match cutAtGap? text with
  | none => if text.isEmpty then none else (groups? text).bind ofGroups?
  | some (before, after) => do
    let head ← groups? before
    let tail ← groups? after
    if before.contains '.' || 7 < head.length + tail.length then none
    else ofGroups? (head ++ List.replicate (8 - head.length - tail.length) 0 ++ tail)

/-! ## Writing -/

/-- A group in lower-case hexadecimal. -/
def groupText (group : UInt16) : List Char := Nat.toDigits 16 group.toNat

/-- Groups with colons between them. -/
def joinGroups (groups : List UInt16) : List Char :=
  List.intercalate [':'] (groups.map groupText)

/-- The length of the run of zeros at the start of a list. -/
def zeroRun (groups : List UInt16) : Nat := (groups.takeWhile (· == 0)).length

/-- The start and length of the first longest run of zeros, as found from a position on. -/
def longestZeroRun : Nat → List UInt16 → Nat × Nat
  | _, [] => (0, 0)
  | start, group :: rest =>
    let here := zeroRun (group :: rest)
    let later := longestZeroRun (start + 1) rest
    if later.2 ≤ here then (start, here) else later

/-- The IPv4 address inside an address of the form `::ffff:a.b.c.d`. -/
def mappedIpv4? (ip : Ipv6) : Option Ipv4 :=
  match ip.groups.toList with
  | [0, 0, 0, 0, 0, 0xffff, high, low] =>
    some ⟨(high >>> 8).toUInt8, high.toUInt8, (low >>> 8).toUInt8, low.toUInt8⟩
  | _ => none

/-- The text of an address, with its first longest run of two or more zero groups cut out. -/
def render (ip : Ipv6) : String :=
  match ip.mappedIpv4? with
  | some inner => "::ffff:" ++ inner.render
  | none =>
    let groups := ip.groups.toList
    let (start, length) := longestZeroRun 0 groups
    if 1 < length then
      String.ofList (joinGroups (groups.take start) ++ [':', ':'] ++
        joinGroups (groups.drop (start + length)))
    else String.ofList (joinGroups groups)

/-- Whether an address is the machine's own. -/
def isLoopback (ip : Ipv6) : Bool := ip.groups.toList = [0, 0, 0, 0, 0, 0, 0, 1]

/-- Whether an address stands for all of the machine. -/
def isUnspecified (ip : Ipv6) : Bool := ip.groups.toList = [0, 0, 0, 0, 0, 0, 0, 0]

end Ipv6

end EdgeSetup
