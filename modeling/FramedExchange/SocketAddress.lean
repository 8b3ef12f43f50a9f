import FramedExchange.Text.Digits

/-!
# Socket addresses

An address and a port, written as `1.2.3.4:80` or `[2001:db8::1%2]:80`. Octets have no leading
zeros; groups and ports may have some. In an IPv6 address `::` stands for one or more groups of
zeros, the last two groups may be written as an IPv4 address, and a scope may follow as a number.

In print the longest run of at least two zero groups is left out, the first one of equals. Only an
address that maps an IPv4 address shows it as such. A scope of zero is not shown.
-/

namespace FramedExchange

/-- A socket address. -/
inductive SocketAddress
  | v4 (octets : Vector UInt8 4) (port : UInt16)
  | v6 (groups : Vector UInt16 8) (scope : UInt32) (port : UInt16)
deriving DecidableEq, Repr

namespace SocketAddress

/-! ### Reading -/

/-- One octet of an IPv4 address. -/
def octet : Scan Nat := do
  let digits ← Scan.run1 (Digits.isDigit 10)
  guard (digits.length ≤ 3 ∧ (digits.head? ≠ some '0' ∨ digits.length = 1))
  let n := Digits.toNat 10 digits
  guard (n < 256)
  return n

/-- An IPv4 address. -/
def octets : Scan (Vector UInt8 4) := do
  let a ← octet
  let more ← Scan.times 3 (Scan.char '.' *> octet)
  return Vector.ofFn fun i ↦ UInt8.ofNat ((a :: more).getD i 0)

/-- One group of an IPv6 address. -/
def group : Scan UInt16 := do
  let digits ← Scan.run1 (Digits.isDigit 16)
  guard (digits.length ≤ 4)
  return UInt16.ofNat (Digits.toNat 16 digits)

/-- Two groups that are written as an IPv4 address. -/
def embedded : Scan (List UInt16) := do
  let o ← octets
  return [UInt16.ofNat (256 * o[0].toNat + o[1].toNat),
    UInt16.ofNat (256 * o[2].toNat + o[3].toNat)]

/-- As many groups as there are, at most `room`, and whether the last two are written as an IPv4
address. Where the text goes on with a separator but with no group, the separator is left. -/
def groupRun : (room : Nat) → (isFirst : Bool) → Scan (List UInt16 × Bool)
  | 0, _ => pure ([], false)
  | room + 1, isFirst =>
    let separator : Scan Unit := if isFirst then pure () else Scan.char ':'
    (do
      guard (0 < room)
      separator
      return (← embedded, true))
    <|> (do
      separator
      let g ← group
      let (more, endsInOctets) ← groupRun room false
      return (g :: more, endsInOctets))
    <|> pure ([], false)

/-- An IPv6 address. No IPv4 address comes before the double colon, and the double colon stands for
at least one group. -/
def groups : Scan (Vector UInt16 8) := do
  let (head, endsInOctets) ← groupRun 8 true
  let tail ← if head.length = 8 then pure [] else do
    guard !endsInOctets
    Scan.word "::"
    Prod.fst <$> groupRun (7 - head.length) true
  let zeros : List UInt16 := List.replicate (8 - head.length - tail.length) 0
  return Vector.ofFn fun i ↦ (head ++ zeros ++ tail).getD i 0

/-- A port with its colon. -/
def port : Scan UInt16 := Scan.char ':' *> (UInt16.ofNat <$> Digits.natural 10 0xffff)

/-- A scope with its mark, or none. -/
def scope : Scan UInt32 :=
  (Scan.char '%' *> (UInt32.ofNat <$> Digits.natural 10 0xffffffff)) <|> pure 0

/-- A socket address at the front of a text. -/
def scan : Scan SocketAddress :=
  (return .v4 (← octets) (← port))
  <|> (do
    Scan.char '['
    let groups ← groups
    let scope ← scope
    Scan.char ']'
    return .v6 groups scope (← port))

/-- The socket address that a text is. -/
def parse? (text : String) : Option SocketAddress := Scan.whole scan text

/-! ### Printing -/

/-- The place and the length of the longest run of zeros, the first one of equals. -/
def zeroRun (groups : List UInt16) : Nat × Nat :=
  (List.range groups.length).foldl (fun best start ↦
    let length := ((groups.drop start).takeWhile (· == 0)).length
    if best.2 < length then (start, length) else best) (0, 0)

/-- Octets with dots between them. -/
def showOctets (octets : List Nat) : String := ".".intercalate (octets.map Nat.repr)

/-- Groups with colons between them. -/
def showGroupRun (groups : List UInt16) : String :=
  ":".intercalate (groups.map fun g ↦ Digits.ofNat 16 g.toNat)

/-- The text of an IPv6 address. -/
def showGroups (groups : List UInt16) : String :=
  match groups with
  | [0, 0, 0, 0, 0, 0xffff, a, b] =>
    "::ffff:" ++ showOctets [a.toNat / 256, a.toNat % 256, b.toNat / 256, b.toNat % 256]
  | _ =>
    let (start, length) := zeroRun groups
    if 1 < length then
      showGroupRun (groups.take start) ++ "::" ++ showGroupRun (groups.drop (start + length))
    else showGroupRun groups

/-- The text of a socket address. -/
def text : SocketAddress → String
  | v4 octets port => showOctets (octets.toList.map UInt8.toNat) ++ ":" ++ port.toNat.repr
  | v6 groups scope port =>
    let mark := if scope = 0 then "" else "%" ++ scope.toNat.repr
    "[" ++ showGroups groups.toList ++ mark ++ "]:" ++ port.toNat.repr

end SocketAddress

end FramedExchange
