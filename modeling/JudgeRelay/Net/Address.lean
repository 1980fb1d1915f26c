/-!
# Network addresses

IPv4 and IPv6 addresses, and socket addresses (an address with a port), read from
text and written back.

Reading is strict. An IPv4 address is four decimal octets separated by dots, each of
one to three digits with no leading zero. An IPv6 address is up to eight groups of one
to four hexadecimal digits separated by colons, where one `::` stands for one or more
groups of zeros, and the last two groups may be written as an IPv4 address. A socket
address is `a.b.c.d:port` or `[v6]:port`, optionally `[v6%scope]:port`; its port may
have leading zeros. Reading must use up the whole text.

Writing follows RFC 5952: hexadecimal groups in lowercase without leading zeros, the
first longest run of two or more zero groups written `::`, and an IPv4-mapped address
as `::ffff:a.b.c.d`.
-/

namespace JudgeRelay

/-- An IPv4 address. -/
structure Ipv4 where
  octets : Vector UInt8 4
  deriving DecidableEq, Repr

/-- An IPv6 address, as eight 16-bit groups. -/
structure Ipv6 where
  segments : Vector UInt16 8
  deriving DecidableEq, Repr

/-- An IP address of either family. -/
inductive IpAddress where
  | v4 (a : Ipv4)
  | v6 (a : Ipv6)
  deriving DecidableEq, Repr

/-- An IP address with a port; `scope` is the zone of an IPv6 address, 0 for none. -/
structure SocketAddress where
  ip : IpAddress
  port : UInt16
  scope : Nat := 0
  deriving DecidableEq, Repr

/-- A reader of address text: on failure it gives nothing back, so an alternative
starts again where the failed reader started. -/
abbrev Scan := StateT (List Char) Option

namespace Scan

/-- Reads one given character. -/
def char (c : Char) : Scan Unit := do
  match ← get with
  | d :: rest => if d = c then set rest else failure
  | [] => failure

/-- The value of a digit in a radix up to 16, letters in either case. -/
def digitValue (radix : Nat) (c : Char) : Option Nat :=
  let v :=
    if '0' ≤ c ∧ c ≤ '9' then some (c.toNat - '0'.toNat)
    else if 'a' ≤ c ∧ c ≤ 'f' then some (c.toNat - 'a'.toNat + 10)
    else if 'A' ≤ c ∧ c ≤ 'F' then some (c.toNat - 'A'.toNat + 10)
    else none
  v.filter (· < radix)

/-- Reads the longest run of digits as a number. It fails when there is no digit,
when there are more than `maxDigits`, when the value exceeds `limit`, and, unless
`zeroPrefix`, when a number of two or more digits starts with zero. -/
def number (radix : Nat) (maxDigits : Option Nat) (zeroPrefix : Bool) (limit : Nat) :
    Scan Nat := do
  let cs ← get
  let ds := cs.takeWhile fun c => (digitValue radix c).isSome
  let value := ds.foldl (fun acc c => acc * radix + (digitValue radix c).getD 0) 0
  let tooMany := match maxDigits with
    | some m => ds.length > m
    | none => false
  if ds.isEmpty || tooMany || value > limit || (!zeroPrefix && ds.head? = some '0' && ds.length > 1)
  then failure
  else
    set (cs.drop ds.length)
    pure value

/-- Runs `p`, preceded by the separator unless it reads the first item. -/
def separated (sep : Char) (index : Nat) (p : Scan α) : Scan α :=
  if index > 0 then char sep *> p else p

/-- Reads an IPv4 address. -/
def ipv4 : Scan Ipv4 := do
  let octet := number 10 (some 3) false 255
  let a ← octet
  char '.'
  let b ← octet
  char '.'
  let c ← octet
  char '.'
  let d ← octet
  pure ⟨#v[a.toUInt8, b.toUInt8, c.toUInt8, d.toUInt8]⟩

/-- Reads colon-separated groups into at most `limit` slots, `index` of them taken;
the last two slots may hold an IPv4 address instead, which ends the run. Gives the
groups and whether an IPv4 address ended them. -/
def groups (limit index : Nat) (acc : List Nat) : Nat → Scan (List Nat × Bool)
  | 0 => pure (acc.reverse, false)
  | fuel + 1 => do
    let embedded ← if index + 1 < limit then optional (separated ':' index ipv4) else pure none
    match embedded with
    | some a =>
      let o := a.octets.toList.map UInt8.toNat
      pure (acc.reverse ++ [o[0]! * 256 + o[1]!, o[2]! * 256 + o[3]!], true)
    | none =>
      match ← optional (separated ':' index (number 16 (some 4) true 65535)) with
      | some g => groups limit (index + 1) (g :: acc) fuel
      | none => pure (acc.reverse, false)

/-- The address of eight groups. -/
def ofGroups (gs : List Nat) : Ipv6 := ⟨Vector.ofFn fun i => (gs.getD i.val 0).toUInt16⟩

/-- Reads an IPv6 address. -/
def ipv6 : Scan Ipv6 := do
  let (head, headV4) ← groups 8 0 [] 8
  if head.length = 8 then pure (ofGroups head)
  else if headV4 then failure
  else do
    char ':'
    char ':'
    let limit := 8 - (head.length + 1)
    let (tail, _) ← groups limit 0 [] limit
    pure (ofGroups (head ++ List.replicate (8 - head.length - tail.length) 0 ++ tail))

/-- Reads an address of either family, IPv4 first. -/
def ip : Scan IpAddress := (IpAddress.v4 <$> ipv4) <|> (IpAddress.v6 <$> ipv6)

/-- Reads `:port`. -/
def port : Scan UInt16 := do
  char ':'
  let p ← number 10 none true 65535
  pure p.toUInt16

/-- Reads a socket address of either family, IPv4 first. -/
def socket : Scan SocketAddress :=
  (do
    let a ← ipv4
    let p ← port
    pure ⟨.v4 a, p, 0⟩) <|>
  (do
    char '['
    let a ← ipv6
    let scope ← optional (char '%' *> number 10 none true (Nat.pow 2 32 - 1))
    char ']'
    let p ← port
    pure ⟨.v6 a, p, scope.getD 0⟩)

/-- Runs a reader over a whole text. -/
def whole (p : Scan α) (s : String) : Option α :=
  match p.run s.toList with
  | some (a, []) => some a
  | _ => none

end Scan

namespace Ipv4

/-- Reads an IPv4 address from a whole text. -/
def parse? (s : String) : Option Ipv4 := Scan.whole Scan.ipv4 s

/-- Dotted decimal text. -/
def toText (a : Ipv4) : String := ".".intercalate (a.octets.toList.map fun o => toString o.toNat)

end Ipv4

namespace Ipv6

/-- Reads an IPv6 address from a whole text. -/
def parse? (s : String) : Option Ipv6 := Scan.whole Scan.ipv6 s

/-- The first longest run of zero groups: its start and length. -/
def longestZeroRun (gs : List Nat) : Nat × Nat :=
  let (best, _, _) := gs.foldl (fun ((bestStart, bestLen), (curStart, curLen), i) g =>
    if g = 0 then
      let cur := if curLen = 0 then (i, 1) else (curStart, curLen + 1)
      ((if cur.2 > bestLen then cur else (bestStart, bestLen)), cur, i + 1)
    else ((bestStart, bestLen), (0, 0), i + 1)) ((0, 0), (0, 0), 0)
  best

/-- Groups in lowercase hexadecimal separated by colons. -/
def groupsText (gs : List Nat) : String :=
  ":".intercalate (gs.map fun g => String.ofList (Nat.toDigits 16 g))

/-- RFC 5952 text. -/
def toText (a : Ipv6) : String :=
  let gs := a.segments.toList.map UInt16.toNat
  if gs.take 6 = [0, 0, 0, 0, 0, 0xffff] then
    let lo := gs.drop 6
    let v4 : Ipv4 := ⟨#v[(lo[0]! / 256).toUInt8, (lo[0]! % 256).toUInt8,
      (lo[1]! / 256).toUInt8, (lo[1]! % 256).toUInt8]⟩
    "::ffff:" ++ v4.toText
  else
    let (start, len) := longestZeroRun gs
    if len > 1 then groupsText (gs.take start) ++ "::" ++ groupsText (gs.drop (start + len))
    else groupsText gs

end Ipv6

namespace IpAddress

/-- Reads an IP address of either family from a whole text. -/
def parse? (s : String) : Option IpAddress := Scan.whole Scan.ip s

/-- Whether the address is an IPv4 one. -/
def isV4 : IpAddress → Bool
  | .v4 _ => true
  | .v6 _ => false

/-- The address as text. -/
def toText : IpAddress → String
  | .v4 a => a.toText
  | .v6 a => a.toText

end IpAddress

namespace SocketAddress

/-- Reads a socket address from a whole text. -/
def parse? (s : String) : Option SocketAddress := Scan.whole Scan.socket s

/-- The address as text: `a.b.c.d:port`, or `[v6]:port` with `%scope` inside the
brackets when there is a zone. -/
def toText (s : SocketAddress) : String :=
  match s.ip with
  | .v4 a => a.toText ++ ":" ++ toString s.port.toNat
  | .v6 a =>
    let scope := if s.scope = 0 then "" else "%" ++ toString s.scope
    "[" ++ a.toText ++ scope ++ "]:" ++ toString s.port.toNat

end SocketAddress

end JudgeRelay
