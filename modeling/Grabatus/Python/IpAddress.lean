import Grabatus.Python.Str
import Mathlib.Data.BitVec

/-!
# Python's `ipaddress`

`ip_address` reads a string as an IPv4 address, failing that as an IPv6 address with an optional
scope. An octet has no leading zero; an IPv6 address has at most one `::` and may end in a dotted
IPv4 address.
-/

namespace Grabatus.Python

open Grabatus.Lib.Text

/-- `IPv4Address` or `IPv6Address`; the scope of the latter is not part of its number. -/
inductive IpAddress where
  | v4 (ip : BitVec 32)
  | v6 (ip : BitVec 128)
  deriving DecidableEq

/-- The value of a string of digits in base `b`. -/
def ofDigits (b : Nat) (digits : List Nat) : Nat := digits.foldl (fun n d => b * n + d) 0

/-- `IPv4Address._parse_octet`. -/
def parseOctet (s : List Char) : Option Nat :=
  if s = [] ∨ s.any (fun c => !c.isDigit) ∨ 3 < s.length then none
  else if s ≠ ['0'] ∧ s.head? = some '0' then none
  else
    let n := ofDigits 10 (s.map fun c => c.toNat - '0'.toNat)
    if 255 < n then none else some n

/-- `IPv4Address(s)`. -/
def parseIpv4 (s : List Char) : Option Nat :=
  if '/' ∈ s then none
  else match (s.splitOn '.').mapM parseOctet with
    | some [a, b, c, d] => some (ofDigits 256 [a, b, c, d])
    | _ => none

/-- The value of a hexadecimal digit. -/
def hexValue? (c : Char) : Option Nat :=
  if c.isDigit then some (c.toNat - '0'.toNat)
  else if 'a' ≤ c ∧ c ≤ 'f' then some (c.toNat - 'a'.toNat + 10)
  else if 'A' ≤ c ∧ c ≤ 'F' then some (c.toNat - 'A'.toNat + 10)
  else none

/-- `IPv6Address._parse_hextet`. -/
def parseHextet (s : List Char) : Option Nat :=
  if s = [] ∨ 4 < s.length then none else (s.mapM hexValue?).map (ofDigits 16)

/-- The parts between colons, a dotted IPv4 tail rewritten as two hextets. -/
def ipv6Parts (s : List Char) : Option (List (List Char)) :=
  let parts := s.splitOn ':'
  if parts.length < 3 then none
  else if '.' ∈ parts.getLastD [] then
    (parseIpv4 (parts.getLastD [])).map fun ip =>
      parts.dropLast ++ [Nat.toDigits 16 (ip / 65536), Nat.toDigits 16 (ip % 65536)]
  else some parts

/-- The positions of the empty parts that are neither first nor last. -/
def skips (parts : List (List Char)) : List Nat :=
  (List.range parts.length).filter fun i =>
    decide (1 ≤ i ∧ i + 1 < parts.length) && parts.getD i [] == []

/-- The hextets before and after `::`, and how many it stands for. -/
def ipv6Layout (parts : List (List Char)) :
    Option (List (List Char) × Nat × List (List Char)) :=
  let firstEmpty := parts.head? = some []
  let lastEmpty := parts.getLast? = some []
  match skips parts with
  | [] =>
    if parts.length ≠ 8 ∨ firstEmpty ∨ lastEmpty then none else some (parts, 0, [])
  | [i] =>
    let hi := if firstEmpty then i - 1 else i
    let lo := if lastEmpty then parts.length - i - 2 else parts.length - i - 1
    if (firstEmpty ∧ hi ≠ 0) ∨ (lastEmpty ∧ lo ≠ 0) ∨ 8 ≤ hi + lo then none
    else some (parts.take hi, 8 - (hi + lo), parts.drop (parts.length - lo))
  | _ => none

/-- `IPv6Address._ip_int_from_string`. -/
def ipv6Int (s : List Char) : Option Nat := do
  let parts ← ipv6Parts s
  if 9 < parts.length then none
  let (high, skipped, low) ← ipv6Layout parts
  let high ← high.mapM parseHextet
  let low ← low.mapM parseHextet
  return ofDigits 65536 (high ++ List.replicate skipped 0 ++ low)

/-- `IPv6Address(s)`: the address, then after `%` a scope. -/
def parseIpv6 (s : List Char) : Option Nat :=
  if '/' ∈ s then none
  else match cut '%' s with
    | (addr, none) => ipv6Int addr
    | (addr, some scope) => if scope = [] ∨ '%' ∈ scope then none else ipv6Int addr

/-- `ip_address(s)`; `none` is its `ValueError`. -/
def ipAddress (s : List Char) : Option IpAddress :=
  match parseIpv4 s with
  | some ip => some (.v4 (BitVec.ofNat 32 ip))
  | none => (parseIpv6 s).map fun ip => .v6 (BitVec.ofNat 128 ip)

/-- `IPv4Network`: the network address and the number of bits it fixes. -/
structure Ipv4Network where
  address : BitVec 32
  prefixLength : Nat
  deriving DecidableEq

/-- `address in network`; an IPv6 address is in no IPv4 network. -/
def Ipv4Network.contains (n : Ipv4Network) : IpAddress → Bool
  | .v4 ip => ip >>> (32 - n.prefixLength) == n.address >>> (32 - n.prefixLength)
  | .v6 _ => false

/-- The IPv4 address of `::ffff:a.b.c.d`. -/
def ipv4Mapped : IpAddress → Option IpAddress
  | .v4 _ => none
  | .v6 ip => if ip >>> 32 = 0xffff then some (.v4 (ip.setWidth 32)) else none

example : ipAddress "169.254.169.254".toList = some (.v4 0xa9fea9fe) := by decide

example : ipAddress "::ffff:127.0.0.1%eth0".toList = some (.v6 0xffff7f000001) := by decide

end Grabatus.Python
