/-! # IPv6 address literals

An IPv6 address is written as groups of one to four hexadecimal digits separated by
colons, sixteen bytes in all. One `::` may stand for a run of zero groups, and must stand
for at least one; the last four bytes may be written as a dotted IPv4 address, whose
four parts are decimal numbers up to 255 without leading zeros. After the address, `%`
and a non-empty zone name may follow.

`isLiteral` is the test for the inside of the brackets of a URL host: an IPv6 address,
with a zone or not. Text whose first `.`, `:` or `%` is a point names an IPv4 address
or nothing, and is refused.
-/
namespace KeyedComposite.Ipv6

def isDigit (b : UInt8) : Bool := 48 ≤ b && b ≤ 57

def isHex (b : UInt8) : Bool := isDigit b || (97 ≤ b && b ≤ 102) || (65 ≤ b && b ≤ 70)

def ofAscii (s : String) : List UInt8 := s.toList.map fun c => c.toNat.toUInt8

def parts (sep : UInt8) (s : List UInt8) : List (List UInt8) :=
  s.splitOn sep

/-- Whether a text is a dotted IPv4 address: four decimal parts, each up to 255 and with
no leading zero. -/
def isDottedQuad (s : List UInt8) : Bool :=
  let ps := parts 46 s
  ps.length = 4 && ps.all fun p =>
    !p.isEmpty && p.all isDigit && (p.length = 1 || p.head? ≠ some 48) &&
      p.foldl (fun n b => 10 * n + (b.toNat - 48)) 0 ≤ 255

/-- Where the reading of an address stands between two bytes. -/
inductive Spot where
  /-- Inside a group, after this many of its digits. -/
  | group (digits : Nat)
  /-- Right after the colon that ends a group. -/
  | colon
  /-- Right after a `::`. -/
  | gap
  deriving DecidableEq

/-- Reads the groups of an address, a byte at a time: `filled` bytes so far, whether a
`::` was met, where the reading stands, and the text from the current group's start. The
result is the bytes filled and whether a `::` stands among them, or `none` when the text
is no address. -/
def groups : List UInt8 → Nat → Bool → Spot → List UInt8 → Option (Nat × Bool)
  | [], filled, gap, .group digits, _ => if digits = 0 then none else some (filled + 2, gap)
  | [], _, _, .colon, _ => none
  | [], filled, _, .gap, _ => some (filled, true)
  | b :: rest, filled, gap, .group digits, start =>
    if isHex b then
      if digits = 4 then none else groups rest filled gap (.group (digits + 1)) start
    else if b = 46 then
      if digits ≠ 0 && (gap || filled = 12) && filled + 4 ≤ 16 && isDottedQuad start then
        some (filled + 4, gap)
      else none
    else if b = 58 && digits ≠ 0 then groups rest (filled + 2) gap .colon start
    else none
  | b :: rest, filled, gap, .colon, start =>
    if b = 58 then (if gap then none else groups rest filled true .gap start)
    else if isHex b && filled < 16 then groups rest filled gap (.group 1) (b :: rest)
    else none
  | b :: rest, filled, gap, .gap, _ =>
    if isHex b && filled < 16 then groups rest filled gap (.group 1) (b :: rest) else none

def isAddress (s : List UInt8) : Bool :=
  let address := s.takeWhile (· ≠ 37)
  let zone := s.drop address.length
  if zone = [37] then false
  else
    let counted := match address with
      | 58 :: 58 :: rest => groups rest 0 true .gap rest
      | _ => groups address 0 false (.group 0) address
    match counted with
    | some (filled, gap) => if gap then filled < 16 else filled = 16
    | none => false

/-- Whether the inside of a URL host's brackets is an IPv6 literal: its first `.`, `:`
or `%` is a colon, and it is an IPv6 address. -/
def isLiteral (s : List UInt8) : Bool :=
  match s.find? fun b => b = 46 || b = 58 || b = 37 with
  | some 58 => isAddress s
  | _ => false

end KeyedComposite.Ipv6
