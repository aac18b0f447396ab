/-! # Sorted tables of code point ranges

A character class from a standard is a sorted array of disjoint closed ranges of code
points. A table is stored as text, `"20-7E A1-AC …"` in hexadecimal, and read once into
an array; membership is a lower-bound binary search with a fuel of `log₂ size + 1` steps,
which is enough for any array of that size.
-/
namespace KeyedComposite.RangeTable

def hexValue (c : Char) : Nat :=
  if '0' ≤ c ∧ c ≤ '9' then c.toNat - '0'.toNat
  else if 'A' ≤ c ∧ c ≤ 'F' then c.toNat - 'A'.toNat + 10
  else if 'a' ≤ c ∧ c ≤ 'f' then c.toNat - 'a'.toNat + 10
  else 0

def hexNumber (s : String) : Nat := s.toList.foldl (fun n c => 16 * n + hexValue c) 0

def parseRange (item : String) : Nat × Nat :=
  match item.splitOn "-" with
  | [lo, hi] => (hexNumber lo, hexNumber hi)
  | [one] => (hexNumber one, hexNumber one)
  | _ => (1, 0)

def parse (text : String) : Array (Nat × Nat) :=
  ((text.splitOn " ").filter (· ≠ "")).map parseRange |>.toArray

def lowerBound (table : Array (Nat × Nat)) (c : Nat) : Nat → Nat → Nat → Nat
  | 0, lo, _ => lo
  | fuel + 1, lo, hi =>
    if lo < hi then
      let mid := lo + (hi - lo) / 2
      match table[mid]? with
      | some (_, top) =>
        if top < c then lowerBound table c fuel (mid + 1) hi else lowerBound table c fuel lo mid
      | none => lo
    else lo

def mem (table : Array (Nat × Nat)) (c : Nat) : Bool :=
  match table[lowerBound table c (Nat.log2 table.size + 1) 0 table.size]? with
  | some (bottom, top) => bottom ≤ c ∧ c ≤ top
  | none => false

def lookup (table : Array (Nat × Nat × Nat)) (c : Nat) : Option Nat :=
  let bounds := table.map (fun (lo, hi, _) => (lo, hi))
  match table[lowerBound bounds c (Nat.log2 table.size + 1) 0 table.size]? with
  | some (bottom, top, v) => if bottom ≤ c ∧ c ≤ top then some v else none
  | none => none

end KeyedComposite.RangeTable
