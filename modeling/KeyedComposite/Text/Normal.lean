import KeyedComposite.Text.NormalTable

/-! # Canonical composition (NFC)

Two texts are canonically equivalent when they differ only in how accented letters and
other composable characters are spelled: precomposed, or as a base followed by combining
marks in any order that keeps marks of one combining class in place. `nfc` gives every
text its composed normal form, so that equivalent texts become equal:

1. each character is replaced by its full canonical decomposition (a Hangul syllable by
   its jamo);
2. each run of combining marks is sorted, stably, by combining class;
3. each character is joined to the last starter before it when the two have a primary
   composite and nothing between them blocks the pair: a character of class zero, or one
   of a class not below its own, blocks; with nothing between them, two starters may
   join too.

Before all this, a combining grapheme joiner is put into every run of more than thirty
non-starters, after each thirty, so that the work on a run stays bounded.
-/
namespace KeyedComposite.Normal

def findKey {α : Type} (table : Array (Nat × α)) (k : Nat) : Nat → Nat → Nat → Option α
  | 0, _, _ => none
  | fuel + 1, lo, hi =>
    if lo < hi then
      let mid := lo + (hi - lo) / 2
      match table[mid]? with
      | some (key, v) =>
        if key = k then some v
        else if key < k then findKey table k fuel (mid + 1) hi
        else findKey table k fuel lo mid
      | none => none
    else none

def lookupKey {α : Type} (table : Array (Nat × α)) (k : Nat) : Option α :=
  findKey table k (Nat.log2 table.size + 2) 0 table.size

def pairKey (a b : Nat) : Nat := a * 0x110000 + b

def compositions : Array (Nat × Nat) :=
  let entries := decompositions.toList.filterMap fun (c, parts) =>
    match parts with
    | [a, b] => if RangeTable.mem exclusions c then none else some (pairKey a b, c)
    | _ => none
  (entries.mergeSort (fun x y => x.1 ≤ y.1)).toArray

def hangulBase : Nat := 0xAC00
def leadBase : Nat := 0x1100
def vowelBase : Nat := 0x1161
def trailBase : Nat := 0x11A7
def leadCount : Nat := 19
def vowelCount : Nat := 21
def trailCount : Nat := 28
def hangulCount : Nat := 11172

def combiningClass (c : Nat) : Nat := (RangeTable.lookup combiningClasses c).getD 0

def decomposeStep (c : Nat) : Option (List Nat) :=
  if hangulBase ≤ c ∧ c < hangulBase + hangulCount then
    let s := c - hangulBase
    let lead := leadBase + s / (vowelCount * trailCount)
    let vowel := vowelBase + (s % (vowelCount * trailCount)) / trailCount
    let trail := s % trailCount
    some (if trail = 0 then [lead, vowel] else [lead, vowel, trailBase + trail])
  else lookupKey decompositions c

def decompose : Nat → Nat → List Nat
  | 0, c => [c]
  | fuel + 1, c =>
    match decomposeStep c with
    | some parts => parts.flatMap (decompose fuel)
    | none => [c]

def reorderWith (run : List (Nat × Nat)) : List (Nat × Nat) → List (Nat × Nat)
  | [] => run.mergeSort (fun x y => x.2 ≤ y.2)
  | (c, k) :: rest =>
    if k = 0 then run.mergeSort (fun x y => x.2 ≤ y.2) ++ (c, k) :: reorderWith [] rest
    else reorderWith (run ++ [(c, k)]) rest

def compose (a b : Nat) : Option Nat :=
  if leadBase ≤ a ∧ a < leadBase + leadCount ∧ vowelBase ≤ b ∧ b < vowelBase + vowelCount then
    some (hangulBase + ((a - leadBase) * vowelCount + (b - vowelBase)) * trailCount)
  else if hangulBase ≤ a ∧ a < hangulBase + hangulCount ∧ (a - hangulBase) % trailCount = 0 ∧
      trailBase < b ∧ b < trailBase + trailCount then
    some (a + (b - trailBase))
  else lookupKey compositions (pairKey a b)

/-- The state of composition: the finished part (reversed), the last starter, the
characters after it (reversed) and the class of the last of them. -/
structure Composer where
  finished : List Nat := []
  starter : Option Nat := none
  after : List Nat := []
  lastClass : Nat := 0

namespace Composer

def push (st : Composer) (c k : Nat) : Composer :=
  if k = 0 then
    { finished := st.after ++ (st.starter.toList ++ st.finished), starter := some c, after := [],
      lastClass := 0 }
  else { st with after := c :: st.after, lastClass := k }

def step (st : Composer) (c k : Nat) : Composer :=
  match st.starter with
  | some s =>
    if st.after.isEmpty ∨ st.lastClass < k then
      match compose s c with
      | some p => { st with starter := some p }
      | none => st.push c k
    else st.push c k
  | none => st.push c k

def result (st : Composer) : List Nat :=
  (st.after ++ (st.starter.toList ++ st.finished)).reverse

end Composer

/-- Characters of class zero that join a starter before them: the second halves of
primary composites, and the Hangul vowel and trailing jamo. -/
def backwardStarters : Array (Nat × Unit) :=
  let seconds := compositions.toList.filterMap fun (key, _) =>
    if combiningClass (key % 0x110000) = 0 then some (key % 0x110000) else none
  ((seconds.mergeSort (· ≤ ·)).eraseDups.map fun c => (c, ())).toArray

/-- Whether a character counts as a non-starter in a run: it has a nonzero class or
joins the starter before it. -/
def isNonStarter (c : Nat) : Bool :=
  combiningClass c ≠ 0 ∨ (vowelBase ≤ c ∧ c < vowelBase + vowelCount) ∨
    (trailBase < c ∧ c < trailBase + trailCount) ∨ (lookupKey backwardStarters c).isSome

def nonStarters (c : Nat) : Nat × Nat :=
  let d := decompose 8 c
  ((d.takeWhile isNonStarter).length, (d.reverse.takeWhile isNonStarter).length)

def maxNonStarters : Nat := 30

def graphemeJoiner : Nat := 0x34F

/-- The text with a grapheme joiner before each character that would make a run of more
than `maxNonStarters` non-starters; the run then starts again with that character. A
character that begins with no non-starter starts a run of those that end it. -/
def streamSafe (cs : List Nat) : List Nat :=
  let step (acc : List Nat × Nat) (c : Nat) : List Nat × Nat :=
    let (lead, trail) := nonStarters c
    if acc.2 + lead > maxNonStarters then (c :: graphemeJoiner :: acc.1, lead)
    else if lead = 0 then (c :: acc.1, trail)
    else (c :: acc.1, acc.2 + lead)
  (cs.foldl step ([], 0)).1.reverse

/-- The composed normal form of a text. Runs of non-starters are first cut by grapheme
joiners after at most `maxNonStarters` of them, so that no mark moves or joins across
more than that many others. -/
def nfc (s : String) : String :=
  let decomposed := (streamSafe (s.toList.map Char.toNat)).flatMap (decompose 8)
  let ordered := reorderWith [] (decomposed.map fun c => (c, combiningClass c))
  let composed := (ordered.foldl (fun (st : Composer) (c, k) => st.step c k) {}).result
  String.ofList (composed.map Char.ofNat)


end KeyedComposite.Normal
