import KeyedComposite.Text.Quoted

/-! # Random identifiers

A run is named by a random UUID of version 4: sixteen random bytes, the high nibble of byte 6
set to the version 4 and the top two bits of byte 8 to the variant `10`, written as 32
lower-case hexadecimal digits in groups of 8, 4, 4, 4 and 12 joined by `-`. Every such text
is 36 characters long.
-/
namespace KeyedComposite.Uuid

def stamp (b : Vector UInt8 16) : Vector UInt8 16 :=
  (b.set 6 ((b[6] &&& 0x0f) ||| 0x40)).set 8 ((b[8] &&& 0x3f) ||| 0x80)

def hexBytes (bs : List UInt8) : List Char := bs.flatMap fun x => Quoted.hexWidth 2 x.toNat

def text (b : Vector UInt8 16) : String :=
  let group (i n : Nat) := hexBytes ((b.toList.drop i).take n)
  String.ofList
    (group 0 4 ++ '-' :: group 4 2 ++ '-' :: group 6 2 ++ '-' :: group 8 2 ++ '-' :: group 10 6)

def ofRandom (b : Vector UInt8 16) : String := text (stamp b)

theorem length_hexBytes (bs : List UInt8) : (hexBytes bs).length = 2 * bs.length := by
  induction bs with
  | nil => rfl
  | cons x xs ih => simp [hexBytes, Quoted.hexWidth] at *; omega

theorem length_text (b : Vector UInt8 16) : (text b).length = 36 := by
  have hb : b.toList.length = 16 := b.length_toList
  simp only [text, String.length_ofList, List.length_append, List.length_cons, length_hexBytes,
    List.length_take, List.length_drop, hb]
  decide

example : ofRandom (Vector.replicate 16 0xff) = "ffffffff-ffff-4fff-bfff-ffffffffffff" := by decide

end KeyedComposite.Uuid
