import KeyedComposite.Failure

/-! # Element ids of a composite

The builder names its elements by fixed ids and by six families indexed by an interval or
track number: `hoodie_NN`, `texture_NN`, `chroma_NN`, `alpha_NN` (the number at least two
digits wide, a minus sign counted in the width), `mixN` and `qtblendN`.

An interval without a texture is filled with a palette colour, chosen by the remainder of
its index by ten, cut toward zero; a negative remainder names no colour.
-/
namespace KeyedComposite.Ids

def mainBin : String := "main_bin"
def black : String := "black"
def background : String := "background"
def textures : String := "playlist0"
def keyed : String := "playlist1"
def tractor : String := "tractor0"

def hoodie (i : Int) : String := "hoodie_" ++ padded 2 i

def texture (i : Int) : String := "texture_" ++ padded 2 i

def chroma (i : Int) : String := "chroma_" ++ padded 2 i

def alpha (i : Int) : String := "alpha_" ++ padded 2 i

def mix (track : Int) : String := "mix" ++ decimal track

def blend (track : Int) : String := "qtblend" ++ decimal track

def palette : List String :=
  ["#ff0000", "#00ff00", "#0000ff", "#ff00ff", "#ffff00",
   "#00ffff", "#ff8800", "#8800ff", "#ff0088", "#0088ff"]

def paletteAt (i : Nat) : String := palette.getD (i % 10) ""

/-- The stand-in colour of interval `i`: the palette entry at `i` modulo ten, the remainder
cut toward zero, so that a negative remainder names no entry. -/
def fallbackColor (i : Int) : Except Fault String :=
  let r := Int.tmod i 10
  if r < 0 then .error (.indexOutOfRange r) else .ok (paletteAt r.toNat)

end KeyedComposite.Ids
