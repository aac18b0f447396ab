import KeyedComposite.Keying.Modes

/-! # Keying parameters

The parameters of the two filters on every keyed clip. The select filter takes ten
positional properties: the key colour's three fractions, the invert flag as `0` or `1`,
the hue, chroma and intensity tolerances, the edge slope, and the four modes as numbers.
The alpha filter takes the alpha mode, and the alpha amount twice (threshold and amount).
Only the key colour is ever checked.
-/
namespace KeyedComposite.Keying

structure Params where
  keyColor : String
  invert : Bool
  deltaH : Float
  deltaC : Float
  deltaI : Float
  slope : Float
  colorspace : Float
  shape : Float
  edge : Float
  operation : Float
  alphaMode : Float
  alphaAmount : Float

def Params.standard : Params :=
  { keyColor := "#505191", invert := false, deltaH := 0.5, deltaC := 0.5, deltaI := 0.6,
    slope := 0.1, colorspace := 1, shape := 0.5, edge := 0.7, operation := 0.5,
    alphaMode := 0.4, alphaAmount := 0.3 }

def Params.zero : Params :=
  { keyColor := "", invert := false, deltaH := 0, deltaC := 0, deltaI := 0, slope := 0,
    colorspace := 0, shape := 0, edge := 0, operation := 0, alphaMode := 0, alphaAmount := 0 }

def Params.validate (p : Params) : Except ColorError Unit := do
  let _ ← frei0rColor p.keyColor
  return ()

abbrev Property := String × String

def Params.selectProperties (p : Params) : Except ColorError (List Property) := do
  let color ← frei0rColor p.keyColor
  return [("0", color), ("1", if p.invert then "1" else "0"), ("2", valueText p.deltaH),
    ("3", valueText p.deltaC), ("4", valueText p.deltaI), ("5", valueText p.slope),
    ("6", valueText p.colorspace), ("7", valueText p.shape), ("8", valueText p.edge),
    ("9", valueText p.operation)]

def Params.alphaProperties (p : Params) : List Property :=
  [("2", valueText p.alphaMode), ("3", valueText p.alphaAmount), ("4", valueText p.alphaAmount)]

end KeyedComposite.Keying
