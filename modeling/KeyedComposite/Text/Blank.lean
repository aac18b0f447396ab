/-! # Blank characters and trimming

A blank is a character with the Unicode `White_Space` property: tab, line feed, vertical
tab, form feed, carriage return, space, U+0085, U+00A0, U+1680, U+2000 to U+200A,
U+2028, U+2029, U+202F, U+205F and U+3000. `trim` drops blanks at both ends of a text.
-/
namespace KeyedComposite.Blank

def isBlank (c : Char) : Bool :=
  let n := c.toNat
  (9 ≤ n ∧ n ≤ 13) || n == 32 || n == 0x85 || n == 0xA0 || n == 0x1680 ||
    (0x2000 ≤ n ∧ n ≤ 0x200A) || n == 0x2028 || n == 0x2029 || n == 0x202F ||
    n == 0x205F || n == 0x3000

def dropEnd (p : Char → Bool) (cs : List Char) : List Char :=
  (cs.reverse.dropWhile p).reverse

def trim (s : String) : String := String.ofList (dropEnd isBlank (s.toList.dropWhile isBlank))

def trimEnd (p : Char → Bool) (s : String) : String := String.ofList (dropEnd p s.toList)

def cut (s sep : String) : Option (String × String) :=
  match s.splitOn sep with
  | [] | [_] => none
  | first :: rest => some (first, sep.intercalate rest)

theorem dropEnd_nil (p : Char → Bool) : dropEnd p [] = [] := rfl

end KeyedComposite.Blank
