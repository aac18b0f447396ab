import KeyedComposite.Numeric.Word

/-! # Digits in groups of three

`grouped` writes an integer in decimal with a comma between each group of three digits,
counted from the right, and a minus sign in front of a negative one.
-/
namespace KeyedComposite

/-- The digit groups of a natural number, most significant first; all but the first have
three digits. -/
def digitGroups (n : Nat) : List String :=
  if h : n < 1000 then [natDigits n]
  else
    have : n / 1000 < n := Nat.div_lt_self (by omega) (by decide)
    digitGroups (n / 1000) ++ [padLeft 3 '0' (natDigits (n % 1000))]
termination_by n

def grouped (i : Int) : String :=
  (if i < 0 then "-" else "") ++ ",".intercalate (digitGroups i.natAbs)

end KeyedComposite
