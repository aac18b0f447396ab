import KeyedComposite.Text.Printable
import KeyedComposite.Text.Utf8

/-! # Quoted text

`quote s` writes `s` between double quotes so that it can be read back unambiguously:
the quote and the backslash get a backslash; printable characters stand as themselves;
the seven C escapes `\a \b \f \n \r \t \v` are used where they apply; other control
characters below U+0020 and U+007F become `\xHH`; any other character becomes `\uHHHH`, or
`\UHHHHHHHH` above U+FFFF, in lower-case hexadecimal.

`quoteBytes` quotes a byte string that need not be well-formed UTF-8: each well-formed
sequence is one character as above, and each byte that starts none is written `\xHH`.
-/
namespace KeyedComposite.Quoted

def hexDigit (n : Nat) : Char := "0123456789abcdef".toList.getD n '0'

def hexWidth (w n : Nat) : List Char :=
  (List.range w).reverse.map (fun i => hexDigit ((n / Nat.pow 16 i) % 16))

def escapeChar (c : Char) : List Char :=
  if c = '"' ∨ c = '\\' then ['\\', c]
  else if Printable.isPrintable c then [c]
  else match c.toNat with
    | 7 => ['\\', 'a']
    | 8 => ['\\', 'b']
    | 12 => ['\\', 'f']
    | 10 => ['\\', 'n']
    | 13 => ['\\', 'r']
    | 9 => ['\\', 't']
    | 11 => ['\\', 'v']
    | n =>
      if n < 0x20 ∨ n = 0x7F then ['\\', 'x'] ++ hexWidth 2 n
      else if n < 0x10000 then ['\\', 'u'] ++ hexWidth 4 n
      else ['\\', 'U'] ++ hexWidth 8 n

def quote (s : String) : String :=
  String.ofList ('"' :: s.toList.flatMap escapeChar ++ ['"'])

/-- A character between single quotes, escaped as inside `quote` except that the single
quote gets the backslash and the double quote does not. -/
def quoteChar (c : Char) : String :=
  let body := if c = '\'' then ['\\', '\''] else if c = '"' then ['"'] else escapeChar c
  String.ofList ('\'' :: body ++ ['\''])

def escapeBytes : Nat → List UInt8 → List Char
  | 0, _ => []
  | _, [] => []
  | fuel + 1, b :: rest =>
    match Utf8.decodeFirst (b :: rest) with
    | some (c, n) => escapeChar c ++ escapeBytes fuel ((b :: rest).drop n)
    | none => ['\\', 'x'] ++ hexWidth 2 b.toNat ++ escapeBytes fuel rest

def quoteBytes (bs : List UInt8) : String :=
  String.ofList ('"' :: escapeBytes bs.length bs ++ ['"'])

end KeyedComposite.Quoted
