import KeyedComposite.Toml.Document
import KeyedComposite.Text.Printable

/-! # Reading TOML text

`Toml.read` reads a document expression by expression and stops at the first syntax
error, returning the expressions read before it. Each expression stands on a line of its
own, after blanks, and may be followed by blanks and a comment; the newline between two
expressions is `\n` or `\r\n`.

The value grammar is TOML 1.0, with the escape `\e` for the escape character: basic
strings with escapes, literal strings, their multi-line forms (a newline right after the
opening delimiter is dropped, and a line-ending backslash joins lines), `true`, `false`,
arrays (commas between items, one trailing comma allowed, comments and newlines anywhere
between items), inline tables, numbers and date-times. Numbers and date-times are cut out as tokens here and read only
when a value is stored: a token starting `0x`, `0o` or `0b` takes the digits of its base;
any other token starting with `0` and more text is the single digit `0`; otherwise a
number runs over digits, signs, underscores, points and exponent marks, possibly ending
in `inf` or `nan`. A token whose third character is `:` or fifth is `-` is a date-time.

Characters are named in messages by the first byte of their UTF-8 form.
-/
namespace KeyedComposite.Toml

abbrev Chars := List Char

/-- Why a text is not a TOML document. -/
structure SyntaxError where
  message : String
  deriving Repr

def fail (msg : String) : Except SyntaxError α := .error ⟨msg⟩

/-! ## Characters -/

def leadByte (c : Char) : Nat :=
  let n := c.toNat
  if n < 0x80 then n
  else if n < 0x800 then 0xC0 + n / 64
  else if n < 0x10000 then 0xE0 + n / 4096
  else 0xF0 + n / 262144

def byteText (c : Char) : String := String.singleton (Char.ofNat (leadByte c))

def byteCode (c : Char) : String :=
  let b := leadByte c
  let digits := (Nat.toDigits 16 b).map Char.toUpper
  "U+" ++ String.ofList (List.replicate (4 - digits.length) '0' ++ digits) ++
    (if Printable.isPrintable (Char.ofNat b) then " '" ++ byteText c ++ "'" else "")

/-- Characters allowed in comments and strings without escape: the tab, printable ASCII
and everything beyond ASCII. -/
def isSafe (c : Char) : Bool := c = '\t' || (0x20 ≤ c.toNat && c.toNat ≠ 0x7F)

def isBlank (c : Char) : Bool := c = ' ' || c = '\t'

def skipBlanks (cs : Chars) : Chars := cs.dropWhile isBlank

def isBareKeyChar (c : Char) : Bool := c.isAlphanum || c = '-' || c = '_'

def isDigit (c : Char) : Bool := '0' ≤ c && c ≤ '9'

def isHexDigit (c : Char) : Bool := isDigit c || ('a' ≤ c && c ≤ 'f') || ('A' ≤ c && c ≤ 'F')

def hexValue (c : Char) : Nat :=
  if isDigit c then c.toNat - 48 else if 'a' ≤ c ∧ c ≤ 'f' then c.toNat - 87 else c.toNat - 55

/-! ## Blanks, comments, newlines -/

def comment : Chars → Except SyntaxError Chars
  | [] => .ok []
  | '\n' :: r => .ok ('\n' :: r)
  | '\r' :: '\n' :: r => .ok ('\n' :: r)
  | c :: r => if isSafe c then comment r else fail "invalid character in comment"

def newline : Chars → Except SyntaxError Chars
  | '\n' :: r => .ok r
  | ['\r'] => fail "windows new line expected"
  | '\r' :: '\n' :: r => .ok r
  | '\r' :: _ => fail "windows new line should be \\r\\n"
  | c :: _ => fail ("expected newline but got " ++ byteCode c)
  | [] => .ok []

def gap : Nat → Chars → Except SyntaxError Chars
  | 0, cs => .ok cs
  | fuel + 1, cs => do
    let cs := skipBlanks cs
    let cs ← match cs with
      | '#' :: r => comment r
      | _ => pure cs
    match cs with
    | '\n' :: _ | '\r' :: _ => gap fuel (← newline cs)
    | _ => pure cs

def expect (x : Char) : Chars → Except SyntaxError Chars
  | [] => fail ("expected character " ++ String.singleton x ++ " but the document ended here")
  | c :: r => if c = x then .ok r else fail ("expected character " ++ String.singleton x)

/-! ## Strings -/

def byteLength (cs : Chars) : Nat := cs.foldl (fun n c => n + c.utf8Size) 0

/-- The code point of a `\u` or `\U` escape: `width` hexadecimal digits from `avail`,
which holds the rest of the string (with the closing delimiter of a multi-line string).
Too short a rest is measured in bytes. -/
def escapeCode (width : Nat) (avail : Chars) : Except SyntaxError Char :=
  if byteLength avail < width then
    fail ("unicode point needs " ++ toString width ++ " character, not " ++
      toString (byteLength avail))
  else
    let ds := avail.take width
    if !ds.all isHexDigit then fail "non-hex character"
    else
      let v := ds.foldl (fun n c => 16 * n + hexValue c) 0
      if v > 0x10FFFF ∨ (0xD800 ≤ v ∧ v < 0xE000) then
        fail "escape sequence is invalid Unicode code point"
      else .ok (Char.ofNat v)

/-- Whether a character may stand unescaped in a string; multi-line strings also allow
line breaks. -/
def plainAllowed (multiline : Bool) (c : Char) : Bool :=
  isSafe c || (multiline && (c = '\n' || c = '\r'))

def endsLine : Chars → Bool
  | [] => false
  | ' ' :: r | '\t' :: r => endsLine r
  | '\n' :: _ => true
  | '\r' :: '\n' :: _ => true
  | _ => false

/-- The decoded content of a basic string with escapes; `multiline` allows line breaks
and line-ending backslashes. -/
def unescape (multiline : Bool) : Nat → Chars → Chars → Except SyntaxError Chars
  | 0, _, acc => .ok acc.reverse
  | _ + 1, [], acc => .ok acc.reverse
  | fuel + 1, '\\' :: r, acc =>
    if multiline && endsLine r then
      unescape multiline fuel (r.dropWhile fun c => c = ' ' || c = '\t' || c = '\n' || c = '\r') acc
    else match r with
      | [] => .ok acc.reverse
      | c :: r' =>
        match c with
        | '"' => unescape multiline fuel r' ('"' :: acc)
        | '\\' => unescape multiline fuel r' ('\\' :: acc)
        | 'b' => unescape multiline fuel r' ('\x08' :: acc)
        | 'e' => unescape multiline fuel r' ('\x1b' :: acc)
        | 'f' => unescape multiline fuel r' ('\x0c' :: acc)
        | 'n' => unescape multiline fuel r' ('\n' :: acc)
        | 'r' => unescape multiline fuel r' ('\r' :: acc)
        | 't' => unescape multiline fuel r' ('\t' :: acc)
        | 'u' => do
          let x ← escapeCode 4 (r' ++ closing)
          unescape multiline fuel (r'.drop 4) (x :: acc)
        | 'U' => do
          let x ← escapeCode 8 (r' ++ closing)
          unescape multiline fuel (r'.drop 8) (x :: acc)
        | c => fail ("invalid escaped character " ++ byteCode c)
  | fuel + 1, c :: r, acc =>
    if plainAllowed multiline c then unescape multiline fuel r (c :: acc)
    else fail ("invalid character " ++ byteCode c)
where
  closing : Chars := if multiline then ['"', '"', '"'] else []

def decodeBody (multiline escaped : Bool) (body : Chars) : Except SyntaxError String :=
  if escaped then (unescape multiline (body.length + 1) body []).map String.ofList
  else if body.all (plainAllowed multiline) then .ok (String.ofList body)
  else fail "invalid UTF-8"

/-- A basic string after its opening quote: the raw body, whether it has escapes, and
the rest after the closing quote. -/
def scanBasic : Chars → Chars → Bool → Except SyntaxError (Chars × Bool × Chars)
  | [], _, _ => fail "basic string not terminated by \""
  | '"' :: r, acc, esc => .ok (acc.reverse, esc, r)
  | '\n' :: _, _, _ => fail "basic strings cannot have new lines"
  | '\r' :: _, _, _ => fail "basic strings cannot have new lines"
  | ['\\'], _, _ => fail "need a character after \\"
  | '\\' :: c :: r, acc, _ => scanBasic r (c :: '\\' :: acc) true
  | c :: r, acc, esc => scanBasic r (c :: acc) esc

def scanLiteral : Chars → Chars → Except SyntaxError (Chars × Chars)
  | [], _ => fail "unterminated literal string"
  | '\'' :: r, acc => .ok (acc.reverse, r)
  | '\n' :: _, _ => fail "literal strings cannot have new lines"
  | '\r' :: _, _ => fail "literal strings cannot have new lines"
  | c :: r, acc => if isSafe c then scanLiteral r (c :: acc) else fail "invalid character"

/-- The body of a multi-line string closed by three `q`, up to two more `q` belonging to
the body; `escapes` says whether a backslash escapes the next character. -/
def scanMultiline (q : Char) (escapes : Bool) : Chars → Chars → Bool →
    Except SyntaxError (Chars × Bool × Chars)
  | [], _, _ =>
    fail ("multiline " ++ (if escapes then "basic" else "literal") ++ " string not terminated by " ++
      String.ofList [q, q, q])
  | c :: r, acc, esc =>
    if c = q ∧ r.take 2 = [q, q] then
      let after := r.drop 2
      match after with
      | d :: after' =>
        if d ≠ q then .ok (acc.reverse, esc, after)
        else match after' with
          | e :: after'' =>
            if e ≠ q then .ok ((q :: acc).reverse, esc, after')
            else if after''.head? = some q then
              fail (String.ofList [q, q, q] ++ " not allowed in multiline " ++
                (if escapes then "basic" else "literal") ++ " string")
            else .ok ((q :: q :: acc).reverse, esc, after'')
          | [] => .ok ((q :: acc).reverse, esc, [])
      | [] => .ok (acc.reverse, esc, [])
    else if escapes ∧ c = '\\' then
      match r with
      | d :: r' => scanMultiline q escapes r' (d :: c :: acc) true
      | [] => fail "need a character after \\"
    else if c = '\r' then
      match r with
      | '\n' :: r' => scanMultiline q escapes r' ('\n' :: '\r' :: acc) esc
      | _ => fail "need a \\n after \\r"
    else if escapes ∨ c = '\n' ∨ isSafe c then scanMultiline q escapes r (c :: acc) esc
    else fail "invalid character"

def dropFirstNewline : Chars → Chars
  | '\n' :: r => r
  | '\r' :: '\n' :: r => r
  | cs => cs

def stringValue (quote : Char) (cs : Chars) : Except SyntaxError (String × Chars) :=
  if quote = '"' then
    if cs.take 2 = ['"', '"'] then do
      let (body, esc, rest) ← scanMultiline '"' true (cs.drop 2) [] false
      return (← decodeBody true esc (dropFirstNewline body), rest)
    else do
      let (body, esc, rest) ← scanBasic cs [] false
      return (← decodeBody false esc body, rest)
  else
    if cs.take 2 = ['\'', '\''] then do
      let (body, _, rest) ← scanMultiline '\'' false (cs.drop 2) [] false
      return (String.ofList (dropFirstNewline body), rest)
    else do
      let (body, rest) ← scanLiteral cs []
      return (String.ofList body, rest)

/-! ## Keys -/

def simpleKey : Chars → Except SyntaxError (String × Chars)
  | [] => fail "expected key but found none"
  | '\'' :: r => do
    let (body, rest) ← scanLiteral r []
    return (String.ofList body, rest)
  | '"' :: r => do
    let (body, esc, rest) ← scanBasic r [] false
    return (← decodeBody false esc body, rest)
  | c :: r =>
    if isBareKeyChar c then
      let run := r.takeWhile isBareKeyChar
      .ok (String.ofList (c :: run), r.drop run.length)
    else fail ("invalid character at start of key: " ++ byteText c)

def keyRest : Nat → Chars → List String → Except SyntaxError (List String × Chars)
  | 0, cs, acc => .ok (acc.reverse, cs)
  | fuel + 1, cs, acc =>
    match skipBlanks cs with
    | '.' :: r => do
      let (k, rest) ← simpleKey (skipBlanks r)
      keyRest fuel rest (k :: acc)
    | cs => .ok (acc.reverse, cs)

def key (cs : Chars) : Except SyntaxError (List String × Chars) := do
  let (k, rest) ← simpleKey cs
  keyRest (rest.length + 1) rest [k]

/-! ## Numbers and dates -/

def follows (word : String) (cs : Chars) : Bool := word.toList.isPrefixOf cs

/-- A date-time token: digits and `T t : . + - Z z`, with at most one blank followed by a
digit; its form by what it holds. -/
def dateTimeToken (cs : Chars) : Value × Chars :=
  let rec go : Nat → Chars → Chars → Bool → Bool → Bool → Bool → Value × Chars
    | 0, acc, rest, d, t, z, _ => (finish acc d t z, rest)
    | fuel + 1, acc, rest, d, t, z, sp =>
      match rest with
      | c :: r =>
        if isDigit c then go fuel (c :: acc) r d t z sp
        else if c = '-' then go fuel (c :: acc) r true t (z || acc.length ≥ 8) sp
        else if c = 'T' || c = 't' || c = ':' || c = '.' then go fuel (c :: acc) r d true z sp
        else if c = '+' || c = 'Z' || c = 'z' then go fuel (c :: acc) r d t true sp
        else if c = ' ' && !sp && (r.head?.map isDigit).getD false then
          match r with
          | x :: y :: r' => go fuel (y :: x :: c :: acc) r' d true z true
          | [x] => (finish (x :: c :: acc) d true z, [])
          | [] => (finish acc d t z, rest)
        else (finish acc d t z, rest)
      | [] => (finish acc d t z, [])
  go (cs.length + 1) [] cs false false false false
where
  finish (acc : Chars) (d t z : Bool) : Value :=
    let form := if t then (if d then (if z then TimeForm.offsetDateTime else .localDateTime)
      else .localTime) else .localDate
    .dateTime form (String.ofList acc.reverse)

/-- A number token, integer or float. -/
def numberToken (cs : Chars) : Except SyntaxError (Value × Chars) :=
  match cs with
  | '0' :: b :: _ :: _ =>
    if b = '.' ∨ b = 'e' ∨ b = 'E' then general
    else
      let valid : Option (Char → Bool) :=
        if b = 'x' then some fun c => isHexDigit c || c = '_'
        else if b = 'o' then some fun c => ('0' ≤ c && c ≤ '7') || c = '_'
        else if b = 'b' then some fun c => c = '0' || c = '1' || c = '_'
        else none
      match valid with
      | some p =>
        let run := (cs.drop 2).takeWhile p
        .ok (.integer (String.ofList (cs.take (2 + run.length))), cs.drop (2 + run.length))
      | none => .ok (.integer "0", cs.drop 1)
  | _ => general
where
  general : Except SyntaxError (Value × Chars) :=
    let rec go : Nat → Chars → Chars → Bool → Except SyntaxError (Value × Chars)
      | 0, acc, rest, isFloat => finish acc rest isFloat
      | fuel + 1, acc, rest, isFloat =>
        match rest with
        | c :: r =>
          if isDigit c || c = '+' || c = '-' || c = '_' then go fuel (c :: acc) r isFloat
          else if c = '.' || c = 'e' || c = 'E' then go fuel (c :: acc) r true
          else if c = 'i' then
            if follows "inf" rest then .ok (.float (String.ofList (acc.reverse ++ ['i', 'n', 'f'])), rest.drop 3)
            else fail "unexpected character 'i' while scanning for a number"
          else if c = 'n' then
            if follows "nan" rest then .ok (.float (String.ofList (acc.reverse ++ ['n', 'a', 'n'])), rest.drop 3)
            else fail "unexpected character 'n' while scanning for a number"
          else finish acc rest isFloat
        | [] => finish acc [] isFloat
    go (cs.length + 1) [] cs false
  finish (acc rest : Chars) (isFloat : Bool) : Except SyntaxError (Value × Chars) :=
    if acc = [] then fail "incomplete number"
    else
      let text := String.ofList acc.reverse
      .ok (if isFloat then .float text else .integer text, rest)

def numberOrDate (cs : Chars) : Except SyntaxError (Value × Chars) :=
  match cs with
  | 'i' :: _ => if follows "inf" cs then .ok (.float "inf", cs.drop 3) else fail "expected 'inf'"
  | 'n' :: _ => if follows "nan" cs then .ok (.float "nan", cs.drop 3) else fail "expected 'nan'"
  | '+' :: _ | '-' :: _ => numberToken cs
  | _ =>
    if cs.length < 3 then numberToken cs
    else
      let lead := cs.take 5
      let firstOther := (lead.zipIdx).find? fun (c, _) => !isDigit c
      match firstOther with
      | some (c, i) =>
        if (i = 2 ∧ c = ':') ∨ (i = 4 ∧ c = '-') then .ok (dateTimeToken cs) else numberToken cs
      | none => numberToken cs

/-! ## Values -/

mutual
/-- A value at the start of the text. -/
def value : Nat → Chars → Except SyntaxError (Value × Chars)
  | 0, _ => fail "expected value, not eof"
  | fuel + 1, cs =>
    match cs with
    | [] => fail "expected value, not eof"
    | '"' :: r => do
      let (s, rest) ← stringValue '"' r
      return (.string s, rest)
    | '\'' :: r => do
      let (s, rest) ← stringValue '\'' r
      return (.string s, rest)
    | 't' :: _ => if follows "true" cs then .ok (.bool true, cs.drop 4) else fail "expected 'true'"
    | 'f' :: _ => if follows "false" cs then .ok (.bool false, cs.drop 5) else fail "expected 'false'"
    | '[' :: r => arrayItems fuel r [] true
    | '{' :: r => tablePairs fuel r [] true
    | _ => numberOrDate cs

/-- The items of an array after its opening bracket. -/
def arrayItems : Nat → Chars → List Value → Bool → Except SyntaxError (Value × Chars)
  | 0, _, _, _ => fail "array is incomplete"
  | fuel + 1, cs, acc, first =>
    if cs.isEmpty then expectClose acc else do
    let cs ← gap (cs.length + 1) cs
    match cs with
    | [] => fail "array is incomplete"
    | ']' :: r => return (.array acc.reverse, r)
    | c :: r =>
      let cs ← if c = ',' then
          if first then fail "array cannot start with comma" else gap (r.length + 1) r
        else if !first then fail "array elements must be separated by commas"
        else pure cs
      match cs with
      | ']' :: r' => return (.array acc.reverse, r')
      | _ => do
        let (v, rest) ← value fuel cs
        let rest ← gap (rest.length + 1) rest
        arrayItems fuel rest (v :: acc) false

def expectClose (acc : List Value) : Except SyntaxError (Value × Chars) := do
  let rest ← expect ']' []
  return (.array acc.reverse, rest)

/-- The pairs of an inline table after its opening brace. -/
def tablePairs : Nat → Chars → List (List String × Value) → Bool →
    Except SyntaxError (Value × Chars)
  | 0, _, _, _ => fail "inline table is incomplete"
  | fuel + 1, cs, acc, first => do
    match cs with
    | [] => do
      let rest ← expect '}' []
      return (.inlineTable acc.reverse, rest)
    | _ =>
      match skipBlanks cs with
      | [] => fail "inline table is incomplete"
      | '}' :: r => return (.inlineTable acc.reverse, r)
      | cs' => do
        let cs' ← if first then pure cs' else (do
          let r ← expect ',' cs'
          pure (skipBlanks r))
        let (pair, rest) ← keyValue fuel cs'
        tablePairs fuel rest (pair :: acc) false

def keyValue : Nat → Chars → Except SyntaxError ((List String × Value) × Chars)
  | 0, _ => fail "expected key but found none"
  | fuel + 1, cs => do
    let (k, rest) ← key cs
    let rest := skipBlanks rest
    if rest.isEmpty then fail "expected = after a key, but the document ends there"
    let rest ← expect '=' rest
    let (v, rest) ← value fuel (skipBlanks rest)
    return ((k, v), rest)
end

/-! ## Expressions -/

def header (cs : Chars) : Except SyntaxError (Expression × Chars) :=
  match cs with
  | '[' :: r => do
    let (k, rest) ← key (skipBlanks r)
    let rest ← expect ']' (skipBlanks rest)
    let rest ← expect ']' rest
    return (.arrayTable k, rest)
  | _ => do
    let (k, rest) ← key (skipBlanks cs)
    let rest ← expect ']' (skipBlanks rest)
    return (.table k, rest)

def expression (cs : Chars) : Except SyntaxError (Option Expression × Chars) := do
  let cs := skipBlanks cs
  match cs with
  | [] => return (none, [])
  | '#' :: r => return (none, ← comment r)
  | '\n' :: _ | '\r' :: _ => return (none, cs)
  | c :: r => do
    let (e, rest) ← if c = '[' then header r else do
      let ((k, v), rest) ← keyValue (cs.length + 1) cs
      pure (Expression.keyValue k v, rest)
    let rest := skipBlanks rest
    match rest with
    | '#' :: r' => return (some e, ← comment r')
    | _ => return (some e, rest)

/-- What was read of a document: the expressions before the first syntax error, and that
error if there is one. -/
structure Reading where
  expressions : List Expression
  failure : Option SyntaxError

def readLines : Nat → Chars → Bool → List Expression → Reading
  | 0, _, _, acc => ⟨acc.reverse, none⟩
  | fuel + 1, cs, first, acc =>
    if cs.isEmpty then ⟨acc.reverse, none⟩
    else
      let afterNewline := if first then .ok cs else newline cs
      match afterNewline with
      | .error e => ⟨acc.reverse, some e⟩
      | .ok cs =>
        if cs.isEmpty then ⟨acc.reverse, none⟩
        else match expression cs with
          | .error e => ⟨acc.reverse, some e⟩
          | .ok (some e, rest) => readLines fuel rest false (e :: acc)
          | .ok (none, rest) => readLines fuel rest false acc

def read (text : String) : Reading :=
  let cs := text.toList
  readLines (2 * cs.length + 2) cs true []

end KeyedComposite.Toml
