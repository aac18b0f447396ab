import KeyedComposite.Markup.NameChar
import KeyedComposite.Text.Utf8
import KeyedComposite.Text.Quoted
import KeyedComposite.Numeric.Word

/-! # Reading markup tokens

A markup text is read byte by byte from a `Cursor`, which also counts lines (a line ends
at each line feed). `token` reads the next token: a start tag with its attributes (and
whether it closes itself), an end tag, or something the element tree does not keep
(character data, a comment, a processing instruction, a declaration).

Reading is strict. Attribute values are quoted; names follow the name productions;
character data may hold the five predefined entities and character references, and
every character in it must be a markup character; `]]>` may not stand outside a
character-data section; an `xml` processing instruction may declare only version 1.0 and
the UTF-8 encoding. A carriage return in character data, alone or before a line feed,
reads as one line feed.

Each failure is a `ReadError`; a malformed text fails with the line where reading stopped.
-/
namespace KeyedComposite.Markup

/-- A name with its namespace part: as read, the part before the colon; once resolved,
the namespace that part stands for. -/
structure QName where
  space : String := ""
  localName : String
  deriving DecidableEq, Repr

/-- An attribute: its name and its value with references replaced. -/
structure Attr where
  name : QName
  value : String
  deriving DecidableEq, Repr

/-- What is wrong with a markup text where reading stops. -/
inductive Fault where
  | unexpectedEof
  | unexpectedEofInCdata
  | expectedElementName
  | expectedEndName
  | junkInEndTag (name : String)
  | expectedTarget
  | invalidName (name : String)
  | badCommentStart
  | doubleHyphen
  | badCdataStart
  | expectedTagEnd
  | expectedAttrName
  | missingEquals
  | unquotedValue
  | ltInQuoted
  | strayCdataEnd
  | badReference (text : String)
  | invalidUtf8
  | illegalChar (code : Nat)
  | strayEnd (name : String)
  | closedBy (opened closed : String)
  | closedInSpace (name openedSpace closedSpace : String)
  deriving DecidableEq, Repr

def codePointText (n : Nat) : String :=
  "U+" ++ String.ofList ((Nat.toDigits 16 n).map Char.toUpper |> fun ds =>
    List.replicate (4 - ds.length) '0' ++ ds)

def Fault.message : Fault → String
  | .unexpectedEof => "unexpected EOF"
  | .unexpectedEofInCdata => "unexpected EOF in CDATA section"
  | .expectedElementName => "expected element name after <"
  | .expectedEndName => "expected element name after </"
  | .junkInEndTag n => "invalid characters between </" ++ n ++ " and >"
  | .expectedTarget => "expected target name after <?"
  | .invalidName n => "invalid XML name: " ++ n
  | .badCommentStart => "invalid sequence <!- not part of <!--"
  | .doubleHyphen => "invalid sequence \"--\" not allowed in comments"
  | .badCdataStart => "invalid <![ sequence"
  | .expectedTagEnd => "expected /> in element"
  | .expectedAttrName => "expected attribute name in element"
  | .missingEquals => "attribute name without = in element"
  | .unquotedValue => "unquoted or missing attribute value in element"
  | .ltInQuoted => "unescaped < inside quoted string"
  | .strayCdataEnd => "unescaped ]]> not in CDATA section"
  | .badReference t => "invalid character entity " ++ t
  | .invalidUtf8 => "invalid UTF-8"
  | .illegalChar n => "illegal character code " ++ codePointText n
  | .strayEnd n => "unexpected end element </" ++ n ++ ">"
  | .closedBy a b => "element <" ++ a ++ "> closed by </" ++ b ++ ">"
  | .closedInSpace n a b =>
    "element <" ++ n ++ "> in space " ++ a ++ " closed by </" ++ n ++ "> in space " ++
      (if b = "" then "\"\"" else b)

/-- Why a markup text has no element tree. -/
inductive ReadError where
  | noElement
  | malformed (line : Nat) (fault : Fault)
  | unsupportedVersion (version : String)
  | undeclaredEncoding (encoding : String)
  | tooDeep
  deriving DecidableEq, Repr

def ReadError.message : ReadError → String
  | .noElement => "EOF"
  | .malformed line f => "XML syntax error on line " ++ decimal line ++ ": " ++ f.message
  | .unsupportedVersion v =>
    "xml: unsupported version " ++ Quoted.quote v ++ "; only version 1.0 is supported"
  | .undeclaredEncoding e =>
    "xml: encoding " ++ Quoted.quote e ++ " declared but Decoder.CharsetReader is nil"
  | .tooDeep => "exceeded max depth"

/-- The bytes not read yet, and the line they start on. -/
structure Cursor where
  rest : List UInt8
  line : Nat

def byte (c : Char) : UInt8 := c.toUInt8

def lineFeed : UInt8 := 10
def quoteMark : UInt8 := 34
def apostrophe : UInt8 := 39

def lineFeeds (bs : List UInt8) : Nat := bs.count lineFeed

namespace Cursor

def past (c : Cursor) (read rest : List UInt8) : Cursor :=
  { rest, line := c.line + lineFeeds read }

def next? (c : Cursor) : Option (UInt8 × Cursor) :=
  match c.rest with
  | [] => none
  | b :: r => some (b, c.past [b] r)

def fail {α : Type} (c : Cursor) (f : Fault) : Except ReadError α := .error (.malformed c.line f)

def take (c : Cursor) : Except ReadError (UInt8 × Cursor) :=
  match c.next? with
  | some r => .ok r
  | none => c.fail .unexpectedEof

def toEnd (c : Cursor) : Cursor := c.past c.rest []

def isSpace (b : UInt8) : Bool := b == 32 || b == 9 || b == 10 || b == 13

def skipSpace (c : Cursor) : Cursor :=
  let spaces := c.rest.takeWhile isSpace
  c.past spaces (c.rest.drop spaces.length)

end Cursor

/-- How a stretch of character data ends. -/
inductive TextMode where
  | content
  | quoted (q : UInt8)
  | cdata
  deriving DecidableEq

def textFault : Nat → List UInt8 → Option Fault
  | 0, _ => none
  | _, [] => none
  | fuel + 1, b :: rest =>
    match Utf8.decodeFirst (b :: rest) with
    | none => some .invalidUtf8
    | some (ch, n) => if isMarkupChar ch then textFault fuel ((b :: rest).drop n)
      else some (.illegalChar ch.toNat)

def checked (data : List UInt8) (c : Cursor) : Except ReadError (List UInt8 × Cursor) :=
  match textFault data.length data with
  | some f => c.fail f
  | none => .ok (data, c)

/-- A reference after `&`: the bytes it stands for, or the text read when it stands for
nothing. -/
inductive Reference where
  | resolved (bytes : List UInt8)
  | invalid (text : List UInt8)

def isRefDigit (hex : Bool) (b : UInt8) : Bool :=
  (byte '0' ≤ b && b ≤ byte '9') ||
    (hex && ((byte 'a' ≤ b && b ≤ byte 'f') || (byte 'A' ≤ b && b ≤ byte 'F')))

def refValue (hex : Bool) (ds : List UInt8) : Nat :=
  ds.foldl (fun n b =>
    let d := if b ≤ byte '9' then b.toNat - 48
      else if b ≤ byte 'F' then b.toNat - 55 else b.toNat - 87
    n * (if hex then 16 else 10) + d) 0

def codePointBytes (n : Nat) : List UInt8 :=
  if 0xD800 ≤ n ∧ n ≤ 0xDFFF then [0xEF, 0xBF, 0xBD] else Utf8.encode (Char.ofNat n).toString

def predefined (name : List UInt8) : Option (List UInt8) :=
  if name = Utf8.encode "lt" then some [byte '<']
  else if name = Utf8.encode "gt" then some [byte '>']
  else if name = Utf8.encode "amp" then some [byte '&']
  else if name = Utf8.encode "apos" then some [apostrophe]
  else if name = Utf8.encode "quot" then some [quoteMark]
  else none

/-- Reads a reference after `&`: `#` and decimal digits, `#x` and hexadecimal digits, or a
name, each closed by `;`. A byte that closes nothing is left unread. -/
def reference (c : Cursor) : Except ReadError (Reference × Cursor) :=
  match c.rest with
  | [] => c.fail .unexpectedEof
  | b :: r =>
    if b == byte '#' then
      let hex := r.head? == some (byte 'x')
      let body := if hex then r.drop 1 else r
      let lead := [byte '&', byte '#'] ++ (if hex then [byte 'x'] else [])
      let digits := body.takeWhile (isRefDigit hex)
      match body.drop digits.length with
      | [] => (c.past c.rest []).fail .unexpectedEof
      | t :: after =>
        if t == byte ';' then
          let v := refValue hex digits
          if !digits.isEmpty && v ≤ 0x10FFFF then
            .ok (.resolved (codePointBytes v), { rest := after, line := c.line })
          else .ok (.invalid (lead ++ digits ++ [t]), { rest := after, line := c.line })
        else .ok (.invalid (lead ++ digits), { rest := t :: after, line := c.line })
    else if !isNameByte b then
      if b == byte ';' then .ok (.invalid [byte '&', b], { rest := r, line := c.line })
      else .ok (.invalid [byte '&'], c)
    else
      let name := (b :: r).takeWhile isNameByte
      match (b :: r).drop name.length with
      | [] => (c.past c.rest []).fail .unexpectedEof
      | t :: after =>
        if t == byte ';' then
          match predefined name with
          | some bytes => .ok (.resolved bytes, { rest := after, line := c.line })
          | none => .ok (.invalid ([byte '&'] ++ name ++ [t]), { rest := after, line := c.line })
        else .ok (.invalid ([byte '&'] ++ name), { rest := t :: after, line := c.line })

def referenceText (text : List UInt8) : String :=
  Utf8.decodeLossy text ++ (if text.getLast? == some (byte ';') then "" else " (no semicolon)")

/-- Reads character data up to its end (see `TextMode`); `b0` and `b1` are the two bytes
read before, and `acc` the data so far, reversed. -/
def text (mode : TextMode) : Nat → Cursor → UInt8 → UInt8 → List UInt8 →
    Except ReadError (List UInt8 × Cursor)
  | 0, c, _, _, acc => checked acc.reverse c
  | fuel + 1, c, b0, b1, acc =>
    match c.next? with
    | none => if mode = .cdata then c.fail .unexpectedEofInCdata else checked acc.reverse c
    | some (b, c1) =>
      let quoted := match mode with
        | .quoted _ => true
        | _ => false
      if !quoted && b0 == byte ']' && b1 == byte ']' && b == byte '>' then
        if mode = .cdata then checked (acc.drop 2).reverse c1 else c1.fail .strayCdataEnd
      else if b == byte '<' && mode ≠ .cdata then
        if quoted then c1.fail .ltInQuoted else checked acc.reverse c
      else if mode = .quoted b then checked acc.reverse c1
      else if b == byte '&' && mode ≠ .cdata then
        match reference c1 with
        | .error e => .error e
        | .ok (.resolved bytes, c2) => text mode fuel c2 0 0 (bytes.reverse ++ acc)
        | .ok (.invalid t, c2) => c2.fail (.badReference (referenceText t))
      else
        let acc :=
          if b == 13 then lineFeed :: acc
          else if b1 == 13 && b == lineFeed then acc
          else b :: acc
        text mode fuel c1 b1 b acc

/-- Reads the bytes of a name; `none`, with nothing read, when the next byte cannot be
part of one. -/
def nameBytes (c : Cursor) : Except ReadError (Option (List UInt8) × Cursor) :=
  match c.rest with
  | [] => c.fail .unexpectedEof
  | b :: r =>
    if !isNameByte b then .ok (none, c)
    else
      let run := (b :: r).takeWhile isNameByte
      let after := (b :: r).drop run.length
      if after.isEmpty then (c.past c.rest []).fail .unexpectedEof
      else .ok (some run, { rest := after, line := c.line })

def spellsName (bs : List UInt8) : Bool :=
  match Utf8.decode? bs with
  | some cs => isName cs
  | none => false

def readName (c : Cursor) : Except ReadError (Option String × Cursor) :=
  match nameBytes c with
  | .error e => .error e
  | .ok (none, c1) => .ok (none, c1)
  | .ok (some bs, c1) =>
    if spellsName bs then .ok (some (Utf8.decodeLossy bs), c1)
    else c1.fail (.invalidName (Utf8.decodeLossy bs))

/-- Splits a name at its colon: `p:l` has the namespace part `p` when both sides are
nonempty; a name with two colons is no qualified name. -/
def QName.ofName (s : String) : Option QName :=
  match (s.toList.splitOn ':').map String.ofList with
  | [p, l] => if p = "" ∨ l = "" then some { localName := s } else some { space := p, localName := l }
  | [_] => some { localName := s }
  | _ => none

def readQName (c : Cursor) : Except ReadError (Option QName × Cursor) :=
  match readName c with
  | .error e => .error e
  | .ok (none, c1) => .ok (none, c1)
  | .ok (some s, c1) => .ok (QName.ofName s, c1)

/-- Reads the attributes of a start tag up to its `>` or `/>`; the flag tells a tag that
closes itself. -/
def attributes : Nat → Cursor → List Attr → Except ReadError (List Attr × Bool × Cursor)
  | 0, c, acc => .ok (acc.reverse, false, c)
  | fuel + 1, c, acc => do
    let c := c.skipSpace
    let (b, c1) ← c.take
    if b == byte '/' then
      let (b2, c2) ← c1.take
      if b2 != byte '>' then c2.fail .expectedTagEnd else return (acc.reverse, true, c2)
    else if b == byte '>' then return (acc.reverse, false, c1)
    else
      match ← readQName c with
      | (none, c2) => c2.fail .expectedAttrName
      | (some n, c2) =>
        let (eq, c4) ← c2.skipSpace.take
        if eq != byte '=' then c4.fail .missingEquals
        else
          let (q, c6) ← c4.skipSpace.take
          if q == quoteMark || q == apostrophe then
            let (value, c7) ← text (.quoted q) fuel c6 0 0 []
            attributes fuel c7 (⟨n, Utf8.decodeLossy value⟩ :: acc)
          else c6.fail .unquotedValue

/-- The bytes read up to and including the first `?>`, and the bytes after it; `b0` is the
byte read before. -/
def untilInstructionEnd (b0 : UInt8) : List UInt8 → Option (List UInt8 × List UInt8)
  | [] => none
  | b :: r =>
    if b0 == byte '?' && b == byte '>' then some ([b], r)
    else (untilInstructionEnd b r).map fun (xs, rest) => (b :: xs, rest)

/-- The bytes read up to the end of a comment and the bytes after them, with whether the
comment ended well: the byte after the first `--` must be `>`. -/
def untilCommentEnd (b0 b1 : UInt8) : List UInt8 → Option (Bool × List UInt8 × List UInt8)
  | [] => none
  | b :: r =>
    if b0 == byte '-' && b1 == byte '-' then some (b == byte '>', [b], r)
    else (untilCommentEnd b1 b r).map fun (ok, xs, rest) => (ok, b :: xs, rest)

def untilArrow (b0 b1 : UInt8) : List UInt8 → Option (List UInt8 × List UInt8)
  | [] => none
  | b :: r =>
    if b0 == byte '-' && b1 == byte '-' && b == byte '>' then some ([b], r)
    else (untilArrow b1 b r).map fun (xs, rest) => (b :: xs, rest)

/-- The value of `param="…"` (or with single quotes) in the body of an `xml` processing
instruction: the first occurrence of `param=` followed by a quote, up to the same quote;
empty when there is none. -/
def instructionParam (param : String) (s : String) : String :=
  let pat := (param ++ "=").toList
  let rec seek : Nat → List Char → Option (Char × List Char)
    | 0, _ => none
    | fuel + 1, sub =>
      match (List.range sub.length).find? (fun k => pat.isPrefixOf (sub.drop k)) with
      | none => none
      | some k =>
        match sub.drop (k + pat.length) with
        | [] => none
        | c :: after => if c = '"' ∨ c.toNat = 39 then some (c, after) else seek fuel after
  match seek s.length s.toList with
  | none => ""
  | some (q, after) => if after.contains q then String.ofList (after.takeWhile (· ≠ q)) else ""

def checkDeclaration (body : String) : Except ReadError Unit :=
  let version := instructionParam "version" body
  let encoding := instructionParam "encoding" body
  if version ≠ "" ∧ version ≠ "1.0" then .error (.unsupportedVersion version)
  else if encoding ≠ "" ∧ encoding.toList.map Char.toLower ≠ "utf-8".toList then
    .error (.undeclaredEncoding encoding)
  else .ok ()

/-- What follows `<` inside a declaration: `!--` opening a comment, or else the byte that
broke the match, already read. -/
inductive Nested where
  | comment (c : Cursor)
  | mismatch (b : UInt8) (c : Cursor)

def nested (c : Cursor) : Except ReadError Nested := do
  let (b1, c1) ← c.take
  if b1 != byte '!' then return .mismatch b1 c1
  let (b2, c2) ← c1.take
  if b2 != byte '-' then return .mismatch b2 c2
  let (b3, c3) ← c2.take
  if b3 != byte '-' then return .mismatch b3 c3
  return .comment c3

/-- Reads the rest of a declaration `<!…>` up to its closing `>`: quoted text is passed
over, each `<` opens a level that a `>` closes, and a comment counts as a space. A
`pending` byte was read already and is looked at before reading on. -/
def declaration : Nat → Cursor → Option UInt8 → UInt8 → Nat → Except ReadError Cursor
  | 0, c, _, _, _ => .ok c
  | fuel + 1, c, pending, quote, depth => do
    let (b, c1, fresh) ← match pending with
      | some b => pure (b, c, false)
      | none => do
        let (b, c1) ← c.take
        pure (b, c1, true)
    if fresh && quote == 0 && b == byte '>' && depth == 0 then return c1
    if b == quote then declaration fuel c1 none 0 depth
    else if quote != 0 then declaration fuel c1 none quote depth
    else if b == quoteMark || b == apostrophe then declaration fuel c1 none b depth
    else if b == byte '>' then declaration fuel c1 none quote (depth - 1)
    else if b == byte '<' then
      match ← nested c1 with
      | .mismatch b2 c2 => declaration fuel c2 (some b2) quote (depth + 1)
      | .comment c2 =>
        match untilArrow 0 0 c2.rest with
        | none => c2.toEnd.fail .unexpectedEof
        | some (read, rest) => declaration fuel (c2.past read rest) none quote depth
    else declaration fuel c1 none quote depth

/-- A token of markup. -/
inductive Token where
  | start (name : QName) (attrs : List Attr) (closed : Bool)
  | stop (name : QName)
  | other

/-- Reads what follows `<!`: a comment, a character-data section, or a declaration (whose
first byte is passed over). -/
def bang (fuel : Nat) (c : Cursor) : Except ReadError (Token × Cursor) := do
  let (b, c1) ← c.take
  if b == byte '-' then
    let (b2, c2) ← c1.take
    if b2 != byte '-' then c2.fail .badCommentStart
    else match untilCommentEnd 0 0 c2.rest with
      | none => c2.toEnd.fail .unexpectedEof
      | some (ok, read, rest) =>
        let c3 := c2.past read rest
        if ok then return (.other, c3) else c3.fail .doubleHyphen
  else if b == byte '[' then
    let rec cdataStart : List Char → Cursor → Except ReadError Cursor
      | [], c => .ok c
      | ch :: chs, c => do
        let (b, c') ← c.take
        if b != byte ch then c'.fail .badCdataStart else cdataStart chs c'
    let c2 ← cdataStart "CDATA[".toList c1
    let (_, c3) ← text .cdata fuel c2 0 0 []
    return (.other, c3)
  else
    let c2 ← declaration fuel c1 none 0 0
    return (.other, c2)

def instruction (c : Cursor) : Except ReadError (Token × Cursor) := do
  match ← readName c with
  | (none, c1) => c1.fail .expectedTarget
  | (some target, c1) =>
    let c2 := c1.skipSpace
    match untilInstructionEnd 0 c2.rest with
    | none => c2.toEnd.fail .unexpectedEof
    | some (read, rest) =>
      if target = "xml" then checkDeclaration (Utf8.decodeLossy (read.take (read.length - 2)))
      return (.other, c2.past read rest)

/-- The next token and the cursor after it; `none` at the end of the input. -/
def token (c : Cursor) : Except ReadError (Option (Token × Cursor)) := do
  let fuel := 2 * c.rest.length + 2
  match c.next? with
  | none => return none
  | some (b, c1) =>
    if b != byte '<' then
      let (_, c2) ← text .content fuel c 0 0 []
      return some (.other, c2)
    let (b, c2) ← c1.take
    if b == byte '/' then
      match ← readQName c2 with
      | (none, c3) => c3.fail .expectedEndName
      | (some name, c3) =>
        let (b, c4) ← c3.skipSpace.take
        if b != byte '>' then c4.fail (.junkInEndTag name.localName)
        else return some (.stop name, c4)
    else if b == byte '?' then return some (← instruction c2)
    else if b == byte '!' then return some (← bang fuel c2)
    else
      match ← readQName c1 with
      | (none, c3) => c3.fail .expectedElementName
      | (some name, c3) =>
        let (attrs, closed, c4) ← attributes fuel c3 []
        return some (.start name attrs closed, c4)

end KeyedComposite.Markup
