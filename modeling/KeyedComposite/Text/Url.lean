import KeyedComposite.Text.Utf8
import KeyedComposite.Text.Ipv6

/-! # Paths of URL references

`Url.path?` reads the path of a URL reference the way a strict reader of RFC 3986 does:
after the fragment (`#…`) and the query (`?…`) are cut off, a scheme (letters first,
then letters, digits, `+`, `-`, `.`, up to a colon) is split off; a scheme followed by
something other than `/` makes an opaque reference, whose path is empty; otherwise a
`//` starts an authority (user information, host and port) that is checked and passed
over, and the rest is the path with its `%XX` escapes decoded. A control byte, a
malformed escape, a colon in the first segment of a relative path, a bad port or host
escape, a host in brackets that is no IPv6 literal, a bracket elsewhere in the host, or a
bad character in the user information makes the reference unreadable.

`Url.unescape?` only decodes `%XX` escapes, each of which must be complete.
-/
namespace KeyedComposite.Url

/-- Where an escaped text stands; hosts and zones allow fewer escapes. -/
inductive Part where
  | host
  | zone
  | path
  | segment
  | userInfo
  | fragment
  deriving DecidableEq

def isHexDigit (b : UInt8) : Bool :=
  (48 ≤ b && b ≤ 57) || (97 ≤ b && b ≤ 102) || (65 ≤ b && b ≤ 70)

def hexDigitValue (b : UInt8) : Nat :=
  if b ≤ 57 then b.toNat - 48 else if b ≤ 70 then b.toNat - 55 else b.toNat - 87

def isAlnum (b : UInt8) : Bool := (97 ≤ b && b ≤ 122) || (65 ≤ b && b ≤ 90) || (48 ≤ b && b ≤ 57)

def mustEscape (b : UInt8) (part : Part) : Bool :=
  let c := Char.ofNat b.toNat
  if isAlnum b then false
  else if (part = .host ∨ part = .zone) ∧ (b = 39 ∨ "!$&()*+,;=:[]<>\"".toList.contains c) then
    false
  else if "-_.~".toList.contains c then false
  else if "$&+,/:;=?@".toList.contains c then
    match part with
    | .path => c = '?'
    | .segment => c = '/' ∨ c = ';' ∨ c = ',' ∨ c = '?'
    | .userInfo => c = '@' ∨ c = '/' ∨ c = '?' ∨ c = ':'
    | .fragment => false
    | _ => true
  else if part = .fragment ∧ "!()*".toList.contains c then false
  else true

/-- Whether the escapes of a text are well formed for a part. -/
def escapesValid (part : Part) : List UInt8 → Bool
  | [] => true
  | b :: rest =>
    if b = 37 then
      match rest with
      | h :: l :: rest' =>
        if !(isHexDigit h && isHexDigit l) then false
        else
          let v := hexDigitValue h * 16 + hexDigitValue l
          let percent := h = 50 ∧ l = 53
          if part = .host ∧ hexDigitValue h < 8 ∧ !percent then false
          else if part = .zone ∧ !percent ∧ v ≠ 32 ∧ mustEscape (UInt8.ofNat v) .host then false
          else escapesValid part rest'
      | _ => false
    else if (part = .host ∨ part = .zone) ∧ b < 0x80 ∧ mustEscape b part then false
    else escapesValid part rest

def decodeEscapes : List UInt8 → List UInt8
  | 37 :: h :: l :: rest =>
    UInt8.ofNat (hexDigitValue h * 16 + hexDigitValue l) :: decodeEscapes rest
  | b :: rest => b :: decodeEscapes rest
  | [] => []

def unescapePart (part : Part) (s : List UInt8) : Option (List UInt8) :=
  if escapesValid part s then some (decodeEscapes s) else none

def unescape? (s : String) : Option (List UInt8) := unescapePart .segment (Utf8.encode s)

def cut (sep : UInt8) (s : List UInt8) : List UInt8 × Option (List UInt8) :=
  match s.idxOf? sep with
  | some i => (s.take i, some (s.drop (i + 1)))
  | none => (s, none)

def splitScheme (s : List UInt8) : Option (List UInt8 × List UInt8) :=
  let isLetter (b : UInt8) := (97 ≤ b && b ≤ 122) || (65 ≤ b && b ≤ 90)
  let isLater (b : UInt8) := isLetter b || (48 ≤ b && b ≤ 57) || b = 43 || b = 45 || b = 46
  match s with
  | [] => some ([], [])
  | b :: _ =>
    if !isLetter b then (if b = 58 then none else some ([], s))
    else
      let run := s.takeWhile isLater
      match s.drop run.length with
      | 58 :: rest => some (run, rest)
      | _ => some ([], s)

def portValid : List UInt8 → Bool
  | [] => true
  | 58 :: ds => ds.all fun d => 48 ≤ d && d ≤ 57
  | _ => false

def lastIndex (b : UInt8) (s : List UInt8) : Option Nat :=
  (s.reverse.idxOf? b).map fun i => s.length - 1 - i

def indexOfRun (pat s : List UInt8) : Option Nat :=
  (List.range (s.length + 1)).find? fun i => pat.isPrefixOf (s.drop i)

/-- Whether a host (with an optional port) is well formed. A host in brackets holds an
IPv6 literal, its escapes decoded (`%25` starts a zone, where more escapes are allowed);
a bracket anywhere else makes the host malformed. -/
def hostValid (host : List UInt8) : Bool :=
  match host with
  | 91 :: inner =>
    match lastIndex 93 host with
    | none => false
    | some i =>
      let name := inner.take (i - 1)
      if !portValid (host.drop (i + 1)) then false
      else
        let literal := match indexOfRun [37, 50, 53] name with
          | some z => do
            let address ← unescapePart .host (name.take z)
            let zone ← unescapePart .zone (name.drop z)
            pure (address ++ zone)
          | none => unescapePart .host name
        match literal with
        | some bytes => Ipv6.isLiteral bytes
        | none => false
  | _ =>
    if host.contains 91 then false
    else match lastIndex 58 host with
      | some i => portValid (host.drop i) && (unescapePart .host host).isSome
      | none => (unescapePart .host host).isSome

def userInfoValid (info : List UInt8) : Bool :=
  let allowed (b : UInt8) :=
    isAlnum b || b = 39 || "-._:~!$&()*+,;=%@".toList.contains (Char.ofNat b.toNat)
  if !info.all allowed then false
  else match cut 58 info with
    | (user, none) => (unescapePart .userInfo user).isSome
    | (user, some password) =>
      (unescapePart .userInfo user).isSome && (unescapePart .userInfo password).isSome

def authorityValid (authority : List UInt8) : Bool :=
  match lastIndex 64 authority with
  | none => hostValid authority
  | some i => hostValid (authority.drop (i + 1)) && userInfoValid (authority.take i)

/-- The decoded path of a reference without its fragment; `none` when unreadable. -/
def pathOf (u : List UInt8) : Option (List UInt8) :=
  if u.any (fun b => b < 0x20 || b = 0x7F) then none
  else if u = [42] then some [42]
  else match splitScheme u with
    | none => none
    | some (scheme, rest) =>
      let rest := (cut 63 rest).1
      let startsWithSlash := rest.head? = some 47
      if !startsWithSlash && !scheme.isEmpty then some []
      else if !startsWithSlash && ((cut 47 rest).1.contains 58) then none
      else if (!scheme.isEmpty || !([47, 47, 47].isPrefixOf rest)) && [47, 47].isPrefixOf rest then
        let afterSlashes := rest.drop 2
        let (authority, path) := match afterSlashes.idxOf? 47 with
          | some i => (afterSlashes.take i, afterSlashes.drop i)
          | none => (afterSlashes, [])
        if !authorityValid authority then none else unescapePart .path path
      else unescapePart .path rest

def path? (s : String) : Option (List UInt8) :=
  let (u, fragment) := cut 35 (Utf8.encode s)
  match pathOf u with
  | none => none
  | some p =>
    match fragment with
    | some f => if f.isEmpty ∨ (unescapePart .fragment f).isSome then some p else none
    | none => some p

end KeyedComposite.Url
