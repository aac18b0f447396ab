import KeyedComposite.Markup.Node

/-! # Reading an element tree

`Node.parse` reads the first element of a markup text as a tree and ignores whatever
follows it. Before that element only character data, comments, instructions and
declarations may stand; a text without an element fails with `noElement`.

Names are resolved against the namespace declarations in scope: an element's own
`xmlns` and `xmlns:p` attributes apply to its name, its attributes and its descendants.
An unprefixed element name takes the default namespace, an unprefixed attribute name
none; the `xml` prefix is fixed; an undeclared prefix stays as it is. An end tag must
repeat the start tag's name as written. Elements stand fewer than 5000 levels below the
root.
-/
namespace KeyedComposite.Markup

/-- Namespace declarations in scope, innermost first: a prefix (empty for the default
namespace) and the namespace it names. -/
structure Scope where
  bindings : List (String × String) := []

def xmlNamespace : String := "http://www.w3.org/XML/1998/namespace"

namespace Scope

def enter (s : Scope) (attrs : List Attr) : Scope :=
  attrs.foldl (fun s a =>
    if a.name.space = "xmlns" then ⟨(a.name.localName, a.value) :: s.bindings⟩
    else if a.name.space = "" ∧ a.name.localName = "xmlns" then ⟨("", a.value) :: s.bindings⟩
    else s) s

/-- A name as read, resolved in a scope; `element` tells an element name from an
attribute name. -/
def resolve (s : Scope) (n : QName) (element : Bool) : QName :=
  if n.space = "xmlns" then n
  else if n.space = "" ∧ !element then n
  else if n.space = "" ∧ n.localName = "xmlns" then n
  else
    let space := if n.space = "xml" then xmlNamespace else n.space
    match s.bindings.lookup space with
    | some v => { n with space := v }
    | none => { n with space := space }

end Scope

def depthLimit : Nat := 5000

def opened (scope : Scope) (raw : QName) (attrs : List Attr) (children : List Node) : Node :=
  let inner := scope.enter attrs
  .mk (inner.resolve raw true) (attrs.map fun a => { a with name := inner.resolve a.name false })
    children

/-- Reads the children of the element `raw` (as written), which stands at `level` in a
`scope`, up to its end tag; `acc` holds the children read so far, reversed. -/
def readChildren : Nat → Nat → Scope → QName → Cursor → List Node →
    Except ReadError (List Node × Cursor)
  | 0, _, _, _, c, acc => .ok (acc.reverse, c)
  | fuel + 1, level, scope, raw, c, acc => do
    match ← token c with
    | none => c.fail .unexpectedEof
    | some (.start name attrs closed, c1) =>
      if level + 1 ≥ depthLimit then throw .tooDeep
      if closed then readChildren fuel level scope raw c1 (opened scope name attrs [] :: acc)
      else
        let (kids, c2) ← readChildren fuel (level + 1) (scope.enter attrs) name c1 []
        readChildren fuel level scope raw c2 (opened scope name attrs kids :: acc)
    | some (.stop name, c1) =>
      if name.localName ≠ raw.localName then c1.fail (.closedBy raw.localName name.localName)
      else if name.space ≠ raw.space then
        c1.fail (.closedInSpace raw.localName raw.space name.space)
      else return (acc.reverse, c1)
    | some (.other, c1) => readChildren fuel level scope raw c1 acc

def readRoot : Nat → Cursor → Except ReadError Node
  | 0, _ => .error .noElement
  | fuel + 1, c => do
    match ← token c with
    | none => throw .noElement
    | some (.start name attrs closed, c1) =>
      if closed then return opened {} name attrs []
      let (kids, _) ← readChildren fuel 0 (Scope.enter {} attrs) name c1 []
      return opened {} name attrs kids
    | some (.stop name, c1) => c1.fail (.strayEnd name.localName)
    | some (.other, c1) => readRoot fuel c1

def Node.parse (text : String) : Except ReadError Node :=
  let bytes := Utf8.encode text
  readRoot (bytes.length + 1) { rest := bytes, line := 1 }

end KeyedComposite.Markup
