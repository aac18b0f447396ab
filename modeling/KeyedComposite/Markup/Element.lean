import KeyedComposite.Numeric.Word
import KeyedComposite.Markup.NameChar

/-! # Markup elements and their indented text

An `Element` is a named element with attributes in a fixed order, some character data and
child elements. `Element.render` writes it the way a document writer with a two-space
indent does:

* the start tag stands on its own line, indented two spaces per level of depth;
* character data follows the start tag directly, escaped;
* each child starts on a new line one level deeper;
* an element without children closes on the same line (`<a x="1"></a>`, `<p>text</p>`),
  one with children closes on a line of its own at its own depth.

Escaping is the same in attribute values and character data: the five markup characters
become `&#34; &#39; &amp; &lt; &gt;`, tab, line feed and carriage return become `&#x9;`,
`&#xA;`, `&#xD;`, and a character outside the markup character range becomes U+FFFD.
-/
namespace KeyedComposite.Markup

def escapeChar (c : Char) : String :=
  match c.toNat with
  | 0x22 => "&#34;"
  | 0x27 => "&#39;"
  | 0x26 => "&amp;"
  | 0x3C => "&lt;"
  | 0x3E => "&gt;"
  | 0x9 => "&#x9;"
  | 0xA => "&#xA;"
  | 0xD => "&#xD;"
  | _ => if isMarkupChar c then c.toString else "\uFFFD"

def escape (s : String) : String := String.join (s.toList.map escapeChar)

/-- A named element: attributes in writing order, character data, then child elements. -/
inductive Element where
  | mk (name : String) (attrs : List (String × String)) (text : String)
      (children : List Element)

namespace Element

def empty (name : String) (attrs : List (String × String)) : Element := .mk name attrs "" []

def parent (name : String) (attrs : List (String × String)) (children : List Element) :
    Element :=
  .mk name attrs "" children

def startTag (name : String) (attrs : List (String × String)) : String :=
  "<" ++ name ++ String.join (attrs.map fun (k, v) => " " ++ k ++ "=\"" ++ escape v ++ "\"") ++
    ">"

def indent (depth : Nat) : String := String.ofList (List.replicate (2 * depth) ' ')

mutual
/-- The text of an element whose start tag stands at `depth`; the first line carries no
indent of its own. -/
def render (depth : Nat) : Element → String
  | .mk name attrs text [] => startTag name attrs ++ escape text ++ "</" ++ name ++ ">"
  | .mk name attrs text (c :: cs) =>
    startTag name attrs ++ escape text ++ renderChildren (depth + 1) (c :: cs) ++ "\n" ++
      indent depth ++ "</" ++ name ++ ">"

def renderChildren (depth : Nat) : List Element → String
  | [] => ""
  | c :: cs => "\n" ++ indent depth ++ render depth c ++ renderChildren depth cs
end

end Element

def header : String := "<?xml version=\"1.0\" encoding=\"UTF-8\"?>\n"

def document (root : Element) : String := header ++ root.render 0 ++ "\n"

end KeyedComposite.Markup
