import KeyedComposite.Markup.Token

/-! # Element trees

A `Node` is an element of a markup document: its resolved name, its attributes in
document order (namespace declarations included) and its child elements. Text, comments
and instructions are not kept.

Queries look at local names only, whatever the namespace: `attr?` is the first attribute
of a name, `child?` the first child element of a name. `visits` walks a tree in document
order, a node before its children and the children in order, pairing each node with the
path of its ancestors from the root down to its parent; `find` keeps the nodes of a name.
-/
namespace KeyedComposite.Markup

/-- An element with its attributes and child elements. -/
inductive Node where
  | mk (name : QName) (attrs : List Attr) (children : List Node)
  deriving Repr

namespace Node

mutual

def decEq : (a b : Node) → Decidable (a = b)
  | .mk n a c, .mk n' a' c' =>
    if hn : n = n' then
      if ha : a = a' then
        match decEqChildren c c' with
        | isTrue hc => isTrue (hn ▸ ha ▸ hc ▸ rfl)
        | isFalse hc => isFalse fun h => hc (Node.mk.inj h).2.2
      else isFalse fun h => ha (Node.mk.inj h).2.1
    else isFalse fun h => hn (Node.mk.inj h).1

def decEqChildren : (cs cs' : List Node) → Decidable (cs = cs')
  | [], [] => isTrue rfl
  | [], c :: cs => isFalse (List.cons_ne_nil c cs).symm
  | c :: cs, [] => isFalse (List.cons_ne_nil c cs)
  | c :: cs, c' :: cs' =>
    match decEq c c', decEqChildren cs cs' with
    | isTrue hc, isTrue hcs => isTrue (hc ▸ hcs ▸ rfl)
    | isFalse hc, _ => isFalse fun h => hc (List.cons.inj h).1
    | _, isFalse hcs => isFalse fun h => hcs (List.cons.inj h).2

end

instance : DecidableEq Node := decEq

def name : Node → QName
  | .mk n _ _ => n

def attrs : Node → List Attr
  | .mk _ a _ => a

def children : Node → List Node
  | .mk _ _ c => c

def localName (n : Node) : String := n.name.localName

def attr? (n : Node) (key : String) : Option String :=
  (n.attrs.find? (·.name.localName == key)).map (·.value)

def attrOr (n : Node) (key fallback : String) : String := (n.attr? key).getD fallback

def child? (n : Node) (key : String) : Option Node := n.children.find? (·.localName == key)

def childrenNamed (n : Node) (key : String) : List Node := n.children.filter (·.localName == key)

mutual
def visits (ancestors : List Node) : Node → List (Node × List Node)
  | .mk n a cs => (.mk n a cs, ancestors) :: visitsAll (ancestors ++ [.mk n a cs]) cs

def visitsAll (ancestors : List Node) : List Node → List (Node × List Node)
  | [] => []
  | c :: cs => visits ancestors c ++ visitsAll ancestors cs
end

def preorder (n : Node) : List Node := (visits [] n).map (·.1)

def find (n : Node) (key : String) : List Node := n.preorder.filter (·.localName == key)

end Node

end KeyedComposite.Markup
