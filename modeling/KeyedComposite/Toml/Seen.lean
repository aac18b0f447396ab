import KeyedComposite.Toml.Document

/-! # Keys already defined

A TOML document may define each key once. `Seen` remembers every key path met so far,
as a value, a table or an array of tables, whether a table was defined by its own header
(explicit) and whether it was made on the way by a dotted key. The current table is the
one whose header came last.

* A header `[a.b]` may pass through tables and arrays of tables, not values; its last key
  must be new or a table made on the way, which it then defines. Tables made on the way
  by dotted keys under the current table count as defined from the next header on.
* A header `[[a.b]]` starts a new element of an array of tables, forgetting what the
  previous element defined.
* A dotted key `a.b = v` in the current table may pass through tables made on the way and
  must end at a new key. The pairs of an inline table are checked on their own.
-/
namespace KeyedComposite.Toml

/-- What a key path was defined as. -/
inductive KeyKind where
  | value
  | table
  | arrayTable
  deriving DecidableEq, Repr

def KeyKind.word : KeyKind → String
  | .value => "value"
  | .table => "table"
  | .arrayTable => "array table"

/-- A key path met so far. -/
structure SeenKey where
  path : List String
  kind : KeyKind
  explicit : Bool
  dotted : Bool

/-- The key paths met so far and the current table. -/
structure Seen where
  keys : List SeenKey := []
  current : List String := []

namespace Seen

def find? (s : Seen) (p : List String) : Option SeenKey := s.keys.find? (·.path == p)

def add (s : Seen) (k : SeenKey) : Seen := { s with keys := s.keys ++ [k] }

def modify (s : Seen) (p : List String) (f : SeenKey → SeenKey) : Seen :=
  { s with keys := s.keys.map fun k => if k.path == p then f k else k }

def below (q p : List String) : Bool := q.isPrefixOf p && q.length < p.length

def settle (s : Seen) : Seen :=
  { s with keys := s.keys.map fun k =>
      if below s.current k.path && k.dotted then { k with explicit := true, dotted := false } else k }

def descend (s : Seen) : List String → List String → Except String (Seen × List String)
  | [], parent => .ok (s, parent)
  | k :: rest, parent =>
    let p := parent ++ [k]
    match s.find? p with
    | none => descend (s.add ⟨p, .table, false, false⟩) rest p
    | some e =>
      if e.kind = .value then .error ("toml: expected " ++ k ++ " to be a table, not a " ++ e.kind.word)
      else descend s rest p

def table (s : Seen) (key : List String) : Except String Seen := do
  let s := s.settle
  let (s, parent) ← s.descend key.dropLast []
  let k := key.getLastD ""
  let p := parent ++ [k]
  match s.find? p with
  | some e =>
    if e.kind ≠ .table then throw ("toml: key " ++ k ++ " should be a table, not a " ++ e.kind.word)
    if e.explicit then throw ("toml: table " ++ k ++ " already exists")
    return { s.modify p (fun e => { e with explicit := true }) with current := p }
  | none => return { s.add ⟨p, .table, true, false⟩ with current := p }

def arrayTable (s : Seen) (key : List String) : Except String Seen := do
  let s := s.settle
  let (s, parent) ← s.descend key.dropLast []
  let k := key.getLastD ""
  let p := parent ++ [k]
  match s.find? p with
  | none => return { s.add ⟨p, .arrayTable, true, false⟩ with current := p }
  | some e =>
    if e.kind ≠ .arrayTable then
      throw ("toml: key " ++ e.kind.word ++ " already exists as a " ++ k ++ ",  but should be an array table")
    return { s with keys := s.keys.filter (fun x => !below p x.path), current := p }

mutual
def pair (s : Seen) (key : List String) (v : Value) : Except String Seen := do
  let s ← s.passKeys key s.current
  match v with
  | .inlineTable ps => do let _ ← ({} : Seen).pairs ps; pure s
  | .array items => do s.inArray items; pure s
  | _ => pure s

def passKeys (s : Seen) : List String → List String → Except String Seen
  | [], parent => .ok (s.modify parent fun e => { e with kind := .value })
  | k :: rest, parent =>
    let p := parent ++ [k]
    match s.find? p with
    | none => s.add ⟨p, .table, false, true⟩ |>.passKeys rest p
    | some e =>
      if rest.isEmpty then .error ("toml: key " ++ k ++ " is already defined")
      else if e.kind ≠ .table then .error ("toml: expected " ++ k ++ " to be a table, not a " ++ e.kind.word)
      else if e.explicit then
        .error ("toml: cannot redefine table " ++ k ++ " that has already been explicitly defined")
      else s.passKeys rest p

def pairs (s : Seen) : List (List String × Value) → Except String Seen
  | [] => .ok s
  | (k, v) :: rest => do
    let s ← s.pair k v
    s.pairs rest

def inArray (s : Seen) : List Value → Except String Unit
  | [] => .ok ()
  | .inlineTable ps :: rest => do
    let _ ← ({} : Seen).pairs ps
    s.inArray rest
  | .array items :: rest => do
    s.inArray items
    s.inArray rest
  | _ :: rest => s.inArray rest
end

def expression (s : Seen) : Expression → Except String Seen
  | .keyValue k v => s.pair k v
  | .table k => s.table k
  | .arrayTable k => s.arrayTable k

end Seen

end KeyedComposite.Toml
