import KeyedComposite.Composite.Document
import KeyedComposite.Text.Quoted
import KeyedComposite.Failure

/-! # The id registry of a composite

Ids of all kinds share one namespace. A `Registry` is the list of declared ids with their
kinds, in declaration order. Declaring fails for an empty id and for an id declared
before, whatever the two kinds; a failed declaration leaves the registry as it was.

`Registry.require` checks that a reference names an id declared with one of the allowed
kinds. The failures are values of `CompositeError`, each with its message; a repeated id
is told apart from every other failure, which is a dangling reference.
-/
namespace KeyedComposite.Composite

/-- The kind of element behind an id. Kinds are numbered from 0 in the order of the named
constructors; any other number is `unnamed`. -/
inductive Kind where
  | producer
  | playlist
  | tractor
  | filter
  | transition
  | unnamed (code : Int)
  deriving DecidableEq, Repr

namespace Kind

def ofCode : Int → Kind
  | 0 => .producer
  | 1 => .playlist
  | 2 => .tractor
  | 3 => .filter
  | 4 => .transition
  | n => .unnamed n

def word : Kind → String
  | .producer => "producer"
  | .playlist => "playlist"
  | .tractor => "tractor"
  | .filter => "filter"
  | .transition => "transition"
  | .unnamed n => "kind(" ++ decimal n ++ ")"

end Kind

/-- Where a reference stands in a document. -/
inductive Place where
  | root
  | entry (playlist : String) (index : Nat)
  | track (index : Nat)
  deriving DecidableEq, Repr

def Place.text : Place → String
  | .root => "root"
  | .entry p i => "playlist " ++ p ++ " entry " ++ decimal i
  | .track i => "track " ++ decimal i

/-- Why a composite's ids do not fit together. -/
inductive CompositeError where
  | emptyId (kind : Kind)
  | duplicateId (id : String) (previous kind : Kind)
  | undeclared (place : Place) (id : String)
  | wrongKind (place : Place) (kind : Kind) (id : String)
  | trackOutOfRange (transition : String) (index : Int) (tracks : Nat)
  deriving DecidableEq, Repr

namespace CompositeError

def message : CompositeError → String
  | .emptyId k => "dangling reference: empty " ++ k.word ++ " id"
  | .duplicateId id p k =>
    "duplicate id: " ++ Quoted.quote id ++ " declared as " ++ p.word ++ " and " ++ k.word
  | .undeclared w id => "dangling reference: " ++ w.text ++ " references undeclared " ++
    Quoted.quote id
  | .wrongKind w k id => "dangling reference: " ++ w.text ++ " references " ++ k.word ++ " " ++
    Quoted.quote id
  | .trackOutOfRange t i n => "dangling reference: transition " ++ t ++ " names track " ++
    decimal i ++ " of " ++ decimal n

def failureClass : CompositeError → FailureClass
  | .duplicateId .. => .duplicateId
  | _ => .danglingReference

end CompositeError

/-- Declared ids with their kinds, in declaration order. -/
structure Registry where
  entries : List (String × Kind) := []
  deriving Repr

namespace Registry

def lookup? (r : Registry) (id : String) : Option Kind := r.entries.lookup id

def ids (r : Registry) : List String := r.entries.map (·.1)

def declare (r : Registry) (id : String) (kind : Kind) : Except CompositeError Registry :=
  if id = "" then .error (.emptyId kind)
  else match r.lookup? id with
    | some previous => .error (.duplicateId id previous kind)
    | none => .ok { entries := r.entries ++ [(id, kind)] }

def declareAll (r : Registry) : List (String × Kind) → Except CompositeError Registry
  | [] => .ok r
  | (id, kind) :: rest => do
    let r' ← r.declare id kind
    r'.declareAll rest

def require (r : Registry) (place : Place) (id : String) (allowed : List Kind) :
    Except CompositeError Unit :=
  match r.lookup? id with
  | none => .error (.undeclared place id)
  | some k => if k ∈ allowed then .ok () else .error (.wrongKind place k id)

end Registry

end KeyedComposite.Composite
