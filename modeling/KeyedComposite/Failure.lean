import KeyedComposite.Numeric.Word

/-! # Failures

Every failure of an operation is a value of some error type with its own `message`. A
caller that reacts to a failure looks only at its `FailureClass`: a duplicate or dangling
identifier in a composite, an unknown texture generator, a source video that cannot be
found, an output held by another run, or any other cause.

A `Fault` is different: it is a step the program cannot take at all (a division by zero
in exact arithmetic, a negative index into a list), and it stops the operation.
-/
namespace KeyedComposite

/-- What a caller can tell apart about a failure. -/
inductive FailureClass where
  | duplicateId
  | danglingReference
  | unknownGenerator
  | sourceUnresolved
  | outputLocked
  | other
  deriving DecidableEq, Repr

/-- A step that cannot be taken. -/
inductive Fault where
  | divisionByZero
  | indexOutOfRange (index : Int)
  deriving DecidableEq, Repr

def Fault.message : Fault → String
  | .divisionByZero => "division by zero"
  | .indexOutOfRange i => "runtime error: index out of range [" ++ decimal i ++ "]"

end KeyedComposite
