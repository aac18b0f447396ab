import KeyedComposite.Settings.Schema
import KeyedComposite.Toml.Read
import KeyedComposite.Toml.Number
import KeyedComposite.Toml.Seen
import KeyedComposite.Toml.DateTime

/-! # Decoding a settings file

`decode` reads a TOML document into settings, expression by expression, starting from
given settings. Each expression is first checked against the keys already defined; then
a pair stores its value in the setting its key names, under the table of the last header.
A header naming an unknown section or setting makes the pairs below it pass unchecked.

A value is stored by the kind of its setting: a mode reads the value's text as a name or
a number; a string goes to text; an integer to a whole number or, read as a float, to a
real; a float to a real; a boolean to a flag. An inline table given for a section stores
its pairs there. Anything else is refused with the types involved. A date-time stored
anywhere but in a mode is first checked to name a moment, and refused if it does not;
otherwise it cannot be held and ends the decoding at once, as does a header or dotted key
that reaches below a setting.

Keys that name nothing are remembered and, when all else went well, make the whole
document refused. A syntax error is reported only after the expressions before it.
-/
namespace KeyedComposite.Settings

open Toml

/-- Why a settings file could not be decoded. -/
inductive DecodeError where
  | malformed (e : SyntaxError)
  /-- A key defined twice, or as two kinds of thing. -/
  | redefined (message : String)
  /-- A value that does not fit its setting. -/
  | refused (message : String)
  /-- A value that could not be held at all. -/
  | crashed (message : String)
  /-- Some key names no setting. -/
  | unknownFields

def DecodeError.message : DecodeError → String
  | .malformed e => "toml: " ++ e.message
  | .redefined m => m
  | .refused m => "toml: " ++ m
  | .crashed m => m
  | .unknownFields => "strict mode: fields in the document are missing in the target struct"

def DecodeError.ofFault : StoreFault → DecodeError
  | .refused m => .refused m
  | .crashed m => .crashed m

/-- Where the pairs of the current table go. -/
inductive Scope where
  | root
  | section (s : Section)
  /-- A header that names a single setting. -/
  | field (kind : FieldKind)
  /-- A header that names nothing: its pairs are passed over. -/
  | skipped

/-- The state of a decoding. -/
structure Decoding where
  settings : Settings
  seen : Seen := {}
  scope : Scope := .root
  unknown : Bool := false

def timeTypeName : TimeForm → String
  | .offsetDateTime => "time.Time"
  | .localDateTime => "toml.LocalDateTime"
  | .localDate => "toml.LocalDate"
  | .localTime => "toml.LocalTime"

def mismatch (word owner name typeName : String) : DecodeError :=
  .refused ("cannot decode TOML " ++ word ++ " into struct field " ++ owner ++ "." ++ name ++
    " of type " ++ typeName)

def cannotHold (form : TimeForm) (typeName : String) : DecodeError :=
  .crashed ("reflect.Set: value of type " ++ timeTypeName form ++ " is not assignable to type " ++
    typeName)

/-- A date-time that cannot be held in a place of the given type: refused when its token
names no moment, else it cannot be held. -/
def storeMoment {α : Type} (form : TimeForm) (text typeName : String) : Except DecodeError α :=
  match form.check text with
  | .error m => .error (.refused m)
  | .ok () => .error (cannotHold form typeName)

def liftFault {α : Type} (r : Except StoreFault α) : Except DecodeError α :=
  r.mapError DecodeError.ofFault

/-- Stores a value in a setting of a section whose record messages call `owner`. -/
def storeField (owner : String) (f : Field) (s : Settings) (v : Value) :
    Except DecodeError Settings :=
  match f.kind with
  | .mode k =>
    match k.read v.data with
    | .ok x => .ok (f.store s (.real x))
    | .error e => .error (.refused e.message)
  | kind =>
    match v with
    | .string t =>
      match kind with
      | .text => .ok (f.store s (.text t))
      | _ => .error (mismatch "string" owner f.name kind.typeName)
    | .integer t =>
      match kind with
      | .real => do return f.store s (.real (← liftFault (readFloat t)))
      | .whole => do return f.store s (.whole (← liftFault (readInteger t)))
      | _ => do
        let _ ← liftFault (readInteger t)
        throw (mismatch "integer" owner f.name kind.typeName)
    | .float t => do
      let x ← liftFault (readFloat t)
      match kind with
      | .real => return f.store s (.real x)
      | _ => throw (.refused ("float cannot be assigned to " ++ kind.storage))
    | .bool b =>
      match kind with
      | .flag => .ok (f.store s (.flag b))
      | _ => .error (.refused ("cannot assign boolean to a " ++ if b then "true" else "false"))
    | .array _ => .error (mismatch "array" owner f.name kind.typeName)
    | .inlineTable _ => .error (.refused ("cannot store inline table in Go type " ++ kind.storage))
    | .dateTime form t => storeMoment form t kind.typeName

/-- Stores a pair whose key is relative to a section; `unknown` is set when the key
names no setting. -/
def storeIn (sec : Section) (d : Decoding) : List String → Value → Except DecodeError Decoding
  | [], _ => .ok d
  | [k], v =>
    match sec.findField k with
    | none => .ok { d with unknown := true }
    | some f => do return { d with settings := ← storeField sec.typeName f d.settings v }
  | k :: _ :: _, _ =>
    match sec.findField k with
    | none => .ok { d with unknown := true }
    | some f => .error (.crashed ("unhandled kind " ++ f.kind.storage))

def storePairs (sec : Section) (d : Decoding) :
    List (List String × Value) → Except DecodeError Decoding
  | [] => .ok d
  | (k, v) :: rest => do storePairs sec (← storeIn sec d k v) rest

def storeSection (sec : Section) (d : Decoding) (v : Value) : Except DecodeError Decoding :=
  match v with
  | .inlineTable pairs => storePairs sec d pairs
  | .string _ => .error (mismatch "string" recordName sec.name sec.typeName)
  | .integer t => do
    let _ ← liftFault (readInteger t)
    throw (mismatch "integer" recordName sec.name sec.typeName)
  | .float t => do
    let _ ← liftFault (readFloat t)
    throw (.refused "float cannot be assigned to struct")
  | .bool b => .error (.refused ("cannot assign boolean to a " ++ if b then "true" else "false"))
  | .array _ => .error (mismatch "array" recordName sec.name sec.typeName)
  | .dateTime form t => storeMoment form t sec.typeName

def storeRoot (d : Decoding) : List String → Value → Except DecodeError Decoding
  | [], _ => .ok d
  | k :: rest, v =>
    match findSection k with
    | none => .ok { d with unknown := true }
    | some sec =>
      match rest with
      | [] => storeSection sec d v
      | _ => storeIn sec d rest v

def storePair (d : Decoding) (key : List String) (v : Value) : Except DecodeError Decoding :=
  match d.scope with
  | .root => storeRoot d key v
  | .section sec => storeIn sec d key v
  | .field kind => .error (.crashed ("unhandled kind " ++ kind.storage))
  | .skipped => .ok d

/-- What a header's key leads to: the section or setting it names, `none` when it names
nothing. -/
inductive Target where
  | section (s : Section)
  | field (kind : FieldKind)

def headerTarget : List String → Except DecodeError (Option Target)
  | [] => .ok none
  | [k] => .ok ((findSection k).map Target.section)
  | k :: f :: rest =>
    match findSection k with
    | none => .ok none
    | some sec =>
      match sec.findField f with
      | none => .ok none
      | some fld =>
        match rest with
        | [] => .ok (some (.field fld.kind))
        | _ => .error (.crashed ("unhandled part: " ++ fld.kind.storage))

def Target.typeName : Target → String
  | .section s => s.typeName
  | .field k => k.typeName

/-- Handles one expression. -/
def step (d : Decoding) (e : Expression) : Except DecodeError Decoding := do
  let passed := match d.scope, e with
    | .skipped, .keyValue _ _ => true
    | _, _ => false
  let seen ← if passed then pure d.seen
    else (d.seen.expression e).mapError DecodeError.redefined
  let d := { d with seen }
  match e with
  | .keyValue key v => storePair d key v
  | .table key =>
    match ← headerTarget key with
    | none => return { d with scope := .skipped, unknown := true }
    | some (.section s) => return { d with scope := .section s }
    | some (.field kind) => return { d with scope := .field kind }
  | .arrayTable key =>
    match ← headerTarget key with
    | none => return { d with scope := .skipped, unknown := true }
    | some t => throw (.refused ("cannot decode array table into a " ++ t.typeName))

def steps (d : Decoding) : List Expression → Except DecodeError Decoding
  | [] => .ok d
  | e :: rest => do steps (← step d e) rest

def decode (base : Settings) (text : String) : Except DecodeError Settings := do
  let reading := Toml.read text
  let d ← steps { settings := base } reading.expressions
  match reading.failure with
  | some e => throw (.malformed e)
  | none =>
    if d.unknown then throw .unknownFields
    return d.settings

end KeyedComposite.Settings
