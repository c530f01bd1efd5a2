import WorkflowCanvas.Json.Document
/-!
# Reading records

A record is a document with declared fields. It may be written as an
object, whose other fields are passed over and whose declared ones must
not repeat, or as an array of its fields in declared order. A field is
required, optional (absent or null), or has a default for when it is
absent. In an array a field may be left out only at the end and only where
it has a default.
-/


namespace WorkflowCanvas

namespace Document

/-- The text of a string. -/
def asString? : Document → Option String
  | .str s => some s
  | _ => none

/-- A truth value. -/
def asBool? : Document → Option Bool
  | .bool b => some b
  | _ => none

/-- A number as a float. -/
def asFloat? : Document → Option Float
  | .int n => some (Float.ofInt n)
  | .float x => some x
  | _ => none

/-- An integer in the range of unsigned 64-bit words. -/
def asUnsigned? : Document → Option Nat
  | .int n => if 0 ≤ n ∧ n < Json.wordLimit then some n.toNat else none
  | _ => none

/-- An integer in the range of signed 64-bit words. -/
def asSigned? : Document → Option Int
  | .int n => if -Json.signedLimit ≤ n ∧ n < Json.signedLimit then some n else none
  | _ => none

/-- A list, its items read one by one. -/
def asList? {α : Type} (item : Document → Option α) : Document → Option (List α)
  | .arr ds => ds.mapM item
  | _ => none

/-- An object read as a table of like values, the last of a repeated key
kept. -/
def asTable? {α : Type} (value : Document → Option α) : Document → Option (Table α)
  | .obj fields => (fields.mapM fun f => (value f.2).map fun v => (f.1, v)).map Table.ofList
  | _ => none

/-- A free-form object. -/
def asFields? : Document → Option (Table Json) := asTable? toJson?

/-- A pair, written as an array. -/
def asPair? {α β : Type} (first : Document → Option α) (second : Document → Option β) :
    Document → Option (α × β)
  | .arr [a, b] => do
    let a ← first a
    let b ← second b
    return (a, b)
  | _ => none

/-- A value that may be null. -/
def asOption? {α : Type} (value : Document → Option α) : Document → Option (Option α)
  | .null => some none
  | d => (value d).map some

/-- One of several names, written as a string or as an object that holds
nothing at the name. -/
def asName? {α : Type} (ofName? : String → Option α) : Document → Option α
  | .str s => ofName? s
  | .obj [(s, .null)] => ofName? s
  | _ => none

end Document

/-- The fields of a record as found, by their declared names. -/
structure Record where
  /-- The record was written as an array. -/
  positional : Bool
  slots : List (String × Option Document)

namespace Record

/-- A declared field: its name and the other names it goes by. -/
abbrev Declared := String × List String

/-- Declared fields that go by their own name alone. -/
def plain (names : List String) : List Declared := names.map fun n => (n, [])

/-- The one field that goes by one of the names, `none` for a repeated
one. -/
def unique? (declared : Declared) (fields : List (String × Document)) :
    Option (Option Document) :=
  match fields.filter fun f => f.1 == declared.1 || declared.2.contains f.1 with
  | [] => some none
  | [f] => some (some f.2)
  | _ => none

/-- The slots of a record written as an array. -/
def slotsOfItems? : List Declared → List Document → Option (List (String × Option Document))
  | [], [] => some []
  | [], _ :: _ => none
  | f :: fs, [] => (slotsOfItems? fs []).map ((f.1, none) :: ·)
  | f :: fs, d :: ds => (slotsOfItems? fs ds).map ((f.1, some d) :: ·)

/-- The slots of a record written as an object. -/
def slotsOfFields? (declared : List Declared) (fields : List (String × Document)) :
    Option (List (String × Option Document)) :=
  declared.mapM fun f => (unique? f fields).map fun found => (f.1, found)

/-- A document as a record with the declared fields. -/
def of? (declared : List Declared) : Document → Option Record
  | .obj fields => (slotsOfFields? declared fields).map (⟨false, ·⟩)
  | .arr items => (slotsOfItems? declared items).map (⟨true, ·⟩)
  | _ => none

/-- What was found for a field. -/
def get? (r : Record) (name : String) : Option Document := (r.slots.lookup name).join

variable {α : Type}

/-- A field that must be there. -/
def required (r : Record) (name : String) (read : Document → Option α) : Option α :=
  (r.get? name).bind read

/-- A field with a value for when it is absent. -/
def default (r : Record) (name : String) (absent : α) (read : Document → Option α) : Option α :=
  match r.get? name with
  | some d => read d
  | none => some absent

/-- A field that may be null, or absent from an object. -/
def optional (r : Record) (name : String) (read : Document → Option α) : Option (Option α) :=
  match r.get? name with
  | some d => d.asOption? read
  | none => if r.positional then none else some none

/-- A field that may be null or absent, at the end of an array too. -/
def optionalDefault (r : Record) (name : String) (read : Document → Option α) :
    Option (Option α) :=
  r.default name none (Document.asOption? read)

end Record

end WorkflowCanvas
