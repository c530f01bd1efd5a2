import WorkflowCanvas.Json.Basic
/-!
# JSON documents

A document is what a JSON text says before it is read as a value: the
fields of an object in written order, with repeats. Some texts are well
formed and still stand for no value: a number beyond the floats, an
unpaired surrogate, a container nested too deep. Such a part is
`unreadable`; it spoils whatever looks at it and nothing that passes over
it. `toJson?` reads a document as a value, and `ofJson` is the document of
a value.
-/


namespace WorkflowCanvas

/-- A JSON text as written. -/
inductive Document where
  | null
  | bool (b : Bool)
  | int (n : Int)
  | float (x : Float)
  | str (s : String)
  | arr (items : List Document)
  | obj (fields : List (String × Document))
  | unreadable
deriving Inhabited

namespace Document

mutual

/-- The value of a document: fields sorted, the last of a repeated key
kept. -/
def toJson? : Document → Option Json
  | .null => some .null
  | .bool b => some (.bool b)
  | .int n => some (.int n)
  | .float x => some (.float x)
  | .str s => some (.str s)
  | .arr items => (itemsToJson? items).map .arr
  | .obj fields => (fieldsToJson? fields).map fun entries => .obj (Table.ofList entries)
  | .unreadable => none

/-- The values of a list of documents. -/
def itemsToJson? : List Document → Option (List Json)
  | [] => some []
  | d :: ds => do
    let v ← toJson? d
    let vs ← itemsToJson? ds
    return v :: vs

/-- The values of fields, in written order. -/
def fieldsToJson? : List (String × Document) → Option (List (String × Json))
  | [] => some []
  | (k, d) :: ds => do
    let v ← toJson? d
    let vs ← fieldsToJson? ds
    return (k, v) :: vs

end

mutual

/-- The document of a value. -/
def ofJson : Json → Document
  | .null => .null
  | .bool b => .bool b
  | .int n => .int n
  | .float x => .float x
  | .str s => .str s
  | .arr items => .arr (itemsOfJson items)
  | .obj fields => .obj (fieldsOfJson fields)

/-- The documents of a list of values. -/
def itemsOfJson : List Json → List Document
  | [] => []
  | v :: vs => ofJson v :: itemsOfJson vs

/-- The documents of fields. -/
def fieldsOfJson : List (String × Json) → List (String × Document)
  | [] => []
  | (k, v) :: vs => (k, ofJson v) :: fieldsOfJson vs

end

/-- A float in a document. What is not finite is written as null. -/
def number (x : Float) : Document := if x.isFinite then .float x else .null

/-- A text, or null. -/
def text? : Option String → Document
  | some s => .str s
  | none => .null

/-- A list of documents. -/
def list {α : Type} (encode : α → Document) (xs : List α) : Document := .arr (xs.map encode)

/-- An object of a table. -/
def table {α : Type} (encode : α → Document) (t : Table α) : Document :=
  .obj (t.map fun e => (e.1, encode e.2))

/-- A free-form object. -/
def fields (t : Table Json) : Document := table ofJson t

/-- A field that is left out when it is absent. -/
def field? {α : Type} (key : String) (encode : α → Document) : Option α → List (String × Document)
  | some v => [(key, encode v)]
  | none => []

/-- A field that is left out when its list is empty. -/
def fieldUnlessEmpty {α : Type} (key : String) (encode : List α → Document) :
    List α → List (String × Document)
  | [] => []
  | xs => [(key, encode xs)]

end Document

end WorkflowCanvas
