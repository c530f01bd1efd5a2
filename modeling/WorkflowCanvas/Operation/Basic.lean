import WorkflowCanvas.Json.Record
import WorkflowCanvas.Text.LetterCase
/-!
# Operations

An operation is a reusable piece of business logic that steps of a workflow
refer to by its id. Its descriptor says what it does, which variables it
reads and writes, and under which reference its handler is found.
-/


namespace WorkflowCanvas

namespace Operation

/-- Where the work of an operation is done. -/
inductive Kind where
  | service
  | script
  | userTask
deriving BEq, DecidableEq

namespace Kind

/-- The name shown to people. -/
def label : Kind → String
  | .service => "Service"
  | .script => "Script"
  | .userTask => "User Task"

/-- The name in documents. -/
def symbol : Kind → String
  | .service => "SERVICE"
  | .script => "SCRIPT"
  | .userTask => "USER_TASK"

/-- The kind with a name: the one in documents or the one shown to
people. -/
def ofSymbol? : String → Option Kind
  | "SERVICE" | "Service" => some .service
  | "SCRIPT" | "Script" => some .script
  | "USER_TASK" | "User Task" => some .userTask
  | _ => none

/-- The kind that a person names: ASCII letters and digits count, in any
case, and nothing else does. -/
def ofText? (s : String) : Option Kind :=
  match String.ofList ((s.toList.filter Char.isAlphanum).map Text.lowerAscii) with
  | "service" => some .service
  | "script" => some .script
  | "usertask" | "user" => some .userTask
  | _ => none

/-- What is said of a name that is no kind. -/
def unknownMessage (s : String) : String := "unknown operation kind '" ++ s ++ "'"

/-- A kind from its document. -/
def ofDocument? (d : Document) : Option Kind := d.asName? ofSymbol?

/-- The document of a kind. -/
def toDocument (k : Kind) : Document := .str k.symbol

end Kind

/-- The catalogue entry of an operation. -/
structure Descriptor where
  id : String
  description : String
  category : String
  kind : Kind
  /-- The variables the operation reads. -/
  inputs : List String := []
  /-- The variables the operation writes. -/
  outputs : List String := []
  /-- The reference of the handler. -/
  handlerRef? : Option String := none
  /-- The fields that can be selected at a node. -/
  selectableFields : List String := []
  /-- The fields that can be filled in at a node. -/
  customizableFields : List String := []
deriving BEq, DecidableEq

namespace Descriptor

open Document (asString? asList?)

/-- The trimmed reference of the handler, if it is not blank. -/
def resolvedRef? (d : Descriptor) : Option String := d.handlerRef?.bind Text.nonBlank?

/-- A descriptor from its document. -/
def ofDocument? (d : Document) : Option Descriptor := do
  let r ← Record.of? (Record.plain ["id", "description", "category", "delegationType", "inputs",
    "outputs", "delegateClass", "selectableFields", "customizableFields"]) d
  let id ← r.required "id" asString?
  let description ← r.required "description" asString?
  let category ← r.required "category" asString?
  let kind ← r.required "delegationType" Kind.ofDocument?
  let inputs ← r.default "inputs" [] (asList? asString?)
  let outputs ← r.default "outputs" [] (asList? asString?)
  let handlerRef? ← r.optionalDefault "delegateClass" asString?
  let selectableFields ← r.default "selectableFields" [] (asList? asString?)
  let customizableFields ← r.default "customizableFields" [] (asList? asString?)
  return { id, description, category, kind, inputs, outputs, handlerRef?, selectableFields,
           customizableFields }

/-- The document of a descriptor. -/
def toDocument (d : Descriptor) : Document :=
  .obj <|
    [("id", .str d.id), ("description", .str d.description), ("category", .str d.category),
     ("delegationType", d.kind.toDocument), ("inputs", Document.list .str d.inputs),
     ("outputs", Document.list .str d.outputs)]
    ++ Document.field? "delegateClass" .str d.handlerRef?
    ++ [("selectableFields", Document.list .str d.selectableFields),
        ("customizableFields", Document.list .str d.customizableFields)]

end Descriptor

end Operation

end WorkflowCanvas
