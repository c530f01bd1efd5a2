import WorkflowCanvas.Canvas.Basic
import WorkflowCanvas.Failure
import WorkflowCanvas.Json.Printer
import WorkflowCanvas.Workflow.Basic
import WorkflowCanvas.Settings.Basic
import WorkflowCanvas.Text.LetterCase
import WorkflowCanvas.Text.Split
/-!
# The workflow of a canvas

`structural` reads the elements and flows off the shapes of a canvas.
`convert` then forces the configured identity on the workflow, attaches to
each element the properties of its shape as extension metadata, and points
every service task at the dispatcher. A free-form property is one under neither
a structural nor a reserved key. The nested custom fields come last and are not
held to this: they are attached under any key, also over what is there.
-/


namespace WorkflowCanvas

namespace Workflow

open Canvas (Shape)

/-- The id of a workflow whose canvas names none. -/
def defaultId : String := "process"

/-- The properties that make up the structure of an element. -/
def structuralKeys : List String :=
  ["overrideid", "documentation", "servicetaskclass", "servicetaskexpression",
   "servicetaskdelegateexpression", "asynchronousdefinition", "exclusive", "assignee",
   "candidateGroups", "priority", "scriptformat", "script", "conditionsequenceflow"]

/-- The properties that are attached under their own rules. -/
def reservedKeys : List String :=
  ["name", "delegationId", "delegationType", "selectedFields", "requiredFields", "customFields"]

/-- The reserved properties that become metadata, in the order in which
they do. -/
def metadataKeys : List String :=
  ["delegationId", "delegationType", "selectedFields", "requiredFields"]

/-! ## Structure -/

/-- A property as text: a string that is not blank, trimmed, or the text
of a number or a truth value. -/
def structuralText? (s : Shape) (key : String) : Option String :=
  match s.properties.get? key with
  | some (.str text) => Text.nonBlank? text
  | some (.int n) => some (Json.int n).text
  | some (.float x) => some (Json.float x).text
  | some (.bool b) => some (Json.bool b).text
  | _ => none

/-- A property as a truth value, possibly spelled out. -/
def flag? (s : Shape) (key : String) : Option Bool :=
  match s.properties.get? key with
  | some (.bool b) => some b
  | some (.str text) =>
    let text := Text.trim text
    if text = "true" then some true else if text = "false" then some false else none
  | _ => none

/-- The implementation of a service task, from the first property that
names one. -/
def implementation? (s : Shape) : Option Implementation :=
  match structuralText? s "servicetaskclass" with
  | some reference => some ⟨.className, reference⟩
  | none =>
    match structuralText? s "servicetaskexpression" with
    | some reference => some ⟨.expression, reference⟩
    | none =>
      (structuralText? s "servicetaskdelegateexpression").map fun reference =>
        ⟨.delegateExpression, reference⟩

/-- The trimmed items of a text, separated by commas, without the blank
ones. -/
def listItems (text : String) : List String := (Text.split ',' text).filterMap Text.nonBlank?

/-- The value of decimal digits, if there is at least one and nothing
else. -/
def digitsValue? (cs : List Char) : Option Nat :=
  if cs.isEmpty then none
  else cs.foldl
    (fun n c => n.bind fun n => if c.isDigit then some (n * 10 + (c.toNat - 48)) else none) (some 0)

/-- A signed 64-bit integer from its text: digits with an optional sign. -/
def signed? (text : String) : Option Int :=
  let value? : Option Int := match text.toList with
    | '-' :: cs => (digitsValue? cs).map fun n => -(n : Int)
    | '+' :: cs => (digitsValue? cs).map fun n => (n : Int)
    | cs => (digitsValue? cs).map fun n => (n : Int)
  value?.filter fun n => decide (-Json.signedLimit ≤ n ∧ n < Json.signedLimit)

/-- What the element of a shape does, if the stencil is known. -/
def kind? (s : Shape) : Option ElementKind :=
  match s.stencil with
  | "StartNoneEvent" => some .startEvent
  | "EndNoneEvent" => some .endEvent
  | "ServiceTask" => some <| .serviceTask (implementation? s)
      ((flag? s "asynchronousdefinition").getD false) ((flag? s "exclusive").getD true)
  | "UserTask" => some <| .userTask (structuralText? s "assignee")
      (((structuralText? s "candidateGroups").map listItems).getD [])
      ((structuralText? s "priority").bind signed?)
  | "ScriptTask" => some <|
      .scriptTask (structuralText? s "scriptformat") (structuralText? s "script")
  | "ParallelGateway" => some .parallelGateway
  | "ExclusiveGateway" => some .exclusiveGateway
  | _ => none

/-- The element of a shape. -/
def elementOf? (s : Shape) : Option Element :=
  (kind? s).map fun kind =>
    { id := s.elementId
      name? := structuralText? s "name"
      kind
      documentation? := structuralText? s "documentation"
      bounds? := some s.bounds }

/-- The id of the element of a shape, by the resource id of the shape. The
last shape with the resource id counts, among those that have an
element. -/
def elementIdOf? (shapes : List Shape) (resourceId : String) : Option String :=
  ((shapes.filter fun s => s.resourceId == resourceId && (kind? s).isSome).getLast?).map
    (·.elementId)

/-- The flow of a connection, if both its ends have elements. -/
def flowOf? (shapes : List Shape) (s : Shape) : Option Flow := do
  let source ← s.flowSource?.bind (elementIdOf? shapes)
  let target ← s.flowTarget?.bind (elementIdOf? shapes)
  return { id := s.elementId, source, target
           name? := structuralText? s "name"
           condition? := structuralText? s "conditionsequenceflow" }

/-- **The workflows on a canvas**: one, or none if no shape is a node. -/
def structural (c : Canvas) : List Workflow :=
  if c.nodeShapes.isEmpty then []
  else
    [{ id := (c.textProperty? "process_id").getD defaultId
       name? := c.textProperty? "name"
       namespaceUri? := c.textProperty? "process_namespace"
       elements := c.nodeShapes.filterMap elementOf?
       flows := c.flowShapes.filterMap (flowOf? c.nodeShapes) }]

/-! ## Metadata -/

mutual

/-- A value as metadata: a trimmed text that is not empty. The texts of
the items of an array are joined by commas. -/
def metadataText? : Json → Option String
  | .null => none
  | .str s =>
    let text := Text.trim s
    if text = "" then none else some text
  | .arr items =>
    let text := ",".intercalate (metadataTexts items)
    if text = "" then none else some text
  | .bool b => some (Json.bool b).text
  | .int n => some (Json.int n).text
  | .float x => some (Json.float x).text
  | .obj fields => some (Json.obj fields).text

/-- The texts of the values that have one. -/
def metadataTexts : List Json → List String
  | [] => []
  | v :: vs =>
    match metadataText? v with
    | some text => text :: metadataTexts vs
    | none => metadataTexts vs

end

/-- A property is attached as it is. -/
def isFreeForm (key : String) : Bool := !reservedKeys.contains key && !structuralKeys.contains key

/-- Attaches fields as metadata, each under the key that `rename` gives
it. -/
def attach (rename : String → String) (x : Extensions) (fields : List (String × Json)) :
    Extensions :=
  fields.foldl (fun x field => x.setSome (rename field.1) (metadataText? field.2)) x

/-- The fields of a table at the given keys. -/
def fieldsAt (properties : Table Json) (keys : List String) : List (String × Json) :=
  keys.filterMap fun key => (properties.get? key).map fun v => (key, v)

/-- An element with the properties of its shape attached: the free-form
ones, the reserved ones, and last the nested custom fields under their
aliases. -/
def enrich (aliases : Table String) (properties : Table Json) (e : Element) : Element :=
  let x := attach (fun key => key) e.extensions (properties.filter fun field => isFreeForm field.1)
  let x := attach (fun key => key) x (fieldsAt properties metadataKeys)
  let custom := ((properties.get? "customFields").bind Json.fields?).getD []
  { e with
    name? := ((properties.get? "name").bind metadataText?).or e.name?
    extensions := attach (Settings.aliasFor aliases) x custom }

/-- The properties of the shape behind an element: the last one with that
element id. -/
def propertiesOf? (shapes : List Shape) (elementId : String) : Option (Table Json) :=
  ((shapes.filter fun s => s.elementId == elementId).getLast?).map (·.properties)

/-- A service task runs through the dispatcher. -/
def routed (e : Element) : Element :=
  match e.kind with
  | .serviceTask _ asynchronous exclusive =>
    { e with
      kind := .serviceTask (some ⟨.className, Settings.dispatcherRef⟩) asynchronous exclusive }
  | _ => e

/-- An element as it is deployed. -/
def finish (aliases : Table String) (shapes : List Shape) (e : Element) : Element :=
  match propertiesOf? shapes e.id with
  | some properties => routed (enrich aliases properties e)
  | none => routed e

/-- **The workflow of a canvas**, given the workflows that were read off
it: the first of them, under the given identity. -/
def convertWith (builder : Canvas → List Workflow) (identity : Settings.Identity)
    (aliases : Table String) (c : Canvas) : Except Failure Workflow :=
  match builder c with
  | [] => .error .emptyConversion
  | p :: _ => .ok
    { p with
      id := identity.id
      name? := some identity.name
      namespaceUri? := some identity.namespaceUri
      elements := p.elements.map (finish aliases c.nodeShapes) }

/-- The workflow of a canvas under the given settings. -/
def convert (settings : Settings) (c : Canvas) : Except Failure Workflow :=
  convertWith structural settings.identity settings.fieldAliases c

end Workflow

end WorkflowCanvas
