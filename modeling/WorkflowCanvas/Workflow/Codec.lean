import WorkflowCanvas.Json.Record
import WorkflowCanvas.Workflow.Basic
/-!
# Workflows as documents

The fields of an element's kind stand beside the element's own fields, with
the name of the kind under `type`. Reading an element therefore looks at
every field it does not declare itself: all of them must be readable, and
those of the kind must not repeat.
-/


namespace WorkflowCanvas

namespace Workflow

open Document (asString? asBool? asSigned? asList?)

namespace ImplementationKind

/-- The name of a way to implement. -/
def label : ImplementationKind → String
  | .className => "class"
  | .expression => "expression"
  | .delegateExpression => "delegateExpression"

/-- The way to implement with a name. -/
def ofLabel? : String → Option ImplementationKind
  | "class" => some .className
  | "expression" => some .expression
  | "delegateExpression" => some .delegateExpression
  | _ => none

end ImplementationKind

namespace Implementation

/-- An implementation from its document. -/
def ofDocument? (d : Document) : Option Implementation := do
  let r ← Record.of? (Record.plain ["kind", "reference"]) d
  let kind ← r.required "kind" (Document.asName? ImplementationKind.ofLabel?)
  let reference ← r.required "reference" asString?
  return { kind, reference }

/-- The document of an implementation. -/
def toDocument (i : Implementation) : Document :=
  .obj [("kind", .str i.kind.label), ("reference", .str i.reference)]

end Implementation

namespace ElementKind

/-- The names of the kinds in order. -/
def tags : List String :=
  ["startEvent", "endEvent", "serviceTask", "userTask", "scriptTask", "parallelGateway",
   "exclusiveGateway"]

/-- The name of a kind, given as such or as its place among the kinds. -/
def tagOfDocument? : Document → Option String
  | .str tag => some tag
  | .int n => if n < 0 then none else tags[n.toNat]?
  | _ => none

/-- A kind by its name, from the fields of its element. -/
def ofFields? (tag : String) (d : Document) : Option ElementKind :=
  match tag with
  | "startEvent" => some .startEvent
  | "endEvent" => some .endEvent
  | "serviceTask" => do
    let r ← Record.of? (Record.plain ["implementation", "asynchronous", "exclusive"]) d
    let implementation? ← r.optional "implementation" Implementation.ofDocument?
    let asynchronous ← r.required "asynchronous" asBool?
    let exclusive ← r.required "exclusive" asBool?
    return .serviceTask implementation? asynchronous exclusive
  | "userTask" => do
    let r ← Record.of? (Record.plain ["assignee", "candidateGroups", "priority"]) d
    let assignee? ← r.optional "assignee" asString?
    let candidateGroups ← r.required "candidateGroups" (asList? asString?)
    let priority? ← r.optional "priority" asSigned?
    return .userTask assignee? candidateGroups priority?
  | "scriptTask" => do
    let r ← Record.of? (Record.plain ["format", "script"]) d
    let format? ← r.optional "format" asString?
    let script? ← r.optional "script" asString?
    return .scriptTask format? script?
  | "parallelGateway" => some .parallelGateway
  | "exclusiveGateway" => some .exclusiveGateway
  | _ => none

/-- The fields of a kind. -/
def toFields : ElementKind → List (String × Document)
  | .serviceTask implementation? asynchronous exclusive =>
    [("type", .str "serviceTask"),
     ("implementation", (implementation?.map Implementation.toDocument).getD .null),
     ("asynchronous", .bool asynchronous), ("exclusive", .bool exclusive)]
  | .userTask assignee? candidateGroups priority? =>
    [("type", .str "userTask"), ("assignee", Document.text? assignee?),
     ("candidateGroups", Document.list .str candidateGroups),
     ("priority", (priority?.map Document.int).getD .null)]
  | .scriptTask format? script? =>
    [("type", .str "scriptTask"), ("format", Document.text? format?),
     ("script", Document.text? script?)]
  | kind => [("type", .str kind.tag)]

end ElementKind

namespace Element

/-- The fields an element declares itself. -/
def ownFields : List String := ["id", "name", "documentation", "extensions", "bounds"]

/-- Extension metadata from its document. -/
def extensionsOfDocument? (d : Document) : Option Extensions :=
  (asList? (Document.asPair? asString? asString?) d).map (⟨·⟩)

/-- An element from its document. -/
def ofDocument? : Document → Option Element
  | .obj fields => do
    let r ← Record.of? (Record.plain ownFields) (.obj fields)
    let others := fields.filter fun f => !ownFields.contains f.1
    let _ ← Document.fieldsToJson? others
    let id ← r.required "id" asString?
    let name? ← r.optional "name" asString?
    let documentation? ← r.optionalDefault "documentation" asString?
    let extensions ← r.default "extensions" {} extensionsOfDocument?
    let bounds? ← r.optionalDefault "bounds" Rect.ofDocument?
    let tagged ← Record.of? (Record.plain ["type"]) (.obj others)
    let tag ← tagged.required "type" ElementKind.tagOfDocument?
    let kind ← ElementKind.ofFields? tag (.obj others)
    return { id, name?, kind, documentation?, extensions, bounds? }
  | _ => none

/-- The document of an element. -/
def toDocument (e : Element) : Document :=
  .obj <|
    [("id", .str e.id), ("name", Document.text? e.name?)]
    ++ e.kind.toFields
    ++ [("documentation", Document.text? e.documentation?),
        ("extensions", Document.list (fun x => .arr [.str x.1, .str x.2]) e.extensions.entries),
        ("bounds", (e.bounds?.map Rect.toDocument).getD .null)]

end Element

namespace Flow

/-- A flow from its document. -/
def ofDocument? (d : Document) : Option Flow := do
  let r ← Record.of? (Record.plain ["id", "source", "target", "name", "condition"]) d
  let id ← r.required "id" asString?
  let source ← r.required "source" asString?
  let target ← r.required "target" asString?
  let name? ← r.optional "name" asString?
  let condition? ← r.optional "condition" asString?
  return { id, source, target, name?, condition? }

/-- The document of a flow. -/
def toDocument (f : Flow) : Document :=
  .obj [("id", .str f.id), ("source", .str f.source), ("target", .str f.target),
        ("name", Document.text? f.name?), ("condition", Document.text? f.condition?)]

end Flow

/-- A workflow from its document. -/
def ofDocument? (d : Document) : Option Workflow := do
  let r ← Record.of? (Record.plain ["id", "name", "namespace", "elements", "flows"]) d
  let id ← r.required "id" asString?
  let name? ← r.optional "name" asString?
  let namespaceUri? ← r.optional "namespace" asString?
  let elements ← r.required "elements" (asList? Element.ofDocument?)
  let flows ← r.required "flows" (asList? Flow.ofDocument?)
  return { id, name?, namespaceUri?, elements, flows }

/-- The document of a workflow. -/
def toDocument (p : Workflow) : Document :=
  .obj [("id", .str p.id), ("name", Document.text? p.name?),
        ("namespace", Document.text? p.namespaceUri?),
        ("elements", Document.list Element.toDocument p.elements),
        ("flows", Document.list Flow.toDocument p.flows)]

end Workflow

end WorkflowCanvas
