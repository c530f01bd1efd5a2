import WorkflowCanvas.Json.Printer
import WorkflowCanvas.Json.Reader
import WorkflowCanvas.Sketch.Basic
/-!
# Sketches as documents

The document of a sketch is what a drawing tool stores: absent properties
are left out, and an unknown property is passed over.
-/


namespace WorkflowCanvas

namespace Sketch

open Document (asString? asFloat? asOption? asList? asFields?)

namespace NodeData

/-- The data of a node from its document. -/
def ofDocument? (d : Document) : Option NodeData := do
  let r ← Record.of? (Record.plain ["nodeType", "label", "parameters", "customFields",
    "selectedFields", "delegationId", "delegationName", "delegationType"]) d
  let tag? ← r.optionalDefault "nodeType" asString?
  let label? ← r.optionalDefault "label" asString?
  let parameters ← r.default "parameters" [] asFields?
  let customFields? ← r.optionalDefault "customFields" Document.toJson?
  let selectedFields? ← r.optionalDefault "selectedFields" Document.toJson?
  let delegationId? ← r.optionalDefault "delegationId" asString?
  let delegationName? ← r.optionalDefault "delegationName" asString?
  let delegationType? ← r.optionalDefault "delegationType" asString?
  return { tag?, label?, parameters, customFields?, selectedFields?, delegationId?,
           delegationName?, delegationType? }

/-- The document of the data of a node. -/
def toDocument (n : NodeData) : Document :=
  .obj <|
    Document.field? "nodeType" .str n.tag?
    ++ Document.field? "label" .str n.label?
    ++ Document.fieldUnlessEmpty "parameters" Document.fields n.parameters
    ++ Document.field? "customFields" Document.ofJson n.customFields?
    ++ Document.field? "selectedFields" Document.ofJson n.selectedFields?
    ++ Document.field? "delegationId" .str n.delegationId?
    ++ Document.field? "delegationName" .str n.delegationName?
    ++ Document.field? "delegationType" .str n.delegationType?

end NodeData

namespace Node

/-- A node from its document. -/
def ofDocument? (d : Document) : Option Node := do
  let r ← Record.of? (Record.plain ["id", "type", "data", "position", "positionAbsolute",
    "width", "height"]) d
  let id ← r.required "id" asString?
  let outerTag? ← r.optionalDefault "type" asString?
  let data ← r.default "data" {} NodeData.ofDocument?
  let position? ← r.optionalDefault "position" Point.ofDocument?
  let absolutePosition? ← r.optionalDefault "positionAbsolute" Point.ofDocument?
  let width? ← r.optionalDefault "width" asFloat?
  let height? ← r.optionalDefault "height" asFloat?
  return { id, outerTag?, data, position?, absolutePosition?, width?, height? }

/-- The document of a node. -/
def toDocument (n : Node) : Document :=
  .obj <|
    [("id", .str n.id)]
    ++ Document.field? "type" .str n.outerTag?
    ++ [("data", n.data.toDocument)]
    ++ Document.field? "position" Point.toDocument n.position?
    ++ Document.field? "positionAbsolute" Point.toDocument n.absolutePosition?
    ++ Document.field? "width" Document.number n.width?
    ++ Document.field? "height" Document.number n.height?

end Node

namespace Edge

/-- An edge from its document. -/
def ofDocument? (d : Document) : Option Edge := do
  let r ← Record.of? (Record.plain ["id", "source", "target"]) d
  let id ← r.default "id" "" asString?
  let source ← r.required "source" asString?
  let target ← r.required "target" asString?
  return { id, source, target }

/-- The document of an edge. -/
def toDocument (e : Edge) : Document :=
  .obj [("id", .str e.id), ("source", .str e.source), ("target", .str e.target)]

end Edge

/-- A sketch from its document. -/
def ofDocument? (d : Document) : Option Sketch := do
  let r ← Record.of? (Record.plain ["nodes", "edges"]) d
  let nodes ← r.default "nodes" [] (asList? Node.ofDocument?)
  let edges ← r.default "edges" [] (asList? Edge.ofDocument?)
  return { nodes, edges }

/-- The document of a sketch. -/
def toDocument (s : Sketch) : Document :=
  .obj [("nodes", Document.list Node.toDocument s.nodes),
        ("edges", Document.list Edge.toDocument s.edges)]

/-- A sketch from its text. -/
def parse? (s : String) : Option Sketch := (Document.parse? s).bind ofDocument?

end Sketch

end WorkflowCanvas
