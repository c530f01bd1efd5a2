import WorkflowCanvas.Geometry
import WorkflowCanvas.Text.Blank
/-!
# Canvases

A canvas is a workflow laid out for a graphical modeller: one shape for
every node and one for every connection. Connectivity is held on both sides. A
node shape lists the flows that leave and enter it, and a flow shape points
back at its two ends.
-/


namespace WorkflowCanvas

namespace Canvas

/-- A node or a connection on a canvas. -/
structure Shape where
  resourceId : String
  properties : Table Json
  /-- The id of the stencil, which says what the shape stands for. -/
  stencil : String
  childShapes : List Shape := []
  bounds : Rect
  /-- The resource ids of the shapes that the shape leads to. -/
  outgoing : List String := []
  /-- The resource ids of the shapes that lead to the shape. -/
  incoming : List String := []
  dockers : List Point := []
  target? : Option String := none

/-- The stencil set a canvas was drawn with. -/
structure StencilSet where
  namespaceUri : String := "http://b3mn.org/stencilset/bpmn2.0#"
  url : String := "stencilsets/bpmn2.0/bpmn2.0.json"
deriving BEq, DecidableEq

/-- The stencil of a canvas. -/
def rootStencil : String := "BPMNDiagram"

/-- The stencil of a connection. -/
def flowStencil : String := "SequenceFlow"

/-- The resource id of a canvas. -/
def rootId : String := "canvas"

namespace Shape

/-- The shape is a connection. -/
def isFlow (s : Shape) : Bool := s.stencil == flowStencil

/-- The trimmed text of a string property, if it is not blank. -/
def textProperty? (s : Shape) (key : String) : Option String :=
  (s.properties.get? key).bind fun v => v.str?.bind Text.nonBlank?

/-- The id that the element of a shape gets: the id forced on it, else its
resource id. -/
def elementId (s : Shape) : String := (s.textProperty? "overrideid").getD s.resourceId

/-- Where a connection comes from. -/
def flowSource? (s : Shape) : Option String := s.incoming.head?

/-- Where a connection leads. -/
def flowTarget? (s : Shape) : Option String := s.target?.or s.outgoing.head?

end Shape

end Canvas

/-- A workflow laid out for a modeller. -/
structure Canvas where
  resourceId : String
  properties : Table Json
  stencil : String
  childShapes : List Canvas.Shape
  bounds : Rect
  stencilSet : Canvas.StencilSet := {}
  extensions : List String := []

namespace Canvas

/-- The shapes that are no connections. -/
def nodeShapes (c : Canvas) : List Shape := c.childShapes.filter fun s => !s.isFlow

/-- The connections. -/
def flowShapes (c : Canvas) : List Shape := c.childShapes.filter fun s => s.isFlow

/-- The first shape with a resource id. -/
def shape? (c : Canvas) (id : String) : Option Shape :=
  c.childShapes.find? fun s => s.resourceId == id

/-- The text of a string property of the canvas, if it is not blank. -/
def textProperty? (c : Canvas) (key : String) : Option String :=
  (c.properties.get? key).bind fun v =>
    v.str?.bind fun s => if (Text.nonBlank? s).isSome then some s else none

end Canvas

end WorkflowCanvas
