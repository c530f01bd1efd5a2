import WorkflowCanvas.Geometry
import WorkflowCanvas.Text.LetterCase
/-!
# Sketches

A sketch is a workflow as it is drawn: nodes with a type tag and free-form
data, and edges between node ids. Nothing is checked here. Ids may be
blank or repeated and edges may lead nowhere; `Canvas.ofSketch` decides
what of a sketch is kept and `Sketch.review` reports on it.
-/


namespace WorkflowCanvas

namespace Sketch

/-- What the author filled in at a node. -/
structure NodeData where
  /-- The type tag. -/
  tag? : Option String := none
  label? : Option String := none
  parameters : Table Json := []
  /-- Values for the customizable fields of the operation. -/
  customFields? : Option Json := none
  /-- The fields picked from the selectable ones of the operation. -/
  selectedFields? : Option Json := none
  /-- The id, the display name and the kind of the operation behind the
  node. -/
  delegationId? : Option String := none
  delegationName? : Option String := none
  delegationType? : Option String := none
deriving BEq

/-- A node as drawn. -/
structure Node where
  id : String
  /-- A type tag on the node itself, for when its data has none. -/
  outerTag? : Option String := none
  data : NodeData := {}
  position? : Option Point := none
  absolutePosition? : Option Point := none
  width? : Option Float := none
  height? : Option Float := none
deriving BEq

/-- An arrow between two nodes. -/
structure Edge where
  id : String := ""
  source : String
  target : String
deriving BEq, DecidableEq

/-- The width of a node that reports none. -/
def defaultWidth : Float := 100

/-- The height of a node that reports none. -/
def defaultHeight : Float := 60

namespace Node

/-- The type tag, trimmed and in lower case. The tag in the data wins over
the one on the node, also when it is blank. -/
def typeTag? (n : Node) : Option String :=
  match n.data.tag?.or n.outerTag? with
  | some tag =>
    let tag := Text.toLower (Text.trim tag)
    if tag = "" then none else some tag
  | none => none

/-- The upper left corner: the absolute position, else the position. -/
def origin (n : Node) : Point := (n.absolutePosition?.or n.position?).getD Point.zero

/-- The rectangle of a node on the canvas. -/
def bounds (n : Node) : Rect :=
  Rect.ofOrigin n.origin (n.width?.getD defaultWidth) (n.height?.getD defaultHeight)

end Node

end Sketch

/-- A workflow as drawn. -/
structure Sketch where
  nodes : List Sketch.Node := []
  edges : List Sketch.Edge := []
deriving BEq

namespace Sketch

/-- The first node with an id. -/
def node? (s : Sketch) (id : String) : Option Node := s.nodes.find? fun n => n.id == id

end Sketch

end WorkflowCanvas
