import WorkflowCanvas.Sketch.Basic
/-!
# Drafting sketches

A draft builds a sketch step by step, without a drawing tool. Nodes are
placed in a row; the steps that describe a node apply to the node added
last and do nothing before there is one. `connect` numbers the edges it
adds.
-/


namespace WorkflowCanvas

/-- A sketch under construction. -/
structure Draft where
  nodes : List Sketch.Node := []
  edges : List Sketch.Edge := []
  /-- How many edges were added by `connect`. -/
  connections : Nat := 0

namespace Draft

/-- The distance between two nodes in the row. -/
def spacing : Float := 150

/-- Applies a change to the last item of a list. -/
def modifyLast {α : Type} (change : α → α) : List α → List α
  | [] => []
  | [x] => [change x]
  | x :: xs => x :: modifyLast change xs

/-- Applies a change to the node added last. -/
def describe (d : Draft) (change : Sketch.Node → Sketch.Node) : Draft :=
  { d with nodes := modifyLast change d.nodes }

/-- Applies a change to the data of the node added last. -/
def describeData (d : Draft) (change : Sketch.NodeData → Sketch.NodeData) : Draft :=
  d.describe fun n => { n with data := change n.data }

/-- Adds a node at the end of the row. -/
def node (d : Draft) (id tag : String) : Draft :=
  let added : Sketch.Node :=
    { id, data := { tag? := some tag }
      position? := some ⟨Float.ofNat d.nodes.length * spacing, 0⟩ }
  { d with nodes := d.nodes ++ [added] }

/-- Moves the last node. -/
def moveTo (d : Draft) (x y : Float) : Draft :=
  d.describe fun n => { n with position? := some ⟨x, y⟩ }

/-- Labels the last node. -/
def label (d : Draft) (text : String) : Draft :=
  d.describeData fun n => { n with label? := some text }

/-- Sets the parameters of the last node. A value that is no object is
ignored. -/
def parameters (d : Draft) : Json → Draft
  | .obj fields => d.describeData fun n => { n with parameters := fields }
  | _ => d

/-- Sets the operation behind the last node. -/
def delegation (d : Draft) (id kind : String) : Draft :=
  d.describeData fun n => { n with delegationId? := some id, delegationType? := some kind }

/-- Sets the selected fields of the last node. -/
def selectedFields (d : Draft) (value : Json) : Draft :=
  d.describeData fun n => { n with selectedFields? := some value }

/-- Sets the custom fields of the last node. -/
def customFields (d : Draft) (value : Json) : Draft :=
  d.describeData fun n => { n with customFields? := some value }

/-- Adds an edge under an id. -/
def edge (d : Draft) (id source target : String) : Draft :=
  { d with edges := d.edges ++ [{ id, source, target }] }

/-- Adds an edge under the next number. -/
def connect (d : Draft) (source target : String) : Draft :=
  let connections := d.connections + 1
  { d.edge ("edge-" ++ toString connections) source target with connections }

/-- The sketch drafted so far. -/
def sketch (d : Draft) : Sketch := { nodes := d.nodes, edges := d.edges }

end Draft

end WorkflowCanvas
