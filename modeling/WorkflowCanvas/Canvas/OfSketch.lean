import WorkflowCanvas.Canvas.Basic
import WorkflowCanvas.Json.Merge
import WorkflowCanvas.Json.Printer
import WorkflowCanvas.Settings.Basic
import WorkflowCanvas.Sketch.Basic
/-!
# The canvas of a sketch

Nodes and edges are visited in the order of the sketch. A node is accepted
if its id is not blank, no accepted node has the same id, and its shape id
is free; an edge is kept if both its ends are accepted and its shape id is
free. What is not accepted leaves no trace.

The properties of a node shape are layers, each written over the ones
before: the defaults of the mapping, the label, the parameters, the
operation, the selected fields, the custom fields, a name for what has
none, the role of a gateway, and last the properties forced on the node,
merged deeply.
-/


namespace WorkflowCanvas

namespace Canvas

open Sketch (Node Edge)

/-! ## Shape ids -/

/-- A character that an id may hold. -/
def isIdChar (c : Char) : Bool := c.isAlphanum || c == '_' || c == '-'

/-- The id with every character that an id may not hold replaced by `_`. -/
def sanitizeId (id : String) : String :=
  String.ofList (id.toList.map fun c => if isIdChar c then c else '_')

/-- An accepted node and the id of its shape. -/
structure Placed where
  node : Node
  resourceId : String

/-- A kept edge, the id of its shape and its two ends. -/
structure Link where
  edge : Edge
  resourceId : String
  source : Placed
  target : Placed

/-- A node can be accepted beside those accepted before. -/
def isAcceptable (placed : List Placed) (n : Node) : Bool :=
  (Text.nonBlank? n.id).isSome
  && !placed.any (fun p => p.node.id == n.id)
  && !placed.any (fun p => p.resourceId == sanitizeId n.id)

/-- The accepted nodes in order, behind those accepted before. -/
def placeFrom (placed : List Placed) : List Node → List Placed
  | [] => placed
  | n :: rest =>
    if isAcceptable placed n then placeFrom (placed ++ [⟨n, sanitizeId n.id⟩]) rest
    else placeFrom placed rest

/-- The accepted nodes of a sketch. -/
def place (s : Sketch) : List Placed := placeFrom [] s.nodes

/-- The accepted node with an id. -/
def placed? (placed : List Placed) (id : String) : Option Placed :=
  placed.find? fun p => p.node.id == id

/-- The candidates for the id of an edge without one: the base, then the
base with the numbers from two on. -/
def candidate (base : String) (n : Nat) : String :=
  if n = 1 then base else base ++ "_" ++ toString n

/-- The base of the id of an edge without one. -/
def flowBase (e : Edge) : String := sanitizeId ("flow_" ++ e.source ++ "__" ++ e.target)

/-- The first candidate that is free from the `n`-th on, if so many tries come
to one. -/
def freeCandidate? (taken : List String) (base : String) : Nat → Nat → Option String
  | 0, _ => none
  | tries + 1, n =>
    if taken.contains (candidate base n) then freeCandidate? taken base tries (n + 1)
    else some (candidate base n)

/-- Claims the shape id of an edge: the id, if the edge gets one, and the ids
that are then taken. Of as many candidates as there are ids taken, and one
more, one is free. -/
def claimId (taken : List String) (e : Edge) : Option String × List String :=
  if (Text.nonBlank? e.id).isSome then
    let id := sanitizeId e.id
    if taken.contains id then (none, taken) else (some id, id :: taken)
  else
    match freeCandidate? taken (flowBase e) (taken.length + 1) 1 with
    | some id => (some id, id :: taken)
    | none => (none, taken)

/-- The kept edges in order, given the ids in use. -/
def linkFrom (placed : List Placed) (taken : List String) : List Edge → List Link
  | [] => []
  | e :: rest =>
    match placed? placed e.source, placed? placed e.target with
    | some source, some target =>
      match claimId taken e with
      | (some id, taken) => ⟨e, id, source, target⟩ :: linkFrom placed taken rest
      | (none, taken) => linkFrom placed taken rest
    | _, _ => linkFrom placed taken rest

/-- The kept edges of a sketch. -/
def link (s : Sketch) (placed : List Placed) : List Link :=
  linkFrom placed (placed.map (·.resourceId)) s.edges

/-! ## Properties -/

mutual

/-- A value as the text of a property. Items of an array are joined by
commas; null is no text. -/
def propertyText? : Json → Option String
  | .null => none
  | .str s => some s
  | .arr items => some (",".intercalate (propertyTexts items))
  | .bool b => some (Json.bool b).text
  | .int n => some (Json.int n).text
  | .float x => some (Json.float x).text
  | .obj fields => some (Json.obj fields).text

/-- The texts of the values that have one. -/
def propertyTexts : List Json → List String
  | [] => []
  | v :: vs =>
    match propertyText? v with
    | some text => text :: propertyTexts vs
    | none => propertyTexts vs

end

/-- How many edges enter and leave a node, among those whose ends are both
nodes of the sketch. -/
structure Degree where
  incoming : Nat
  outgoing : Nat

/-- The degree of a node id in a sketch. -/
def degree (s : Sketch) (id : String) : Degree :=
  let known (id : String) := s.nodes.any fun n => n.id == id
  let linked := s.edges.filter fun e => known e.source && known e.target
  ⟨(linked.filter fun e => e.target == id).length, (linked.filter fun e => e.source == id).length⟩

/-- The role name of a gateway: it splits or it joins. -/
def roleName? (roles? : Option Settings.Roles) (d : Degree) : Option String :=
  roles?.bind fun roles =>
    if d.outgoing > 1 ∧ d.incoming ≤ 1 then some roles.split
    else if d.incoming > 1 ∧ d.outgoing ≤ 1 then some roles.join
    else none

/-- The name of a node that was given none. -/
def defaultName (tag? : Option String) : String :=
  match tag? with
  | some tag => if tag = "" then "Node" else Text.capitalize tag
  | none => "Node"

/-- Writes the texts of fields into a table, each under the key that
`rename` gives it. -/
def insertTexts (rename : String → String) (properties : Table Json) (fields : Table Json) :
    Table Json :=
  fields.foldl
    (fun properties field =>
      properties.insertSome (rename field.1) ((propertyText? field.2).map .str))
    properties

/-- Writes a text under a key, trimmed, unless it is blank or absent. -/
def insertTrimmed (properties : Table Json) (key : String) (text? : Option String) : Table Json :=
  properties.insertSome key ((text?.bind Text.nonBlank?).map .str)

/-- Writes the selected fields; a user step requires them as well. -/
def insertSelected (properties : Table Json) (tag? : Option String) (selected? : Option Json) :
    Table Json :=
  match selected?.bind propertyText? with
  | some text =>
    if text = "" then properties
    else
      let properties :=
        if tag? = some "user" then properties.insert "requiredFields" (.str text) else properties
      properties.insert "selectedFields" (.str text)
  | none => properties

/-- A table has a name that is not blank. -/
def hasName (properties : Table Json) : Bool :=
  ((properties.get? "name").bind fun v => v.str?.bind Text.nonBlank?).isSome

/-- Names a node that has no name, unless it is a start or an end. -/
def insertName (properties : Table Json) (tag? : Option String) : Table Json :=
  if tag? = some "start" ∨ tag? = some "end" ∨ hasName properties = true then properties
  else properties.insert "name" (.str (defaultName tag?))

/-- **The properties of a node shape.** -/
def nodeProperties (settings : Settings) (degree : Degree) (n : Node) : Table Json :=
  let tag? := n.typeTag?
  let mapping := settings.mappingFor tag?
  let data := n.data
  let properties := insertTrimmed mapping.properties "name" data.label?
  let properties := insertTexts id properties data.parameters
  let properties := insertTrimmed properties "delegationId" data.delegationId?
  let properties := insertTrimmed properties "delegationName" data.delegationName?
  let properties := insertTrimmed properties "delegationType" data.delegationType?
  let properties := insertSelected properties tag? data.selectedFields?
  let properties := match data.customFields?.bind Json.fields? with
    | some fields => insertTexts (Settings.aliasFor settings.fieldAliases) properties fields
    | none => properties
  let properties := insertName properties tag?
  let properties := properties.insertSome "name" ((roleName? mapping.roles? degree).map .str)
  match settings.nodeOverrides.get? n.id with
  | some overrides => Json.merge properties overrides
  | none => properties

/-! ## Shapes -/

/-- The shape of an accepted node among the kept edges. -/
def nodeShape (settings : Settings) (s : Sketch) (links : List Link) (p : Placed) : Shape where
  resourceId := p.resourceId
  properties := nodeProperties settings (degree s p.node.id) p.node
  stencil := (settings.mappingFor p.node.typeTag?).stencil
  bounds := p.node.bounds
  outgoing := (links.filter fun l => l.source.resourceId == p.resourceId).map (·.resourceId)
  incoming := (links.filter fun l => l.target.resourceId == p.resourceId).map (·.resourceId)

/-- The properties of an edge shape. -/
def edgeProperties (settings : Settings) (l : Link) : Table Json :=
  let properties : Table Json := [("overrideid", .str l.resourceId)]
  match settings.edgeOverrides.get? l.edge.id with
  | some overrides => Json.merge properties overrides
  | none => properties

/-- Where a connection docks at either end. -/
def docker : Point := ⟨15, 15⟩

/-- The shape of a kept edge. -/
def edgeShape (settings : Settings) (l : Link) : Shape where
  resourceId := l.resourceId
  properties := edgeProperties settings l
  stencil := flowStencil
  bounds := Rect.spanning l.source.node.bounds.center l.target.node.bounds.center
    settings.boundsPadding
  outgoing := [l.target.resourceId]
  incoming := [l.source.resourceId]
  dockers := [docker, docker]
  target? := some l.target.resourceId

/-- The least extent of a canvas. -/
def leastBounds : Rect := ⟨⟨0, 0⟩, ⟨1700, 1200⟩⟩

/-- **The canvas of a sketch.** Its bounds take in the shapes of the
nodes. -/
def ofSketch (settings : Settings) (s : Sketch) : Canvas :=
  let placed := place s
  let links := link s placed
  let nodeShapes := placed.map (nodeShape settings s links)
  { resourceId := rootId
    properties := [("name", .str settings.identity.name),
                   ("process_id", .str settings.identity.id),
                   ("process_namespace", .str settings.identity.namespaceUri)]
    stencil := rootStencil
    childShapes := nodeShapes ++ links.map (edgeShape settings)
    bounds := nodeShapes.foldl (fun bounds shape => bounds.union shape.bounds) leastBounds }

end Canvas

end WorkflowCanvas
