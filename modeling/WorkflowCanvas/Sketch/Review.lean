import WorkflowCanvas.Canvas.OfSketch
import WorkflowCanvas.Operation.Registry
/-!
# Reviewing sketches

Compilation is permissive, so a review says what will be dropped or will
not run: repeated and colliding ids, edges that lead nowhere, nodes without
edges, a missing start or end, and steps without a known operation. The
findings come in that order, each group in the order of the sketch.
-/


namespace WorkflowCanvas

namespace Sketch

/-- Something to know about a sketch. -/
inductive Finding where
  | duplicateNode (id : String)
  | nodeCollision (id existing shapeId : String)
  | duplicateEdge (id shapeId : String)
  | unknownNode (edge node : String)
  | orphanedNode (id : String)
  | missingStart
  | missingEnd
  | missingOperation (node : String)
  | unknownOperation (node operation : String)
deriving BEq, DecidableEq

namespace Finding

/-- The text of a finding. -/
def text : Finding → String
  | .duplicateNode id => "Duplicate node id '" ++ id ++ "'"
  | .nodeCollision id existing shapeId =>
    "Node '" ++ id ++ "' collides with '" ++ existing ++ "' as '" ++ shapeId ++ "'"
  | .duplicateEdge id shapeId => "Edge '" ++ id ++ "' reuses id '" ++ shapeId ++ "'"
  | .unknownNode edge node => "Edge '" ++ edge ++ "' references unknown node '" ++ node ++ "'"
  | .orphanedNode id => "Node '" ++ id ++ "' has no connections"
  | .missingStart => "Graph has no start node"
  | .missingEnd => "Graph has no end node"
  | .missingOperation node => "Node '" ++ node ++ "' has no operation id"
  | .unknownOperation node operation =>
    "Node '" ++ node ++ "' references unknown operation '" ++ operation ++ "'"

end Finding

/-- Who owns a shape id: pairs of a shape id and the id that claimed it. -/
abbrev Claims := List (String × String)

/-- Findings on node ids. Node ids seen before and shape ids claimed
before are given, and the shape ids claimed afterwards are returned. -/
def reviewNodes (seen : List String) (claims : Claims) : List Node → List Finding × Claims
  | [] => ([], claims)
  | n :: rest =>
    if seen.contains n.id then
      let (findings, claims) := reviewNodes seen claims rest
      (.duplicateNode n.id :: findings, claims)
    else
      let shapeId := Canvas.sanitizeId n.id
      match claims.lookup shapeId with
      | some existing =>
        let (findings, claims) := reviewNodes (n.id :: seen) claims rest
        (.nodeCollision n.id existing shapeId :: findings, claims)
      | none => reviewNodes (n.id :: seen) ((shapeId, n.id) :: claims) rest

/-- Findings on edge ids. -/
def reviewEdges (claims : Claims) : List Edge → List Finding
  | [] => []
  | e :: rest =>
    if (Text.nonBlank? e.id).isSome then
      let shapeId := Canvas.sanitizeId e.id
      if (claims.lookup shapeId).isSome then .duplicateEdge e.id shapeId :: reviewEdges claims rest
      else reviewEdges ((shapeId, e.id) :: claims) rest
    else reviewEdges claims rest

/-- An id is the id of a node. -/
def hasNode (s : Sketch) (id : String) : Bool := s.nodes.any fun n => n.id == id

/-- Findings on the ends of edges. -/
def reviewEnds (s : Sketch) : List Finding :=
  s.edges.flatMap fun e =>
    ([e.source, e.target].filter fun id => !s.hasNode id).map fun id => .unknownNode e.id id

/-- An id is an end of some edge. -/
def isConnected (s : Sketch) (id : String) : Bool :=
  s.edges.any fun e => e.source == id || e.target == id

/-- Findings on nodes without edges. A node alone needs none. -/
def reviewOrphans (s : Sketch) : List Finding :=
  if s.nodes.length > 1 then
    (s.nodes.filter fun n => !s.isConnected n.id).map fun n => .orphanedNode n.id
  else []

/-- Some node has the type tag. -/
def hasTag (s : Sketch) (tag : String) : Bool := s.nodes.any fun n => n.typeTag? == some tag

/-- The stencil of the steps that run through the dispatcher. -/
def dispatchedStencil : String := "ServiceTask"

/-- The operation that a node names, in its data or among its
parameters. -/
def Node.operationId? (n : Node) : Option String :=
  (n.data.delegationId?.or
    ((n.data.parameters.get? "delegationId").bind Json.str?)).bind Text.nonBlank?

/-- Findings on the operation of a node. -/
def reviewOperation (settings : Settings) (operations? : Option Registry) (n : Node) :
    List Finding :=
  match n.operationId? with
  | none =>
    if (settings.mappingFor n.typeTag?).stencil = dispatchedStencil then [.missingOperation n.id]
    else []
  | some operation =>
    match operations? with
    | some registry =>
      if registry.contains operation then [] else [.unknownOperation n.id operation]
    | none => []

/-- **All findings on a sketch.** Operations are looked up where a registry
is given. -/
def review (settings : Settings) (operations? : Option Registry) (s : Sketch) : List Finding :=
  let (onNodes, claims) := reviewNodes [] [] s.nodes
  onNodes
    ++ reviewEdges claims s.edges
    ++ s.reviewEnds
    ++ s.reviewOrphans
    ++ (if s.hasTag "start" then [] else [.missingStart])
    ++ (if s.hasTag "end" then [] else [.missingEnd])
    ++ s.nodes.flatMap (reviewOperation settings operations?)

end Sketch

end WorkflowCanvas
