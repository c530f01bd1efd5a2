import WorkflowCanvas.Proofs.Canvas.Properties
import WorkflowCanvas.Proofs.Canvas.Wiring
import WorkflowCanvas.Proofs.Workflow.Closed
/-!
# The structure of the workflow of a sketch

A workflow has an element for each accepted node whose stencil stands for
one, and a flow for each kept edge whose ends both have elements, each in
the order of the sketch (`lists_elements`, `lists_flows`). A connection on
the canvas names the shapes at its ends; as shapes have their ids apart,
the flow gets the ids of the elements of these very shapes. Where all
stencils are known and no id is forced, the workflow is the sketch, as far
as it was accepted (`workflow_of_sketch`).
-/


namespace WorkflowCanvas

namespace Workflow

open Canvas (Shape Link IsNodeShape IsEdgeShape IsShapeId sanitizeId forcedId? edgeForcedId?)
open Sketch (Node Edge Kept)

/-! ## Elements of shapes -/

/-- The kinds of the elements that stencils stand for. -/
def stencilKinds : Table String :=
  [("EndNoneEvent", "endEvent"), ("ExclusiveGateway", "exclusiveGateway"),
   ("ParallelGateway", "parallelGateway"), ("ScriptTask", "scriptTask"),
   ("ServiceTask", "serviceTask"), ("StartNoneEvent", "startEvent"), ("UserTask", "userTask")]

/-- What of an element is structure: its id, the name of its kind, and its
place. -/
def Element.outline (e : Element) : String × String × Option Rect := (e.id, e.kind.tag, e.bounds?)

variable {settings : Settings} {s : Sketch} {c : Canvas} {p : Workflow}
variable {shapes : List Shape} {sh : Shape} {k : Nat} {m n : Node} {a : Kept} {id : String}

/-- The stencil of a shape says what kind of element it has. -/
theorem tag_kind? (sh : Shape) : (kind? sh).map (·.tag) = stencilKinds.get? sh.stencil := by
  unfold kind?
  split
  case h_8 h₁ h₂ h₃ h₄ h₅ h₆ h₇ =>
    refine (Table.get?_eq_none_iff.2 fun e he heq => ?_).symm
    simp only [stencilKinds, List.mem_cons, List.not_mem_nil, or_false] at he
    rcases he with rfl | rfl | rfl | rfl | rfl | rfl | rfl
    exacts [h₂ heq.symm, h₇ heq.symm, h₆ heq.symm, h₅ heq.symm, h₃ heq.symm, h₁ heq.symm,
      h₄ heq.symm]
  all_goals next h => rw [h]; rfl

theorem isSome_kind? (sh : Shape) : (kind? sh).isSome = (stencilKinds.get? sh.stencil).isSome := by
  rw [← tag_kind?, Option.isSome_map]

/-- **The element of a shape**, as far as it is structure. -/
theorem outline_elementOf? (sh : Shape) : (elementOf? sh).map (·.outline) =
    (stencilKinds.get? sh.stencil).map fun tag => (sh.elementId, tag, some sh.bounds) := by
  rw [← tag_kind?, elementOf?, Option.map_map, Option.map_map]
  rfl

/-- Connections have no elements. -/
theorem elementOf?_eq_none (h : sh.isFlow = true) : elementOf? sh = none := by
  have hnone := outline_elementOf? sh
  rw [show sh.stencil = Canvas.flowStencil from by simpa [Shape.isFlow] using h,
    show stencilKinds.get? Canvas.flowStencil = none from by decide, Option.map_none] at hnone
  exact Option.map_eq_none_iff.1 hnone

/-- Nothing that is attached to an element touches its structure. -/
theorem outline_finish (aliases : Table String) (shapes : List Shape) (e : Element) :
    (finish aliases shapes e).outline = e.outline := by
  have hrouted : ∀ e : Element, (routed e).outline = e.outline := by
    intro e
    unfold routed
    split
    · next h => rw [Element.outline, Element.outline, h]; rfl
    · rfl
  unfold finish
  split
  · exact hrouted _
  · exact hrouted e

/-! ## Elements at the ends of connections -/

/-- **A resource id stands for one element**, if shapes have theirs
apart. -/
theorem elementIdOf?_eq_some_iff (h : (shapes.map (·.resourceId)).Nodup) {resourceId : String} :
    elementIdOf? shapes resourceId = some id ↔
      ∃ sh ∈ shapes, sh.resourceId = resourceId ∧ (kind? sh).isSome = true ∧ sh.elementId = id := by
  have hmem : ∀ {sh}, (sh ∈ shapes.filter fun sh => sh.resourceId == resourceId &&
      (kind? sh).isSome) ↔ sh ∈ shapes ∧ sh.resourceId = resourceId ∧ (kind? sh).isSome = true := by
    intro sh
    rw [List.mem_filter, Bool.and_eq_true, beq_iff_eq]
  rw [elementIdOf?, Option.map_eq_some_iff]
  constructor
  · rintro ⟨sh, hlast, hid⟩
    obtain ⟨hsh, hres, hkind⟩ := hmem.1 (List.mem_of_getLast? hlast)
    exact ⟨sh, hsh, hres, hkind, hid⟩
  · rintro ⟨sh, hsh, hres, hkind, hid⟩
    have hne := List.ne_nil_of_mem (hmem.2 ⟨hsh, hres, hkind⟩)
    -- the last shape with the resource id counts, and there is just one
    obtain ⟨hlast, hlastres, -⟩ := hmem.1 (List.getLast_mem hne)
    refine ⟨sh, ?_, hid⟩
    rw [List.getLast?_eq_getLast_of_ne_nil hne,
      List.inj_on_of_nodup_map h hlast hsh (hlastres.trans hres.symm)]

/-! ## What is read off a canvas -/

/-- Elements come from all shapes that have one. -/
theorem filterMap_elementOf?_nodeShapes (c : Canvas) :
    c.nodeShapes.filterMap elementOf? = c.childShapes.filterMap elementOf? := by
  rw [Canvas.nodeShapes, List.filterMap_filter]
  refine List.filterMap_congr fun sh _ => ?_
  rcases h : sh.isFlow with _ | _
  · rfl
  · rw [elementOf?_eq_none h]
    rfl

/-- **A canvas is converted exactly if a shape on it is a node.** -/
theorem convert_eq (settings : Settings) (c : Canvas) :
    convert settings c =
      if c.nodeShapes.isEmpty then .error .emptyConversion
      else .ok
        { id := settings.identity.id
          name? := some settings.identity.name
          namespaceUri? := some settings.identity.namespaceUri
          elements := (c.childShapes.filterMap elementOf?).map
            (finish settings.fieldAliases c.nodeShapes)
          flows := c.flowShapes.filterMap (flowOf? c.nodeShapes) } := by
  rw [← filterMap_elementOf?_nodeShapes, convert, convertWith, structural]
  by_cases h : c.nodeShapes.isEmpty = true
  · rw [if_pos h, if_pos h]
  · rw [if_neg h, if_neg h]

theorem elements_of_convert (h : convert settings c = .ok p) :
    p.elements = (c.childShapes.filterMap elementOf?).map
      (finish settings.fieldAliases c.nodeShapes) := by
  rw [convert_eq] at h
  split at h <;> cases h
  rfl

theorem flows_of_convert (h : convert settings c = .ok p) :
    p.flows = c.flowShapes.filterMap (flowOf? c.nodeShapes) := by
  rw [convert_eq] at h
  split at h <;> cases h
  rfl

/-! ## The elements of a sketch -/

/-- The kind of the element of a node, if its stencil stands for one. -/
def kindOf? (settings : Settings) (n : Node) : Option String :=
  stencilKinds.get? (settings.mappingFor n.typeTag?).stencil

/-- A stencil and the kind of its elements go together. -/
theorem kindOf?_eq_some_iff {stencil tag : String} (h : (stencil, tag) ∈ stencilKinds) :
    kindOf? settings n = some tag ↔ (settings.mappingFor n.typeTag?).stencil = stencil := by
  have htags : (stencilKinds.map (·.2)).Nodup := by decide
  rw [kindOf?]
  constructor
  · intro hkind
    exact (Prod.mk.inj (List.inj_on_of_nodup_map htags (Table.mem_of_get? hkind) h rfl)).1
  · rintro rfl
    have hget : ∀ e ∈ stencilKinds, stencilKinds.get? e.1 = some e.2 := by decide
    exact hget _ h

/-- The id that the element of an accepted node gets. -/
def nodeId (settings : Settings) (s : Sketch) (n : Node) : String :=
  (forcedId? (Canvas.nodeProperties settings (Canvas.degree s n.id) n)).getD (sanitizeId n.id)

/-- The id that the flow of a kept edge gets. -/
def flowId (settings : Settings) (a : Kept) : String :=
  (edgeForcedId? settings a.edge).getD a.id

/-- **The element of a node.** -/
structure IsElementOf (settings : Settings) (s : Sketch) (n : Node) (e : Element) : Prop where
  id : e.id = nodeId settings s n
  kind : kindOf? settings n = some e.kind.tag
  bounds : e.bounds? = some n.bounds

theorem isSome_kind?_shapeOfNode (settings : Settings) (s : Sketch) (n : Node) :
    (kind? (Canvas.shapeOfNode settings s n)).isSome = (kindOf? settings n).isSome :=
  isSome_kind? _

theorem outline_shapeOfNode (settings : Settings) (s : Sketch) (n : Node) :
    (elementOf? (Canvas.shapeOfNode settings s n)).map (·.outline) =
      (kindOf? settings n).map fun tag => (nodeId settings s n, tag, some n.bounds) :=
  outline_elementOf? _

theorem filterMap_elementOf?_shapesOfEdges (settings : Settings) (s : Sketch) :
    (Canvas.shapesOfEdges settings s).filterMap elementOf? = [] := by
  refine List.filterMap_eq_nil_iff.2 fun sh hsh => elementOf?_eq_none ?_
  obtain ⟨l, -, rfl⟩ := List.mem_map.1 hsh
  rfl

/-- The shapes with elements are those of the accepted nodes with a known
stencil, in the order of the sketch. -/
theorem lists_elementOf? (settings : Settings) (s : Sketch) :
    Lists (fun k n => s.Accepts k n ∧ (kindOf? settings n).isSome = true)
      (fun n e => elementOf? (Canvas.shapeOfNode settings s n) = some e)
      ((Canvas.ofSketch settings s).childShapes.filterMap elementOf?) := by
  rw [Canvas.childShapes_ofSketch, List.filterMap_append, filterMap_elementOf?_shapesOfEdges,
    List.append_nil]
  refine (Canvas.lists_shapesOfNodes settings s).filterMap ?_ ?_
  · rintro k n sh - rfl hkind
    have hsome : (elementOf? (Canvas.shapeOfNode settings s n)).isSome = true := by
      rw [elementOf?, Option.isSome_map, isSome_kind?_shapeOfNode, hkind]
    obtain ⟨e, he⟩ := Option.isSome_iff_exists.1 hsome
    exact ⟨e, he, he⟩
  · rintro k n sh - rfl hkind
    have houtline := outline_shapeOfNode settings s n
    rw [Option.not_isSome_iff_eq_none.1 hkind, Option.map_none] at houtline
    exact Option.map_eq_none_iff.1 houtline

/-- The element of the shape of a node is that of the node, as it is
deployed. -/
theorem isElementOf_finish {e : Element}
    (he : elementOf? (Canvas.shapeOfNode settings s n) = some e) (aliases : Table String)
    (shapes : List Shape) : IsElementOf settings s n (finish aliases shapes e) := by
  have houtline := outline_shapeOfNode settings s n
  rw [he, Option.map_some, ← outline_finish aliases shapes] at houtline
  obtain ⟨tag, htag, heq⟩ := Option.map_eq_some_iff.1 houtline.symm
  simp only [Element.outline, Prod.mk.injEq] at heq
  exact ⟨heq.1.symm, htag.trans (congrArg some heq.2.1), heq.2.2.symm⟩

/-- **A workflow has an element for each accepted node with a known
stencil**, in the order of the sketch. -/
theorem lists_elements (h : convert settings (Canvas.ofSketch settings s) = .ok p) :
    Lists (fun k n => s.Accepts k n ∧ (kindOf? settings n).isSome = true)
      (IsElementOf settings s) p.elements := by
  rw [elements_of_convert h]
  exact (lists_elementOf? settings s).map fun k n e _ he => isElementOf_finish he _ _

/-! ## The flows of a sketch -/

/-- The accepted node of an id, if it has an element. -/
def IsEnd (settings : Settings) (s : Sketch) (id : String) (n : Node) : Prop :=
  (∃ k, s.Accepts k n) ∧ n.id = id ∧ (kindOf? settings n).isSome = true

/-- Both ends of an edge have elements. -/
def Connects (settings : Settings) (s : Sketch) (a : Kept) : Prop :=
  (∃ n, IsEnd settings s a.edge.source n) ∧ ∃ n, IsEnd settings s a.edge.target n

/-- **The flow of an edge.** -/
structure IsFlowOf (settings : Settings) (s : Sketch) (a : Kept) (f : Flow) : Prop where
  id : f.id = flowId settings a
  source : ∃ n, IsEnd settings s a.edge.source n ∧ f.source = nodeId settings s n
  target : ∃ n, IsEnd settings s a.edge.target n ∧ f.target = nodeId settings s n
  condition : f.condition? = conditionOf? settings a.edge

theorem nodup_nodeShapes (settings : Settings) (s : Sketch) :
    ((Canvas.ofSketch settings s).nodeShapes.map (·.resourceId)).Nodup :=
  (Canvas.nodup_resourceIds settings s).sublist (List.filter_sublist.map _)

/-- The shape of an accepted node with a known stencil is no connection. -/
theorem mem_nodeShapes (hn : s.Accepts k n) (hkind : (kindOf? settings n).isSome = true) :
    Canvas.shapeOfNode settings s n ∈ (Canvas.ofSketch settings s).nodeShapes := by
  refine List.mem_filter.2 ⟨List.mem_append_left _ (Canvas.shapeOfNode_mem settings hn), ?_⟩
  rw [Bool.not_eq_true', ← Bool.not_eq_true]
  intro hflow
  rw [← isSome_kind?_shapeOfNode settings s, Option.isSome_iff_ne_none] at hkind
  exact hkind (Option.map_eq_none_iff.1 (elementOf?_eq_none hflow))

/-- A shape with an element is that of an accepted node with a known
stencil. -/
theorem exists_of_mem_nodeShapes (h : sh ∈ (Canvas.ofSketch settings s).nodeShapes)
    (hkind : (kind? sh).isSome = true) :
    ∃ k n, s.Accepts k n ∧ (kindOf? settings n).isSome = true ∧
      sh = Canvas.shapeOfNode settings s n := by
  obtain ⟨hmem, hflow⟩ := List.mem_filter.1 h
  rcases List.mem_append.1 hmem with hmem | hmem
  · obtain ⟨k, n, hn, rfl⟩ := (Canvas.lists_shapesOfNodes settings s).exists_of_mem hmem
    exact ⟨k, n, hn, isSome_kind?_shapeOfNode settings s n ▸ hkind, rfl⟩
  · obtain ⟨l, -, rfl⟩ := List.mem_map.1 hmem
    cases hflow

/-- **The shape id of an accepted node stands for its element.** -/
theorem elementIdOf?_sanitizeId (hid : s.IsAccepted id) {elementId : String} :
    elementIdOf? (Canvas.ofSketch settings s).nodeShapes (sanitizeId id) = some elementId ↔
      ∃ n, IsEnd settings s id n ∧ nodeId settings s n = elementId := by
  rw [elementIdOf?_eq_some_iff (nodup_nodeShapes settings s)]
  constructor
  · rintro ⟨sh, hsh, hres, hkind, rfl⟩
    obtain ⟨k, n, hn, hknown, rfl⟩ := exists_of_mem_nodeShapes hsh hkind
    obtain ⟨j, m, hm, rfl⟩ := hid
    obtain ⟨rfl, rfl⟩ := hn.eq hm hres
    exact ⟨n, ⟨⟨k, hn⟩, rfl, hknown⟩, rfl⟩
  · rintro ⟨n, ⟨⟨k, hn⟩, rfl, hkind⟩, rfl⟩
    exact ⟨_, mem_nodeShapes hn hkind, rfl, isSome_kind?_shapeOfNode settings s n ▸ hkind, rfl⟩

/-- No edge is the end of an edge. -/
theorem elementIdOf?_keptId (ha : s.Keeps k a) :
    elementIdOf? (Canvas.ofSketch settings s).nodeShapes a.id = none := by
  refine Option.eq_none_iff_forall_ne_some.2 fun id hid => ?_
  obtain ⟨sh, hsh, hres, hkind, -⟩ :=
    (elementIdOf?_eq_some_iff (nodup_nodeShapes settings s)).1 hid
  obtain ⟨j, n, hn, -, rfl⟩ := exists_of_mem_nodeShapes hsh hkind
  exact ha.ne_shapeId hn hres

/-- The shape of a node is never a flow: what enters it are edges. -/
theorem flowOf?_shapeOfNode {sh : Shape} (h : sh ∈ Canvas.shapesOfNodes settings s) :
    flowOf? (Canvas.ofSketch settings s).nodeShapes sh = none := by
  -- a node may be mapped to the stencil of a connection
  have hsource : sh.flowSource?.bind (elementIdOf? (Canvas.ofSketch settings s).nodeShapes) =
      none := by
    rcases hhead : sh.flowSource? with _ | id
    · rfl
    · obtain ⟨k, a, ⟨ha, -⟩, rfl⟩ :=
        (Canvas.lists_incoming h).exists_of_mem (List.mem_of_mem_head? hhead)
      exact elementIdOf?_keptId ha
  rw [flowOf?, hsource]
  rfl

/-- All flows come from the shapes of edges. -/
theorem flowShapes_filterMap (settings : Settings) (s : Sketch) :
    (Canvas.ofSketch settings s).flowShapes.filterMap
        (flowOf? (Canvas.ofSketch settings s).nodeShapes) =
      (Canvas.shapesOfEdges settings s).filterMap
        (flowOf? (Canvas.ofSketch settings s).nodeShapes) := by
  have hedges : ∀ sh ∈ Canvas.shapesOfEdges settings s, sh.isFlow = true := by
    intro sh hsh
    obtain ⟨l, -, rfl⟩ := List.mem_map.1 hsh
    rfl
  rw [Canvas.flowShapes, Canvas.childShapes_ofSketch, List.filter_append, List.filterMap_append,
    List.filter_eq_self.2 hedges,
    List.filterMap_eq_nil_iff.2 fun sh hsh => flowOf?_shapeOfNode (List.mem_filter.1 hsh).1,
    List.nil_append]

/-- The shape of an edge has a flow if the shapes that it names have
elements. -/
theorem flowOf?_edgeShape (shapes : List Shape) (l : Link) :
    flowOf? shapes (Canvas.edgeShape settings l) =
      (elementIdOf? shapes l.source.resourceId).bind fun source =>
        (elementIdOf? shapes l.target.resourceId).map fun target =>
          { id := (Canvas.edgeShape settings l).elementId, source, target
            name? := structuralText? (Canvas.edgeShape settings l) "name"
            condition? :=
              structuralText? (Canvas.edgeShape settings l) "conditionsequenceflow" } := by
  rw [flowOf?]
  show ((elementIdOf? shapes l.source.resourceId).bind fun source =>
    (elementIdOf? shapes l.target.resourceId).bind fun target => _) = _
  simp only [Option.map_eq_bind]
  rfl

/-- **A workflow has a flow for each kept edge between elements**, in the
order of the sketch. -/
theorem lists_flows (h : convert settings (Canvas.ofSketch settings s) = .ok p) :
    Lists (fun k a => s.Keeps k a ∧ Connects settings s a) (IsFlowOf settings s) p.flows := by
  rw [flows_of_convert h, flowShapes_filterMap]
  refine (Canvas.lists_shapesOfEdges settings s).filterMap ?_ ?_
  · rintro k a sh ha ⟨l, hl, rfl⟩ ⟨⟨m, hm⟩, n, hn⟩
    have hsource := (elementIdOf?_sanitizeId ha.source).2 ⟨m, hm, rfl⟩
    have htarget := (elementIdOf?_sanitizeId ha.target).2 ⟨n, hn, rfl⟩
    have hid : IsShapeId l.resourceId := hl.resourceId ▸ ha.claimsId.isShapeId
    rw [flowOf?_edgeShape, hl.source_resourceId, hl.target_resourceId, hsource, htarget,
      Canvas.elementId_edgeShape hid, structuralText?_edgeShape, hl.edge, hl.resourceId]
    exact ⟨_, rfl, rfl, ⟨m, hm, rfl⟩, ⟨n, hn, rfl⟩, rfl⟩
  · rintro k a sh ha ⟨l, hl, rfl⟩ hnot
    rw [flowOf?_edgeShape, hl.source_resourceId, hl.target_resourceId]
    refine Option.eq_none_iff_forall_ne_some.2 fun f hf => hnot ?_
    obtain ⟨source, hsource, hf⟩ := Option.bind_eq_some_iff.1 hf
    obtain ⟨target, htarget, -⟩ := Option.map_eq_some_iff.1 hf
    obtain ⟨m, hm, -⟩ := (elementIdOf?_sanitizeId ha.source).1 hsource
    obtain ⟨n, hn, -⟩ := (elementIdOf?_sanitizeId ha.target).1 htarget
    exact ⟨⟨m, hm⟩, n, hn⟩

/-! ## Sketches that nothing else counts for -/

/-- **Nothing but the sketch counts**: all stencils are known, and no layer
of the properties forces an id. -/
structure Plain (settings : Settings) (s : Sketch) : Prop where
  known : ∀ n ∈ s.nodes, (kindOf? settings n).isSome = true
  nodes : ∀ n ∈ s.nodes, Canvas.Unforced settings n
  edges : ∀ e ∈ s.edges, ∀ overrides, settings.edgeOverrides.get? e.id = some overrides →
    overrides.get? Canvas.forcingKey = none

/-- **The workflow is the sketch**, as far as it was accepted. -/
structure Renders (settings : Settings) (s : Sketch) (p : Workflow) : Prop where
  /-- An element for each accepted node, in order. -/
  elements : Lists s.Accepts
    (fun n e => e.id = sanitizeId n.id ∧ kindOf? settings n = some e.kind.tag) p.elements
  /-- A flow for each kept edge, in order. -/
  flows : Lists s.Keeps
    (fun a f => f.id = a.id ∧ f.source = sanitizeId a.edge.source ∧
      f.target = sanitizeId a.edge.target ∧ f.condition? = conditionOf? settings a.edge) p.flows

theorem nodeId_eq (h : Canvas.Unforced settings n) : nodeId settings s n = sanitizeId n.id := by
  rw [nodeId, forcedId?, h.get?_nodeProperties, Option.bind_none, Option.getD_none]

theorem flowId_eq (h : ∀ overrides, settings.edgeOverrides.get? a.edge.id = some overrides →
    overrides.get? Canvas.forcingKey = none) : flowId settings a = a.id := by
  rw [flowId, edgeForcedId?]
  rcases hget : settings.edgeOverrides.get? a.edge.id with _ | overrides
  · rfl
  · have hnone : (Table.ofList overrides).get? Canvas.forcingKey = none :=
      (Table.get?_insertAll_of_forall [] (Table.get?_eq_none_iff.1 (h overrides hget))).trans rfl
    rw [Option.bind_some, forcedId?, hnone, Option.bind_none, Option.getD_none]

/-- A sketch converts to nothing exactly if none of its nodes is accepted. -/
theorem convert_eq_error_iff (h : Plain settings s) :
    convert settings (Canvas.ofSketch settings s) = .error .emptyConversion ↔
      ∀ k n, ¬ s.Accepts k n := by
  have hempty : (Canvas.ofSketch settings s).nodeShapes.isEmpty = true ↔
      ∀ k n, ¬ s.Accepts k n := by
    rw [List.isEmpty_iff, List.eq_nil_iff_forall_not_mem]
    constructor
    · intro hnone k n hn
      exact hnone _ (mem_nodeShapes hn (h.known n (List.mem_of_getElem? hn.getElem?)))
    · intro hnone sh hsh
      obtain ⟨hmem, hflow⟩ := List.mem_filter.1 hsh
      rcases List.mem_append.1 hmem with hmem | hmem
      · obtain ⟨k, n, hn, -⟩ := (Canvas.lists_shapesOfNodes settings s).exists_of_mem hmem
        exact hnone k n hn
      · obtain ⟨l, -, rfl⟩ := List.mem_map.1 hmem
        cases hflow
  rw [← hempty, convert_eq]
  split
  · next hnil => exact iff_of_true rfl hnil
  · next hcons => exact iff_of_false (fun h => nomatch h) hcons

/-- **A sketch that nothing else counts for becomes its workflow**: an
element for each accepted node, of the kind of its stencil and under its
shape id, and a flow for each kept edge between the elements of its ends,
each in the order of the sketch. It becomes nothing exactly if no node is
accepted. -/
theorem workflow_of_sketch (settings : Settings) (s : Sketch) (h : Plain settings s) :
    (convert settings (Canvas.ofSketch settings s) = .error .emptyConversion ↔
      ∀ k n, ¬ s.Accepts k n) ∧
    ((∃ k n, s.Accepts k n) →
      ∃ p, convert settings (Canvas.ofSketch settings s) = .ok p ∧ Renders settings s p) := by
  refine ⟨convert_eq_error_iff h, fun ⟨k, n, hn⟩ => ?_⟩
  have hknown : ∀ {k n}, s.Accepts k n → (kindOf? settings n).isSome = true := fun hn =>
    h.known _ (List.mem_of_getElem? hn.getElem?)
  have hnodeId : ∀ {k n}, s.Accepts k n → nodeId settings s n = sanitizeId n.id := fun hn =>
    nodeId_eq (h.nodes _ (List.mem_of_getElem? hn.getElem?))
  have hend : ∀ {id id' : String}, (∃ n, IsEnd settings s id n ∧ id' = nodeId settings s n) →
      id' = sanitizeId id := by
    rintro _ _ ⟨n, ⟨⟨k, hn⟩, rfl, -⟩, rfl⟩
    exact hnodeId hn
  have hisEnd : ∀ {id : String}, s.IsAccepted id → ∃ n, IsEnd settings s id n := by
    rintro _ ⟨k, n, hn, rfl⟩
    exact ⟨n, ⟨k, hn⟩, rfl, hknown hn⟩
  rcases hconvert : convert settings (Canvas.ofSketch settings s) with f | p
  · have hempty : f = .emptyConversion := by
      rw [convert_eq] at hconvert
      split at hconvert <;> cases hconvert
      rfl
    exact absurd hn ((convert_eq_error_iff h).1 (hempty ▸ hconvert) k n)
  · refine ⟨p, rfl, ?_, ?_⟩
    · refine ((lists_elements hconvert).congr fun k n => and_iff_left_of_imp hknown).imp
        fun k n e hn he => ⟨he.id.trans (hnodeId hn), he.kind⟩
    · refine ((lists_flows hconvert).congr fun k a =>
        and_iff_left_of_imp fun ha => ⟨hisEnd ha.source, hisEnd ha.target⟩).imp
        fun k a f ha hf => ⟨hf.id.trans ?_, hend hf.source, hend hf.target, hf.condition⟩
      exact flowId_eq (h.edges _ (List.mem_of_getElem? ha.getElem?))

/-- The standard settings with a condition on an edge. -/
def claimSettings : Settings :=
  { Settings.standard with
    edgeOverrides := [("large", [("conditionsequenceflow", .str " amount > 100 ")])] }

/-- A sketch of a claim, with a node under a shape id that is taken, a node
drawn twice, one without an id, and edges to match. -/
def claimSketch : Sketch where
  nodes := [{ id := "new claim", outerTag? := "start" }, { id := "new_claim", outerTag? := "user" },
    { id := "review", outerTag? := "user" }, { id := "review", outerTag? := "script" },
    { id := " ", outerTag? := "script" }, { id := "paid", outerTag? := "end" }]
  edges := [{ source := "new claim", target := "review" },
    { id := "flow_new_claim__review", source := "review", target := "paid" },
    { id := "back", source := "review", target := "new_claim" },
    { id := "large", source := "review", target := "paid" }]

/-- Three elements and two flows come of the claim. -/
theorem workflow_of_claimSketch :
    Plain claimSettings claimSketch ∧
    ∃ p, convert claimSettings (Canvas.ofSketch claimSettings claimSketch) = .ok p ∧
      Renders claimSettings claimSketch p ∧
      p.elements.map (fun e => (e.id, e.kind.tag)) =
        [("new_claim", "startEvent"), ("review", "userTask"), ("paid", "endEvent")] ∧
      p.flows.map (fun f => (f.id, f.source, f.target, f.condition?)) =
        [("flow_new_claim__review", "new_claim", "review", none),
         ("large", "review", "paid", some "amount > 100")] := by
  have hunforced : ∀ n ∈ claimSketch.nodes,
      ((claimSettings.mappingFor n.typeTag?).properties.get? Canvas.forcingKey).isNone = true ∧
        n.data.parameters = [] ∧ n.data.customFields?.isNone = true := by
    decide +kernel
  have hplain : Plain claimSettings claimSketch := by
    refine ⟨by decide +kernel, fun n hn => ?_, fun e he overrides hget => ?_⟩
    · obtain ⟨hdefaults, hparameters, hcustom⟩ := hunforced n hn
      refine ⟨Option.isNone_iff_eq_none.1 hdefaults, ?_, ?_, ?_⟩
      · rw [hparameters]
        exact fun _ h => nomatch h
      · rw [Option.isNone_iff_eq_none.1 hcustom]
        exact fun _ h => nomatch h
      · exact fun _ h => nomatch h
    · obtain ⟨_, hmem, rfl⟩ := Option.map_eq_some_iff.1 hget
      cases List.mem_singleton.1 (List.mem_of_find?_eq_some hmem)
      rfl
  have haccepts : claimSketch.Accepts 0 { id := "new claim", outerTag? := "start" } :=
    Sketch.accepts_iff_first.2 ⟨rfl, by decide, fun j hlt => absurd hlt (Nat.not_lt_zero j)⟩
  obtain ⟨p, hp, hrenders⟩ :=
    (workflow_of_sketch claimSettings claimSketch hplain).2 ⟨0, _, haccepts⟩
  have hread : (match convert claimSettings (Canvas.ofSketch claimSettings claimSketch) with
      | .ok p => (p.elements.map fun e => (e.id, e.kind.tag),
          p.flows.map fun f => (f.id, f.source, f.target, f.condition?))
      | .error _ => ([], [])) =
      ([("new_claim", "startEvent"), ("review", "userTask"), ("paid", "endEvent")],
       [("flow_new_claim__review", "new_claim", "review", none),
        ("large", "review", "paid", some "amount > 100")]) := by
    decide +kernel
  rw [hp] at hread
  obtain ⟨helements, hflows⟩ := Prod.mk.inj hread
  exact ⟨hplain, p, hp, hrenders, helements, hflows⟩

end Workflow

end WorkflowCanvas
