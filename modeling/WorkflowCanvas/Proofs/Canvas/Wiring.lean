import WorkflowCanvas.Proofs.Sketch.Kept
/-!
# The wiring of a canvas

The shapes of a canvas are those of the accepted nodes and then those of the
kept edges, both in the order of the sketch, and their ids are apart
(`Drawn`). Both ends of an edge know it: the shape of the node that it
leaves has its id once among the ids of what leaves it, the shape of the
node that it enters among those of what enters it, and no other shape has
it. An edge that is not kept is in no list (`wiring_withoutEdge`).
-/


namespace WorkflowCanvas

namespace Canvas

open Sketch (Node Kept)

/-- What each shape is connected to. -/
def wiring (c : Canvas) : List (String × List String × List String) :=
  c.childShapes.map fun sh => (sh.resourceId, sh.outgoing, sh.incoming)

/-- The shape of an accepted node. -/
structure IsNodeShape (settings : Settings) (n : Node) (sh : Shape) : Prop where
  resourceId : sh.resourceId = sanitizeId n.id
  stencil : sh.stencil = (settings.mappingFor n.typeTag?).stencil
  bounds : sh.bounds = n.bounds

/-- The shape of a kept edge, which comes from the shape of one end and
leads to that of the other. -/
structure IsEdgeShape (a : Kept) (sh : Shape) : Prop where
  resourceId : sh.resourceId = a.id
  stencil : sh.stencil = flowStencil
  incoming : sh.incoming = [sanitizeId a.edge.source]
  outgoing : sh.outgoing = [sanitizeId a.edge.target]
  target : sh.target? = some (sanitizeId a.edge.target)

/-- **The shapes of the nodes and of the edges draw the sketch.** -/
structure Drawn (settings : Settings) (s : Sketch) (nodes edges : List Shape) : Prop where
  /-- A shape for each accepted node, in order. -/
  accepted : Lists s.Accepts (IsNodeShape settings) nodes
  /-- A shape for each kept edge, in order. -/
  kept : Lists s.Keeps IsEdgeShape edges
  apart : ((nodes ++ edges).map (·.resourceId)).Nodup
  shapeIds : ∀ sh ∈ nodes ++ edges, IsShapeId sh.resourceId
  /-- What leaves a node, and nothing else, in order. -/
  leaving : ∀ sh ∈ nodes,
    Lists (fun k a => s.Keeps k a ∧ sanitizeId a.edge.source = sh.resourceId)
      (fun a id => id = a.id) sh.outgoing
  /-- What enters a node, and nothing else, in order. -/
  entering : ∀ sh ∈ nodes,
    Lists (fun k a => s.Keeps k a ∧ sanitizeId a.edge.target = sh.resourceId)
      (fun a id => id = a.id) sh.incoming
  leavesOnce : ∀ k a, s.Keeps k a → (nodes.flatMap (·.outgoing)).count a.id = 1 ∧
    ∃ sh ∈ nodes, sh.resourceId = sanitizeId a.edge.source ∧ a.id ∈ sh.outgoing
  entersOnce : ∀ k a, s.Keeps k a → (nodes.flatMap (·.incoming)).count a.id = 1 ∧
    ∃ sh ∈ nodes, sh.resourceId = sanitizeId a.edge.target ∧ a.id ∈ sh.incoming

variable {settings : Settings} {s : Sketch} {k : Nat} {a : Kept}

/-! ## Each end of an edge -/

section Ends

variable {nodes : List Shape} {ids : Shape → List String} {endOf : Kept → String}

/-- An edge is in the list at its end. -/
theorem mem_ids (hids : ∀ sh ∈ nodes, Lists (fun k a => s.Keeps k a ∧ endOf a = sh.resourceId)
      (fun a id => id = a.id) (ids sh))
    (ha : s.Keeps k a) {sh : Shape} (hsh : sh ∈ nodes) (hend : endOf a = sh.resourceId) :
    a.id ∈ ids sh := by
  obtain ⟨id, hid, rfl⟩ := (hids sh hsh).exists_mem ⟨ha, hend⟩
  exact hid

/-- **An edge is in one list, once**, if shapes have their ids apart and each
lists the edges with their end at it. -/
theorem count_ids (hapart : (nodes.map (·.resourceId)).Nodup)
    (hids : ∀ sh ∈ nodes, Lists (fun k a => s.Keeps k a ∧ endOf a = sh.resourceId)
      (fun a id => id = a.id) (ids sh))
    (ha : s.Keeps k a) {sh : Shape} (hsh : sh ∈ nodes) (hend : endOf a = sh.resourceId) :
    (nodes.flatMap ids).count a.id = 1 := by
  refine List.count_eq_one_of_mem (List.nodup_flatMap.2 ⟨fun sh hsh => ?_, ?_⟩)
    (List.mem_flatMap.2 ⟨sh, hsh, mem_ids hids ha hsh hend⟩)
  · rw [← List.map_id (ids sh),
      (hids sh hsh).nodup_map_iff (f := id) (g := Kept.id) fun _ _ _ _ h => h]
    rintro i b j c ⟨hb, -⟩ ⟨hc, -⟩ heq
    obtain ⟨rfl, rfl⟩ := hb.eq hc heq
    rfl
  · -- an id in two lists would be that of one edge with its end at two shapes
    refine (List.pairwise_map.1 hapart).imp_of_mem fun {x y} hx hy hne id hidx hidy => hne ?_
    obtain ⟨i, b, ⟨hb, hbx⟩, rfl⟩ := (hids x hx).exists_of_mem hidx
    obtain ⟨j, c, ⟨hc, hcy⟩, heq⟩ := (hids y hy).exists_of_mem hidy
    obtain ⟨-, rfl⟩ := hb.eq hc heq
    exact hbx.symm.trans hcy

end Ends

/-! ## The shapes of a canvas -/

/-- The shape of a node, if it is accepted. -/
def shapeOfNode (settings : Settings) (s : Sketch) (n : Node) : Shape :=
  nodeShape settings s (link s (place s)) ⟨n, sanitizeId n.id⟩

/-- The shapes of the accepted nodes of a sketch. -/
def shapesOfNodes (settings : Settings) (s : Sketch) : List Shape :=
  (place s).map (nodeShape settings s (link s (place s)))

/-- The shapes of the kept edges of a sketch. -/
def shapesOfEdges (settings : Settings) (s : Sketch) : List Shape :=
  (link s (place s)).map (edgeShape settings)

theorem childShapes_ofSketch (settings : Settings) (s : Sketch) :
    (ofSketch settings s).childShapes = shapesOfNodes settings s ++ shapesOfEdges settings s :=
  rfl

theorem lists_shapesOfNodes (settings : Settings) (s : Sketch) :
    Lists s.Accepts (fun n sh => sh = shapeOfNode settings s n) (shapesOfNodes settings s) := by
  refine (Sketch.lists_place s).map ?_
  rintro k n ⟨_, _⟩ - ⟨rfl, hid⟩
  rw [shapeOfNode, ← hid]

theorem shapeOfNode_mem (settings : Settings) {k : Nat} {n : Node} (hn : s.Accepts k n) :
    shapeOfNode settings s n ∈ shapesOfNodes settings s := by
  obtain ⟨sh, hsh, rfl⟩ := (lists_shapesOfNodes settings s).exists_mem hn
  exact hsh

theorem lists_shapesOfEdges (settings : Settings) (s : Sketch) :
    Lists s.Keeps (fun a sh => ∃ l, s.IsLinkedAs a l ∧ sh = edgeShape settings l)
      (shapesOfEdges settings s) :=
  (Sketch.lists_link s).map fun _ _ l _ hl => ⟨l, hl, rfl⟩

theorem isNodeShape_shapeOfNode (settings : Settings) (s : Sketch) (n : Node) :
    IsNodeShape settings n (shapeOfNode settings s n) := ⟨rfl, rfl, rfl⟩

theorem isEdgeShape_edgeShape (settings : Settings) {l : Link} (h : s.IsLinkedAs a l) :
    IsEdgeShape a (edgeShape settings l) where
  resourceId := h.resourceId
  stencil := rfl
  incoming := congrArg (fun id => [id]) h.source_resourceId
  outgoing := congrArg (fun id => [id]) h.target_resourceId
  target := congrArg some h.target_resourceId

theorem lists_isNodeShape (settings : Settings) (s : Sketch) :
    Lists s.Accepts (IsNodeShape settings) (shapesOfNodes settings s) :=
  (lists_shapesOfNodes settings s).imp fun _ n _ _ h => h ▸ isNodeShape_shapeOfNode settings s n

theorem lists_isEdgeShape (settings : Settings) (s : Sketch) :
    Lists s.Keeps IsEdgeShape (shapesOfEdges settings s) :=
  (lists_shapesOfEdges settings s).imp fun _ _ _ _ ⟨_, hl, h⟩ =>
    h ▸ isEdgeShape_edgeShape settings hl

/-- **The ids of the shapes are apart**, those of nodes and edges
together. -/
theorem nodup_resourceIds (settings : Settings) (s : Sketch) :
    ((shapesOfNodes settings s ++ shapesOfEdges settings s).map (·.resourceId)).Nodup := by
  rw [List.map_append, List.nodup_append]
  refine ⟨?_, ?_, fun id hid id' hid' => ?_⟩
  · refine ((lists_isNodeShape settings s).nodup_map_iff (f := (·.resourceId)) (g := fun n => sanitizeId n.id)
      fun _ _ _ _ h => h.resourceId).2 ?_
    intro i m j n hm hn heq
    obtain ⟨rfl, rfl⟩ := hm.eq hn heq
    rfl
  · refine ((lists_isEdgeShape settings s).nodup_map_iff (f := (·.resourceId)) (g := Kept.id)
      fun _ _ _ _ h => h.resourceId).2 ?_
    intro i b j c hb hc heq
    obtain ⟨rfl, rfl⟩ := hb.eq hc heq
    rfl
  · obtain ⟨x, hx, rfl⟩ := List.mem_map.1 hid
    obtain ⟨y, hy, rfl⟩ := List.mem_map.1 hid'
    obtain ⟨i, n, hn, hnx⟩ := (lists_isNodeShape settings s).exists_of_mem hx
    obtain ⟨j, b, hb, hby⟩ := (lists_isEdgeShape settings s).exists_of_mem hy
    rw [hnx.resourceId, hby.resourceId]
    exact hb.ne_shapeId hn

theorem isShapeId_of_mem {sh : Shape}
    (h : sh ∈ shapesOfNodes settings s ++ shapesOfEdges settings s) : IsShapeId sh.resourceId := by
  rcases List.mem_append.1 h with h | h
  · obtain ⟨k, n, hn, hsh⟩ := (lists_isNodeShape settings s).exists_of_mem h
    exact hsh.resourceId ▸ hn.isShapeId
  · obtain ⟨k, a, ha, hsh⟩ := (lists_isEdgeShape settings s).exists_of_mem h
    exact hsh.resourceId ▸ ha.claimsId.isShapeId

/-- What leaves the shape of a node. -/
theorem lists_outgoing {sh : Shape} (h : sh ∈ shapesOfNodes settings s) :
    Lists (fun k a => s.Keeps k a ∧ sanitizeId a.edge.source = sh.resourceId)
      (fun a id => id = a.id) sh.outgoing := by
  obtain ⟨p, -, rfl⟩ := List.mem_map.1 h
  refine Lists.map ((Sketch.lists_link s).filter fun k a l _ hl => ?_) fun _ _ _ _ hl =>
    hl.resourceId
  rw [beq_iff_eq, hl.source_resourceId]
  rfl

/-- What enters the shape of a node. -/
theorem lists_incoming {sh : Shape} (h : sh ∈ shapesOfNodes settings s) :
    Lists (fun k a => s.Keeps k a ∧ sanitizeId a.edge.target = sh.resourceId)
      (fun a id => id = a.id) sh.incoming := by
  obtain ⟨p, -, rfl⟩ := List.mem_map.1 h
  refine Lists.map ((Sketch.lists_link s).filter fun k a l _ hl => ?_) fun _ _ _ _ hl =>
    hl.resourceId
  rw [beq_iff_eq, hl.target_resourceId]
  rfl

/-- An accepted id has the shape of its node. -/
theorem exists_shape (settings : Settings) {id : String} (h : s.IsAccepted id) :
    ∃ sh ∈ shapesOfNodes settings s, sh.resourceId = sanitizeId id := by
  obtain ⟨k, n, hn, rfl⟩ := h
  obtain ⟨sh, hsh, hnode⟩ := (lists_isNodeShape settings s).exists_mem hn
  exact ⟨sh, hsh, hnode.resourceId⟩

theorem drawn_ofSketch (settings : Settings) (s : Sketch) :
    Drawn settings s (shapesOfNodes settings s) (shapesOfEdges settings s) := by
  have hapart := nodup_resourceIds settings s
  have hnodes : ((shapesOfNodes settings s).map (·.resourceId)).Nodup := by
    rw [List.map_append] at hapart
    exact hapart.of_append_left
  refine ⟨lists_isNodeShape settings s, lists_isEdgeShape settings s, hapart,
    fun _ => isShapeId_of_mem, fun _ => lists_outgoing, fun _ => lists_incoming,
    fun k a ha => ?_, fun k a ha => ?_⟩
  · obtain ⟨sh, hsh, hid⟩ := exists_shape settings ha.source
    exact ⟨count_ids hnodes (fun _ => lists_outgoing) ha hsh hid.symm, sh, hsh, hid,
      mem_ids (fun _ => lists_outgoing) ha hsh hid.symm⟩
  · obtain ⟨sh, hsh, hid⟩ := exists_shape settings ha.target
    exact ⟨count_ids hnodes (fun _ => lists_incoming) ha hsh hid.symm, sh, hsh, hid,
      mem_ids (fun _ => lists_incoming) ha hsh hid.symm⟩

/-- **An edge that is not kept is in no list.** -/
theorem wiring_withoutEdge (hnot : ∀ a, ¬ s.Keeps k a) :
    (ofSketch settings (s.withoutEdge k)).wiring = (ofSketch settings s).wiring := by
  have hlink := Sketch.link_withoutEdge hnot
  have hplace : place (s.withoutEdge k) = place s := rfl
  simp only [wiring, ofSketch, hplace, hlink, List.map_append, List.map_map]
  rfl

/-- **The canvas of a sketch draws it.** Its shapes are those of the accepted
nodes and then those of the kept edges, in order, with ids apart; each edge
is known once at either end and nowhere else; and without an edge that is
not kept, all shapes would be connected in the same way. -/
theorem canvas_draws_sketch (settings : Settings) (s : Sketch) :
    (∃ nodes edges, (ofSketch settings s).childShapes = nodes ++ edges ∧
      Drawn settings s nodes edges) ∧
    ∀ k, (∀ a, ¬ s.Keeps k a) →
      (ofSketch settings (s.withoutEdge k)).wiring = (ofSketch settings s).wiring :=
  ⟨⟨_, _, childShapes_ofSketch settings s, drawn_ofSketch settings s⟩,
    fun _ => wiring_withoutEdge⟩

end Canvas

end WorkflowCanvas
