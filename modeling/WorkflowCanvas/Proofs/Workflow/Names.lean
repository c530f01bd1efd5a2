import WorkflowCanvas.Proofs.Workflow.Structure
/-!
# Forced ids and the ids of a workflow

The shape ids of a sketch are apart, but a property may force any id on an
element or a flow, and nothing compares the ids afterwards. So the ids of a
workflow are apart exactly if no forced id is that of another part of the
workflow (`ids_apart_iff`); then an id at either end of a flow finds the
element that the edge was drawn to. A parameter of one node suffices to
break this (`shadowed_by_start`).
-/


namespace WorkflowCanvas

namespace Workflow

open Canvas (sanitizeId forcedId? edgeForcedId?)
open Sketch (Node Kept)

variable {settings : Settings} {s : Sketch} {p : Workflow} {e : Element} {f : Flow}

/-! ## The parts of a workflow -/

/-- What of a sketch gets an id in its workflow. -/
inductive Part where
  | node (n : Node)
  | edge (a : Kept)

namespace Part

/-- The part has an element or a flow. -/
def Drawn (settings : Settings) (s : Sketch) : Part → Prop
  | .node n => ∃ k, s.Accepts k n ∧ (kindOf? settings n).isSome = true
  | .edge a => ∃ k, s.Keeps k a ∧ Connects settings s a

/-- The id of the shape. -/
def shapeId : Part → String
  | .node n => sanitizeId n.id
  | .edge a => a.id

/-- The id that is forced on the element or the flow. -/
def forced? (settings : Settings) (s : Sketch) : Part → Option String
  | .node n => forcedId? (Canvas.nodeProperties settings (Canvas.degree s n.id) n)
  | .edge a => edgeForcedId? settings a.edge

/-- The id of the element or the flow. -/
def id (settings : Settings) (s : Sketch) (x : Part) : String :=
  (x.forced? settings s).getD x.shapeId

/-- **Parts have shape ids apart.** -/
theorem eq_of_shapeId {x y : Part} (hx : x.Drawn settings s) (hy : y.Drawn settings s)
    (h : x.shapeId = y.shapeId) : x = y := by
  match x, y, hx, hy with
  | .node m, .node n, ⟨_, hm, _⟩, ⟨_, hn, _⟩ => exact congrArg node (hm.eq hn h).2
  | .node m, .edge b, ⟨_, hm, _⟩, ⟨_, hb, _⟩ => exact absurd h (hb.ne_shapeId hm)
  | .edge a, .node n, ⟨_, ha, _⟩, ⟨_, hn, _⟩ => exact absurd h.symm (ha.ne_shapeId hn)
  | .edge a, .edge b, ⟨_, ha, _⟩, ⟨_, hb, _⟩ => exact congrArg edge (ha.eq hb h).2

end Part

/-- **No forced id is that of another part.** -/
def ForcedApart (settings : Settings) (s : Sketch) : Prop :=
  ∀ x y : Part, x.Drawn settings s → y.Drawn settings s → x ≠ y →
    ∀ id, x.forced? settings s = some id → y.id settings s ≠ id

/-- Parts without a forced id have the ids of their shapes, so that only a
forced id can be that of another part. -/
theorem forcedApart_iff : ForcedApart settings s ↔
    ∀ x y : Part, x.Drawn settings s → y.Drawn settings s →
      x.id settings s = y.id settings s → x = y := by
  constructor
  · intro h x y hx hy hid
    by_contra hne
    -- one of the two is forced, as the shape ids are apart
    rcases hforced : x.forced? settings s with _ | id
    · rcases hforced' : y.forced? settings s with _ | id'
      · rw [Part.id, Part.id, hforced, hforced'] at hid
        exact hne (Part.eq_of_shapeId hx hy hid)
      · refine h y x hy hx (Ne.symm hne) id' hforced' (hid.trans ?_)
        rw [Part.id, hforced', Option.getD_some]
    · refine h x y hx hy hne id hforced (hid.symm.trans ?_)
      rw [Part.id, hforced, Option.getD_some]
  · intro h x y hx hy hne id hforced hid
    refine hne (h x y hx hy ?_)
    rw [hid, Part.id, hforced, Option.getD_some]

/-! ## The ids of a workflow -/

/-- **The ids of a workflow are apart exactly if those of its parts are.** -/
theorem nodup_ids_iff (h : convert settings (Canvas.ofSketch settings s) = .ok p) :
    (p.elements.map (·.id) ++ p.flows.map (·.id)).Nodup ↔
      ∀ x y : Part, x.Drawn settings s → y.Drawn settings s →
        x.id settings s = y.id settings s → x = y := by
  have helements := lists_elements h
  have hflows := lists_flows h
  rw [List.nodup_append,
    helements.nodup_map_iff (g := nodeId settings s) fun _ _ _ _ he => he.id,
    hflows.nodup_map_iff (g := flowId settings) fun _ _ _ _ hf => hf.id]
  constructor
  · rintro ⟨hnodes, hedges, hdisjoint⟩
    -- an element and a flow are told apart by the lists that they are in
    have hcross : ∀ {n a}, (Part.node n).Drawn settings s → (Part.edge a).Drawn settings s →
        nodeId settings s n ≠ flowId settings a := by
      rintro n a ⟨j, hn⟩ ⟨k, ha⟩
      obtain ⟨e, he, heid⟩ := helements.exists_mem hn
      obtain ⟨f, hf, hfid⟩ := hflows.exists_mem ha
      rw [← heid.id, ← hfid.id]
      exact hdisjoint _ (List.mem_map_of_mem he) _ (List.mem_map_of_mem hf)
    rintro (m | a) (n | b) hx hy hid
    · obtain ⟨j, hm⟩ := hx
      obtain ⟨k, hn⟩ := hy
      exact congrArg Part.node (Prod.mk.inj (hnodes j m k n hm hn hid)).2
    · exact absurd hid (hcross hx hy)
    · exact absurd hid.symm (hcross hy hx)
    · obtain ⟨j, ha⟩ := hx
      obtain ⟨k, hb⟩ := hy
      exact congrArg Part.edge (Prod.mk.inj (hedges j a k b ha hb hid)).2
  · intro hinj
    refine ⟨fun j m k n hm hn hid => ?_, fun j a k b ha hb hid => ?_, ?_⟩
    · cases hinj (.node m) (.node n) ⟨j, hm⟩ ⟨k, hn⟩ hid
      rw [(hm.1.eq hn.1 rfl).1]
    · cases hinj (.edge a) (.edge b) ⟨j, ha⟩ ⟨k, hb⟩ hid
      rw [(ha.1.eq hb.1 rfl).1]
    · intro id hid id' hid'
      obtain ⟨e, he, rfl⟩ := List.mem_map.1 hid
      obtain ⟨f, hf, rfl⟩ := List.mem_map.1 hid'
      obtain ⟨j, n, hn, heid⟩ := helements.exists_of_mem he
      obtain ⟨k, a, ha, hfid⟩ := hflows.exists_of_mem hf
      rw [heid.id, hfid.id]
      exact fun heq => nomatch hinj (.node n) (.edge a) ⟨j, hn⟩ ⟨k, ha⟩ heq

/-- The id finds the element of the accepted node with an id of the
sketch. -/
def Finds (settings : Settings) (s : Sketch) (p : Workflow) (elementId id : String) : Prop :=
  ∃ n e, IsEnd settings s id n ∧ p.element? elementId = some e ∧ IsElementOf settings s n e

/-- **An id finds the element of its node** where ids are apart. -/
theorem finds_of_apart (h : convert settings (Canvas.ofSketch settings s) = .ok p)
    (hapart : ForcedApart settings s) {id : String} {n : Node} (hn : IsEnd settings s id n) :
    Finds settings s p (nodeId settings s n) id := by
  obtain ⟨⟨k, hacc⟩, hnid, hkind⟩ := hn
  obtain ⟨e, he, hof⟩ := (lists_elements h).exists_mem ⟨hacc, hkind⟩
  have hsome : (p.element? (nodeId settings s n)).isSome = true :=
    element?_isSome_iff.2 ⟨e, he, hof.id⟩
  -- the first element with the id is that of a node with the same id, hence of this one
  obtain ⟨e', he'⟩ := Option.isSome_iff_exists.1 hsome
  obtain ⟨j, m, ⟨hm, hkindm⟩, hof'⟩ :=
    (lists_elements h).exists_of_mem (List.mem_of_find?_eq_some he')
  have hid : e'.id = nodeId settings s n := by simpa using List.find?_some he'
  obtain rfl : m = n := Part.node.inj <| forcedApart_iff.1 hapart (.node m) (.node n)
    ⟨j, hm, hkindm⟩ ⟨k, hacc, hkind⟩ (hof'.id.symm.trans hid)
  exact ⟨m, e', ⟨⟨k, hacc⟩, hnid, hkind⟩, he', hof'⟩

/-- **The ids of the elements and the flows are apart exactly if no forced
id is that of another part.** Then the ids at the ends of every flow find
the elements that its edge was drawn between. -/
theorem ids_apart_iff (settings : Settings) (s : Sketch) (p : Workflow)
    (h : convert settings (Canvas.ofSketch settings s) = .ok p) :
    ((p.elements.map (·.id) ++ p.flows.map (·.id)).Nodup ↔ ForcedApart settings s) ∧
    (ForcedApart settings s → ∀ f ∈ p.flows, ∃ k a, s.Keeps k a ∧ IsFlowOf settings s a f ∧
      Finds settings s p f.source a.edge.source ∧ Finds settings s p f.target a.edge.target) := by
  refine ⟨(nodup_ids_iff h).trans forcedApart_iff.symm, fun hapart f hf => ?_⟩
  obtain ⟨k, a, ⟨ha, -⟩, hof⟩ := (lists_flows h).exists_of_mem hf
  obtain ⟨m, hm, hsource⟩ := hof.source
  obtain ⟨n, hn, htarget⟩ := hof.target
  exact ⟨k, a, ha, hof, hsource ▸ finds_of_apart h hapart hm, htarget ▸ finds_of_apart h hapart hn⟩

/-- A sketch of an order that is approved, under the id that a parameter of
the step forces on it. -/
def orderSketch (forced : String) : Sketch where
  nodes := [{ id := "order", outerTag? := "start" },
    { id := "approve", outerTag? := "user",
      data := { parameters := [("overrideid", .str forced)] } }]
  edges := [{ id := "e", source := "order", target := "approve" }]

/-- The ids and kinds of the elements, and the id, the end and the kind found
at the end of each flow, if there is a workflow. -/
def readOut (x : Except Failure Workflow) :
    List (String × String) × List (String × String × Option String) :=
  match x with
  | .ok p => (p.elements.map fun e => (e.id, e.kind.tag),
      p.flows.map fun f => (f.id, f.target, (p.element? f.target).map (·.kind.tag)))
  | .error _ => ([], [])

/-- What is read out is that of a workflow, if it is anything. -/
theorem exists_of_readOut {x : Except Failure Workflow} {elements : List (String × String)}
    {flows : List (String × String × Option String)} (h : readOut x = (elements, flows))
    (hne : elements ≠ []) :
    ∃ p, x = .ok p ∧ p.elements.map (fun e => (e.id, e.kind.tag)) = elements ∧
      p.flows.map (fun f => (f.id, f.target, (p.element? f.target).map (·.kind.tag))) = flows ∧
      p.elements.map (·.id) ++ p.flows.map (·.id) = elements.map (·.1) ++ flows.map (·.1) := by
  cases x with
  | error f => exact absurd (congrArg Prod.fst h).symm hne
  | ok p =>
    obtain ⟨rfl, rfl⟩ := Prod.mk.inj h
    refine ⟨p, rfl, rfl, rfl, ?_⟩
    rw [List.map_map, List.map_map]
    rfl

/-- Where the step is renamed to an id that nothing else has, the flow leads
to it. -/
theorem renamed_step_apart :
    ∃ p, convert .standard (Canvas.ofSketch .standard (orderSketch "check")) = .ok p ∧
      (p.elements.map (·.id) ++ p.flows.map (·.id)).Nodup ∧
      ForcedApart .standard (orderSketch "check") ∧
      ∀ f ∈ p.flows, ∃ k a, (orderSketch "check").Keeps k a ∧
        Finds .standard (orderSketch "check") p f.target a.edge.target := by
  have hread : readOut (convert .standard (Canvas.ofSketch .standard (orderSketch "check"))) =
      ([("order", "startEvent"), ("check", "userTask")], [("e", "check", some "userTask")]) := by
    decide +kernel
  obtain ⟨p, hp, -, -, hids⟩ := exists_of_readOut hread (List.cons_ne_nil _ _)
  obtain ⟨hiff, hends⟩ := ids_apart_iff .standard (orderSketch "check") p hp
  have hnodup : (p.elements.map (·.id) ++ p.flows.map (·.id)).Nodup := by
    rw [hids]
    decide
  refine ⟨p, hp, hnodup, hiff.1 hnodup, fun f hf => ?_⟩
  obtain ⟨k, a, ha, -, -, htarget⟩ := hends (hiff.1 hnodup) f hf
  exact ⟨k, a, ha, htarget⟩

/-- **A step that is renamed to the start is shadowed by it.** Two elements
have one id, the flow that was drawn to the step is a loop at that id, and
the id finds the start. -/
theorem shadowed_by_start :
    ∃ p, convert .standard (Canvas.ofSketch .standard (orderSketch "order")) = .ok p ∧
      p.elements.map (fun e => (e.id, e.kind.tag)) =
        [("order", "startEvent"), ("order", "userTask")] ∧
      p.flows.map (fun f => (f.id, f.target, (p.element? f.target).map (·.kind.tag))) =
        [("e", "order", some "startEvent")] ∧
      ¬ (p.elements.map (·.id) ++ p.flows.map (·.id)).Nodup := by
  have hread : readOut (convert .standard (Canvas.ofSketch .standard (orderSketch "order"))) =
      ([("order", "startEvent"), ("order", "userTask")], [("e", "order", some "startEvent")]) := by
    decide +kernel
  obtain ⟨p, hp, helements, hflows, hids⟩ := exists_of_readOut hread (List.cons_ne_nil _ _)
  refine ⟨p, hp, helements, hflows, ?_⟩
  rw [hids]
  decide

end Workflow

end WorkflowCanvas
