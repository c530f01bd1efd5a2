import WorkflowCanvas.Proofs.Workflow.MarkupElements
/-!
# Nothing is lost in markup

The markup of a workflow is the text of its trees between the attributes of
the document and a diagram (`markup_eq`). Trees are read off a text in one
way, and elements and flows are read back from their trees, so two
workflows with the same markup are the same in all that is written of them
(`withoutBounds_eq_of_markup_eq`). Where elements lie is written rounded,
and so it is left out.
-/


namespace WorkflowCanvas

namespace Workflow

/-- A workflow without where its elements lie. -/
def withoutBounds (p : Workflow) : Workflow :=
  { p with elements := p.elements.map Element.withoutBounds }

namespace Markup

/-! ## The whole document -/

/-- The trees of a workflow. -/
def trees (p : Workflow) : List Tree := p.elements.map elementTree ++ p.flows.map flowTree

/-- The attributes of a workflow. -/
def processList (p : Workflow) : Attributes :=
  opt "id" (some p.id) ++ (opt "name" p.name? ++ opt "isExecutable" (some "true"))

/-- The diagram of a workflow. -/
def diagram (p : Workflow) : String :=
  enclosed "  " "bpmndi:BPMNDiagram" (attr "id" ("BPMNDiagram_" ++ p.id))
    (enclosed "    " "bpmndi:BPMNPlane"
      (attr "id" ("BPMNPlane_" ++ p.id) ++ attr "bpmnElement" p.id)
      (String.join (p.elements.map diagramShape) ++ String.join (p.flows.map (diagramEdge p))))

theorem allNamed_trees (p : Workflow) : Tree.AllNamed (trees p) := by
  refine Tree.allNamed_iff.2 fun t ht => ?_
  rcases List.mem_append.1 ht with ht | ht
  · obtain ⟨e, -, rfl⟩ := List.mem_map.1 ht
    exact named_elementTree e
  · obtain ⟨f, -, rfl⟩ := List.mem_map.1 ht
    exact named_flowTree f

theorem areNamed_processList (p : Workflow) : AreNamed (processList p) :=
  (areNamed_opt (by decide)).append ((areNamed_opt (by decide)).append (areNamed_opt (by decide)))

theorem texts_trees (p : Workflow) : Tree.texts 4 (trees p) =
    String.join (p.elements.map element) ++ String.join (p.flows.map flow) := by
  rw [trees, Tree.texts_append, Tree.texts_map, Tree.texts_map,
    show (fun e => (elementTree e).text 4) = element from funext text_elementTree,
    show (fun f => (flowTree f).text 4) = flow from funext text_flowTree]

theorem attributesText_processList (p : Workflow) : attributesText (processList p) =
    attr "id" p.id ++ attr? "name" p.name? ++ attr "isExecutable" "true" := by
  simp only [processList, attributesText_append, attributesText_opt, attr?, String.append_assoc]

/-- **A workflow is written as its trees**, between attributes and a diagram. -/
theorem markup_eq (p : Workflow) : p.markup = "<?xml version=\"1.0\" encoding=\"UTF-8\"?>\n" ++
    enclosed "" "definitions"
      (namespaces ++ attributesText
        (opt "targetNamespace" (some (p.namespaceUri?.getD extensionNamespace))))
      (enclosed "  " "process" (attributesText (processList p)) (Tree.texts 4 (trees p))
        ++ diagram p) := by
  rw [texts_trees, attributesText_processList, attributesText_opt]
  rfl

theorem toList_enclosed (indent tag attributes body : String) (r : List Char) :
    (enclosed indent tag attributes body).toList ++ r = indent.toList ++ '<' :: (tag.toList ++
      (attributes.toList ++ '>' :: '\n' :: (body.toList ++
        (indent.toList ++ '<' :: '/' :: (tag.toList ++ '>' :: '\n' :: r))))) := by
  simp [enclosed, String.toList_append]

/-- **What is enclosed is read off** behind the attributes. -/
theorem enclosed_unique {indent tag x y body body' : String} {as bs : Attributes}
    {front r r' : List Char} (ha : AreNamed as) (hb : AreNamed bs)
    (hx : x.toList = front ++ (attributesText as).toList)
    (hy : y.toList = front ++ (attributesText bs).toList)
    (h : (enclosed indent tag x body).toList ++ r = (enclosed indent tag y body').toList ++ r') :
    as = bs ∧ body.toList ++ (indent.toList ++ '<' :: '/' :: (tag.toList ++ '>' :: '\n' :: r)) =
      body'.toList ++ (indent.toList ++ '<' :: '/' :: (tag.toList ++ '>' :: '\n' :: r')) := by
  simp only [toList_enclosed, hx, hy, List.append_assoc] at h
  have htag := (List.cons.inj (List.append_cancel_left h)).2
  have hfront := List.append_cancel_left (List.append_cancel_left htag)
  obtain ⟨heq, hclose⟩ := attributes_unique ha hb (Or.inl ⟨_, rfl⟩) (Or.inl ⟨_, rfl⟩) hfront
  exact ⟨heq, (List.cons.inj (List.cons.inj hclose).2).2⟩

/-- **Two workflows with the same markup** have the same attributes and the same trees. -/
theorem trees_unique {p q : Workflow} (h : p.markup = q.markup) :
    p.namespaceUri?.getD extensionNamespace = q.namespaceUri?.getD extensionNamespace ∧
      processList p = processList q ∧ trees p = trees q := by
  rw [markup_eq, markup_eq] at h
  have hlists := congrArg String.toList h
  rw [String.toList_append, String.toList_append] at hlists
  have hdocument := congrArg (· ++ ([] : List Char)) (List.append_cancel_left hlists)
  obtain ⟨hnamespace, hbody⟩ := enclosed_unique (areNamed_opt (by decide))
    (areNamed_opt (by decide)) String.toList_append String.toList_append hdocument
  rw [String.toList_append, String.toList_append, List.append_assoc, List.append_assoc] at hbody
  have hstart : ∀ p : Workflow, (attributesText (processList p)).toList =
      [] ++ (attributesText (processList p)).toList := fun _ => rfl
  obtain ⟨hprocess, htexts⟩ := enclosed_unique (areNamed_processList p) (areNamed_processList q)
    (hstart p) (hstart q) hbody
  obtain ⟨htrees, -⟩ := Tree.texts_unique _ _ 4 _ _ (allNamed_trees p) (allNamed_trees q)
    ⟨2, by decide, _, rfl⟩ ⟨2, by decide, _, rfl⟩ htexts
  have hlookup := congrArg (List.lookup "targetNamespace") hnamespace
  rw [lookup_opt, lookup_opt, if_pos rfl, if_pos rfl] at hlookup
  exact ⟨Option.some.inj hlookup, hprocess, htrees⟩

end Markup

open Markup

/-- **All of a workflow is written**: it has a namespace, none of its
metadata is blank, and its candidate groups can be told apart. -/
structure Writable (p : Workflow) : Prop where
  hasNamespace : p.namespaceUri?.isSome
  nonBlank : ∀ e ∈ p.elements, ∀ entry ∈ e.extensions.entries, (Text.nonBlank? entry.2).isSome
  separable : ∀ e ∈ p.elements, Separable e.kind

section Reading

variable {p q : Workflow}

theorem readElement?_flowTree (f : Flow) : readElement? (flowTree f) = none := rfl

theorem readFlow?_elementTree (e : Element) : readFlow? (elementTree e) = none := by
  have htag : (elementTree e).tag ≠ "sequenceFlow" := by
    change e.kind.tag ≠ _
    cases e.kind <;> rw [ElementKind.tag] <;> decide
  exact if_neg htag

/-- **The elements are read back** from the trees. -/
theorem filterMap_readElement?_trees (h : Writable p) :
    (trees p).filterMap readElement? = p.elements.map Element.withoutBounds := by
  have hread : ∀ e ∈ p.elements, (readElement? ∘ elementTree) e = some e.withoutBounds :=
    fun e he => readElement?_elementTree (h.separable e he) (h.nonBlank e he)
  have hflows : (p.flows.map flowTree).filterMap readElement? = [] := by
    rw [List.filterMap_map, List.filterMap_eq_nil_iff]
    exact fun f _ => readElement?_flowTree f
  rw [trees, List.filterMap_append, hflows, List.append_nil, List.filterMap_map,
    List.filterMap_congr hread]
  exact congrFun List.filterMap_eq_map' _

/-- **The flows are read back** from the trees. -/
theorem filterMap_readFlow?_trees (p : Workflow) : (trees p).filterMap readFlow? = p.flows := by
  have helements : (p.elements.map elementTree).filterMap readFlow? = [] := by
    rw [List.filterMap_map, List.filterMap_eq_nil_iff]
    exact fun e _ => readFlow?_elementTree e
  have hread : readFlow? ∘ flowTree = some := funext readFlow?_flowTree
  rw [trees, List.filterMap_append, helements, List.nil_append, List.filterMap_map, hread,
    List.filterMap_some]

/-- What is read of the attributes of a workflow. -/
theorem lookup_processList (p : Workflow) (name : String) :
    (processList p).lookup name = (if name = "id" then some p.id else none).or
      ((if name = "name" then p.name? else none).or
        (if name = "isExecutable" then some "true" else none)) := by
  simp only [processList, List.lookup_append, lookup_opt]

/-- **Nothing is lost in markup.** Two workflows that are written whole and
have the same markup differ at most in where their elements lie. -/
theorem withoutBounds_eq_of_markup_eq (hp : Writable p) (hq : Writable q)
    (h : p.markup = q.markup) : p.withoutBounds = q.withoutBounds := by
  obtain ⟨hnamespace, hprocess, htrees⟩ := trees_unique h
  have hid : p.id = q.id := by
    simpa [lookup_processList] using congrArg (List.lookup "id") hprocess
  have hname : p.name? = q.name? := by
    simpa [lookup_processList] using congrArg (List.lookup "name") hprocess
  have hspace : p.namespaceUri? = q.namespaceUri? := by
    obtain ⟨n, hn⟩ := Option.isSome_iff_exists.1 hp.hasNamespace
    obtain ⟨m, hm⟩ := Option.isSome_iff_exists.1 hq.hasNamespace
    rw [hn, hm] at hnamespace ⊢
    exact congrArg some hnamespace
  have helements : p.elements.map Element.withoutBounds =
      q.elements.map Element.withoutBounds := by
    rw [← filterMap_readElement?_trees hp, ← filterMap_readElement?_trees hq, htrees]
  have hflows : p.flows = q.flows := by
    rw [← filterMap_readFlow?_trees p, ← filterMap_readFlow?_trees q, htrees]
  rw [withoutBounds, withoutBounds, hid, hname, hspace, helements, hflows]

/-- A workflow of one task, drawn at a place. -/
def drawnAt (x : Float) : Workflow where
  id := "order"
  namespaceUri? := some "orders"
  elements :=
    [{ id := "approve"
       kind := .userTask (some "<clerk>") ["sales", "board & staff"] (some 3)
       extensions := ⟨[("region code", "\"north\""), ("grade", "1")]⟩
       bounds? := some ⟨⟨x, 0⟩, ⟨90, 40⟩⟩ }]

/-- Two places that are rounded to one, and nothing else, are lost. -/
theorem drawn_withoutBounds : (drawnAt 0.25).markup = (drawnAt 0.2).markup ∧
    drawnAt 0.25 ≠ drawnAt 0.2 ∧ (drawnAt 0.25).withoutBounds = (drawnAt 0.2).withoutBounds := by
  have hwritable : ∀ x, Writable (drawnAt x) := fun x =>
    { hasNamespace := rfl
      nonBlank := List.forall_mem_singleton.2 (show ∀ entry ∈
        [("region code", "\"north\""), ("grade", "1")], (Text.nonBlank? entry.2).isSome by decide)
      separable := List.forall_mem_singleton.2
        (show ∀ g ∈ ["sales", "board & staff"], ',' ∉ g.toList by decide) }
  have hdiagram : diagram (drawnAt 0.25) = diagram (drawnAt 0.2) := by decide +kernel
  have hsame : (drawnAt 0.25).markup = (drawnAt 0.2).markup := by
    have htrees : ∀ x y, trees (drawnAt x) = trees (drawnAt y) := fun _ _ => rfl
    have hprocess : ∀ x y, processList (drawnAt x) = processList (drawnAt y) := fun _ _ => rfl
    have hspace : ∀ x y, (drawnAt x).namespaceUri? = (drawnAt y).namespaceUri? := fun _ _ => rfl
    rw [markup_eq, markup_eq, hdiagram, htrees 0.25 0.2, hprocess 0.25 0.2, hspace 0.25 0.2]
  exact ⟨hsame, by decide +kernel,
    withoutBounds_eq_of_markup_eq (hwritable 0.25) (hwritable 0.2) hsame⟩

end Reading

end Workflow

end WorkflowCanvas
