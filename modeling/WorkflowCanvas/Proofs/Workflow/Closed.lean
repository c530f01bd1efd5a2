import WorkflowCanvas.Workflow.OfCanvas
/-!
# Workflows whose flows lead to elements

A workflow is closed if both ends of every flow are ids of its elements.
The workflow of a canvas is closed, whatever the canvas: a connection
becomes a flow only if shapes with elements stand at both its ends, and
the flow names them by the ids that these elements have
(`closed_of_mem_structural`). What is attached to the elements afterwards
leaves their ids alone (`closed_of_convert`).
-/


namespace WorkflowCanvas

namespace Workflow

open Canvas (Shape)

/-- The id is that of an element. -/
def Has (p : Workflow) (id : String) : Prop := ∃ e ∈ p.elements, e.id = id

/-- **Every flow leads from an element to an element.** -/
def Closed (p : Workflow) : Prop := ∀ f ∈ p.flows, p.Has f.source ∧ p.Has f.target

variable {p q : Workflow} {id : String} {shapes : List Shape}

/-- An id finds an element exactly if it is that of one. -/
theorem element?_isSome_iff : (p.element? id).isSome = true ↔ p.Has id := by
  simp [element?, Has, List.find?_isSome]

theorem Has.of_element? {e : Element} (h : p.element? id = some e) : p.Has id :=
  element?_isSome_iff.1 (by rw [h]; rfl)

theorem element?_ne_none (h : p.Has id) : p.element? id ≠ none :=
  Option.isSome_iff_ne_none.1 (element?_isSome_iff.2 h)

/-- The ids of the elements are all that counts for a closed workflow. -/
theorem Closed.of_ids_eq (h : p.Closed) (hids : q.elements.map (·.id) = p.elements.map (·.id))
    (hflows : q.flows = p.flows) : q.Closed := by
  have hhas : ∀ {id : String}, p.Has id → q.Has id := by
    intro id hp
    have hmem : id ∈ q.elements.map (·.id) := hids ▸ List.mem_map.2 hp
    exact List.mem_map.1 hmem
  intro f hf
  exact (h f (hflows ▸ hf)).imp hhas hhas

/-! ## The workflow of a canvas -/

/-- The element id of a shape with an element is the id of an element. -/
theorem exists_of_elementIdOf? {resourceId : String} (h : elementIdOf? shapes resourceId = some id) :
    ∃ e ∈ shapes.filterMap elementOf?, e.id = id := by
  obtain ⟨s, hs, rfl⟩ := Option.map_eq_some_iff.1 h
  obtain ⟨hmem, hkind⟩ := List.mem_filter.1 (List.mem_of_getLast? hs)
  obtain ⟨kind, hk⟩ := Option.isSome_iff_exists.1 (Bool.and_eq_true_iff.1 hkind).2
  have helement : elementOf? s = some
      { id := s.elementId, name? := structuralText? s "name", kind
        documentation? := structuralText? s "documentation", bounds? := some s.bounds } := by
    rw [elementOf?, hk]
    rfl
  exact ⟨_, List.mem_filterMap.2 ⟨s, hmem, helement⟩, rfl⟩

/-- The ends of a flow are those of its connection. -/
theorem ends_of_flowOf? {s : Shape} {f : Flow} (h : flowOf? shapes s = some f) :
    (∃ id, elementIdOf? shapes id = some f.source) ∧
      ∃ id, elementIdOf? shapes id = some f.target := by
  obtain ⟨source, hsource, h⟩ := Option.bind_eq_some_iff.1 h
  obtain ⟨target, htarget, h⟩ := Option.bind_eq_some_iff.1 h
  obtain ⟨from_, -, hfrom⟩ := Option.bind_eq_some_iff.1 hsource
  obtain ⟨to_, -, hto⟩ := Option.bind_eq_some_iff.1 htarget
  cases h
  exact ⟨⟨from_, hfrom⟩, ⟨to_, hto⟩⟩

/-- **What is read off a canvas is closed.** -/
theorem closed_of_mem_structural {c : Canvas} (h : p ∈ structural c) : p.Closed := by
  unfold structural at h
  split at h
  · cases h
  · rw [List.mem_singleton.1 h]
    intro f hf
    obtain ⟨s, -, hs⟩ := List.mem_filterMap.1 hf
    obtain ⟨⟨_, hsource⟩, ⟨_, htarget⟩⟩ := ends_of_flowOf? hs
    exact ⟨exists_of_elementIdOf? hsource, exists_of_elementIdOf? htarget⟩

/-! ## What is attached to elements -/

theorem id_routed (e : Element) : (routed e).id = e.id := by
  unfold routed
  split <;> rfl

theorem id_finish (aliases : Table String) (shapes : List Shape) (e : Element) :
    (finish aliases shapes e).id = e.id := by
  unfold finish
  split
  · exact id_routed _
  · exact id_routed _

/-- **The workflow of a canvas is closed**, under all settings. -/
theorem closed_of_convert {settings : Settings} {c : Canvas} (h : convert settings c = .ok p) :
    p.Closed := by
  unfold convert convertWith at h
  split at h
  · cases h
  · next q _ hq =>
    cases h
    have hclosed : q.Closed := closed_of_mem_structural (by rw [hq]; exact List.mem_cons_self)
    refine hclosed.of_ids_eq ?_ rfl
    rw [List.map_map]
    exact List.map_congr_left fun e _ => id_finish _ _ e

end Workflow

end WorkflowCanvas
