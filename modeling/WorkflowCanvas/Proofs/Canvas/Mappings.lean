import WorkflowCanvas.Proofs.Canvas.Wiring
import WorkflowCanvas.Proofs.Settings.Accepted
import WorkflowCanvas.Proofs.Text
/-!
# Mappings of nodes

A node is compiled with the mapping for its type tag, and with nothing else of
the mappings (`compiledWith_mappingFor`). An overlay gives mappings to tags in
lower case, blanks and all, while the tag of a node is trimmed. So the mappings
given for a tag reach the nodes with that tag exactly if there are no blanks
around it (`compiled_as_given_iff`).
-/


namespace WorkflowCanvas

namespace Settings

open Canvas (shapeOfNode)
open Sketch (Node)

variable {s settings : Settings} {o : Overlay} {m : Mapping} {n : Node} {text tag written : String}

/-! ## The mapping behind a shape -/

/-- The settings with one mapping for all type tags. -/
def only (s : Settings) (m : Mapping) : Settings := { s with nodeTypes := [], fallback := m }

@[simp] theorem mappingFor_only (s : Settings) (m : Mapping) (tag? : Option String) :
    (s.only m).mappingFor tag? = m := by
  cases tag? <;> rfl

/-- **A node is compiled with a mapping**: whatever sketch it is in, its shape is
the one that it has if there is just this mapping. -/
def CompiledWith (settings : Settings) (m : Mapping) (n : Node) : Prop :=
  ∀ s, shapeOfNode settings s n = shapeOfNode (settings.only m) s n

/-- A node is compiled with the mapping for its type tag. -/
theorem compiledWith_mappingFor (settings : Settings) (n : Node) :
    settings.CompiledWith (settings.mappingFor n.typeTag?) n := by
  intro s
  simp only [shapeOfNode, Canvas.nodeShape, Canvas.nodeProperties, mappingFor_only]
  rfl

theorem CompiledWith.stencil_eq (h : settings.CompiledWith m n) :
    m.stencil = (settings.mappingFor n.typeTag?).stencil := by
  have hshape := congrArg Canvas.Shape.stencil (h ⟨[], []⟩)
  simpa [shapeOfNode, Canvas.nodeShape] using hshape.symm

/-! ## Given mappings -/

/-- **Mappings after an overlay**: the one it gives, else the one from before. -/
theorem mappingFor_apply (h : (s.apply o).2 = none) (ho : o.IsSorted) (tag? : Option String) :
    (s.apply o).1.mappingFor tag? =
      ((tag?.bind o.nodeType?).map (·.2)).getD (s.mappingFor tag?) := by
  have hget : ∀ tag, (s.apply o).1.nodeTypes.get? tag =
      ((o.nodeType? tag).map (·.2)).or (s.nodeTypes.get? tag) := by
    intro tag
    refine Option.map_injective (fun _ _ => Value.mapping.inj) ?_
    rw [Option.map_or, Option.map_map]
    exact at?_apply h ho (.nodeType tag)
  rw [mappingFor, mappingFor, fallback_apply h]
  cases tag? with
  | none => rfl
  | some tag =>
    rw [Option.bind_some, Option.bind_some, Option.bind_some, hget]
    cases o.nodeType? tag <;> rfl

theorem eq_of_parse (h : parse text = .ok settings) (ho : overlayOf? text = some o) :
    settings = (standard.apply o).1 ∧ (standard.apply o).2 = none := by
  rw [parse, applyText_eq ho] at h
  split at h
  · next happly =>
    rw [happly]
    exact ⟨(Except.ok.inj h).symm, rfl⟩
  · cases h

/-- The entry that an overlay gives for the type tag of a node. -/
def given? (o : Overlay) (n : Node) : Option (String × Mapping) := n.typeTag?.bind o.nodeType?

/-- The tag that is written for a node is its type tag in lower case, if it has no
blanks around it, and is the type tag only then. -/
theorem typeTag?_eq_iff (hwritten : n.data.tag? = some written) (hne : written ≠ "") :
    n.typeTag? = some (Text.toLower written) ↔ Text.trim written = written := by
  have htypeTag : n.typeTag? = if Text.toLower (Text.trim written) = "" then none
      else some (Text.toLower (Text.trim written)) := by
    rw [Node.typeTag?, hwritten]
    rfl
  rw [htypeTag]
  constructor
  · intro h
    by_cases hempty : Text.toLower (Text.trim written) = ""
    · rw [if_pos hempty] at h
      cases h
    · rw [if_neg hempty, Option.some_inj] at h
      rw [← Text.trim_toLower_eq_self_iff, ← h, Text.trim_toLower_eq_self_iff]
      exact Text.trim_trim written
  · intro h
    rw [h, if_neg (mt Text.toLower_eq_empty_iff.1 hne)]

/-- A node with a tag for its type. -/
def tagged (tag : String) : Node := { id := "a", data := { tag? := some tag } }

/-- **When a given mapping is used.** Under accepted settings a node is compiled
with the mapping that they give for its type tag, in lower case and without the
blanks around it, and else with the one that held before. For a node that is
written with a given tag, in whatever letter case, that is a mapping given for
this tag, up to letter case, exactly if there are no blanks around the tag. -/
theorem compiled_as_given_iff {text : String} {settings : Settings} {o : Overlay}
    (haccepted : parse text = .ok settings) (hread : overlayOf? text = some o)
    {tag : String} {m : Mapping} (hgiven : (tag, m) ∈ o.nodeTypes?.getD [])
    (hblank : (Text.nonBlank? tag).isSome = true) {n : Node} {written : String}
    (hwritten : n.data.tag? = some written) (hsame : Text.toLower written = Text.toLower tag) :
    settings.CompiledWith
        (((given? o n).map (·.2)).getD (standard.mappingFor n.typeTag?)) n ∧
      ((∃ e ∈ o.nodeTypes?.getD [], Text.toLower e.1 = Text.toLower tag ∧ given? o n = some e) ↔
        Text.trim tag = tag) := by
  have htag : tag ≠ "" := by
    rintro rfl
    cases hblank
  have hne : written ≠ "" := by
    rwa [ne_eq, ← Text.toLower_eq_empty_iff, hsame, Text.toLower_eq_empty_iff]
  have htrim : Text.trim written = written ↔ Text.trim tag = tag := by
    rw [← Text.trim_toLower_eq_self_iff, hsame, Text.trim_toLower_eq_self_iff]
  obtain ⟨rfl, happlied⟩ := eq_of_parse haccepted hread
  obtain ⟨d, -, hd⟩ := Option.bind_eq_some_iff.1 hread
  constructor
  · have hused := compiledWith_mappingFor (standard.apply o).1 n
    rwa [mappingFor_apply happlied (isSorted_of_ofDocument? hd)] at hused
  · rw [← htrim, ← typeTag?_eq_iff hwritten hne]
    constructor
    · rintro ⟨e, -, hsame', he⟩
      obtain ⟨found, hfound, hentry⟩ := Option.bind_eq_some_iff.1 he
      rw [hfound, (Overlay.nodeType?_spec hentry).2, hsame', hsame]
    · intro htypeTag
      rw [given?, htypeTag, Option.bind_some, hsame]
      cases hentry : o.nodeType? (Text.toLower tag) with
      | none => exact absurd rfl (Overlay.nodeType?_eq_none_iff.1 hentry _ hgiven)
      | some e =>
        obtain ⟨he, hlower⟩ := Overlay.nodeType?_spec hentry
        exact ⟨e, he, hlower.symm, rfl⟩

/-- A given mapping is used for a tag in other letter case. -/
theorem review_in_capitals :
    let text := (stencils [("Review", "UserTask")]).compact
    let o : Overlay := { nodeTypes? := some [("Review", { stencil := "UserTask" })] }
    ∃ settings, parse text = .ok settings ∧ overlayOf? text = some o ∧
      given? o (tagged "REVIEW") = some ("Review", { stencil := "UserTask" }) ∧
      settings.CompiledWith { stencil := "UserTask" } (tagged "REVIEW") := by
  intro text o
  have hread : overlayOf? text = some o := overlayOf?_stencils [("Review", "UserTask")]
  have haccepted : parse text = .ok (standard.apply o).1 := by
    rw [parse, applyText_eq hread]
    rfl
  have hentry : ("Review", { stencil := "UserTask" }) ∈ o.nodeTypes?.getD [] := List.mem_cons_self
  have hblank : (Text.nonBlank? "Review").isSome = true := rfl
  have hwritten : (tagged "REVIEW").data.tag? = some "REVIEW" := rfl
  have hsame : Text.toLower "REVIEW" = Text.toLower "Review" := by decide
  have hgiven : given? o (tagged "REVIEW") = some ("Review", { stencil := "UserTask" }) := rfl
  have hcompiled := (compiled_as_given_iff haccepted hread hentry hblank hwritten hsame).1
  rw [hgiven] at hcompiled
  exact ⟨_, haccepted, hread, hgiven, hcompiled⟩

/-- **A tag with blanks around it is missed.** The node is written with the very tag
that was given a mapping, and becomes a service step. -/
theorem spaced_tag_missed :
    let text := (stencils [(" review ", "UserTask")]).compact
    let o : Overlay := { nodeTypes? := some [(" review ", { stencil := "UserTask" })] }
    text = "\x7b\"nodeTypes\":\x7b\" review \":\x7b\"stencil\":\"UserTask\"\x7d\x7d\x7d" ∧
      overlayOf? text = some o ∧
      ∃ settings, parse text = .ok settings ∧
        (∀ e ∈ o.nodeTypes?.getD [], Text.toLower e.1 = Text.toLower " review " →
          ¬ settings.CompiledWith e.2 (tagged " review ")) ∧
        ((Canvas.ofSketch settings ⟨[tagged " review "], []⟩).childShapes.map (·.stencil)) =
          ["ServiceTask"] := by
  intro text o
  have hread : overlayOf? text = some o := overlayOf?_stencils [(" review ", "UserTask")]
  have haccepted : parse text = .ok (standard.apply o).1 := by
    rw [parse, applyText_eq hread]
    rfl
  refine ⟨by decide, hread, _, haccepted, ?_, rfl⟩
  refine List.forall_mem_singleton.2 fun _ hcompiled => ?_
  have hstencil : "UserTask" = "ServiceTask" := hcompiled.stencil_eq
  exact absurd hstencil (by decide)

end Settings

end WorkflowCanvas
