import WorkflowCanvas.Conversion
import WorkflowCanvas.Proofs.Sketch.Review
import WorkflowCanvas.Proofs.Workflow.Structure
/-!
# Sketches without a start

A review looks for a start among the type tags of all nodes
(`Sketch.missingStart_mem_review_iff`). An engine looks for a start event
among the elements, and an element is made of an accepted node, by the
stencil that the settings give to its tag (`lacksStart_iff`). So the two
come to the same exactly if there is a node tagged as a start where a node
with the stencil of a start event is accepted (`missing_start_iff`). A tag
of another name that stands for a start event suffices to keep them apart
(`deployed_without_start`).
-/


namespace WorkflowCanvas

namespace Workflow

open Canvas (sanitizeId)
open Sketch (Node)

variable {settings : Settings} {operations? : Option Registry} {s : Sketch} {p : Workflow}
variable {e : Engine} {n : Node}

/-- The stencil of a start event. -/
def startStencil : String := "StartNoneEvent"

/-- The node stands for a start event. -/
def IsStart (settings : Settings) (n : Node) : Prop :=
  (settings.mappingFor n.typeTag?).stencil = startStencil

instance (settings : Settings) (n : Node) : Decidable (IsStart settings n) :=
  inferInstanceAs (Decidable (_ = _))

/-- **A sketch is turned away for want of a start**: it converts to nothing,
or its workflow is deployed without a start event. -/
def LacksStart (e : Engine) (settings : Settings) (s : Sketch) : Prop :=
  (e.deploySketch settings s).1 = .error .emptyConversion ∨
    (e.deploySketch settings s).1 = .error (.noStartEvent settings.identity.id)

/-! ## What an engine looks for -/

theorem isStart_iff : IsStart settings n ↔ kindOf? settings n = some "startEvent" :=
  (kindOf?_eq_some_iff (by decide)).symm

/-- The start events are told by the name of their kind. -/
theorem startEvents_isEmpty_iff :
    p.startEvents.isEmpty = true ↔ ∀ e ∈ p.elements, e.kind.tag ≠ "startEvent" := by
  have hkind : ∀ kind : ElementKind, (kind == .startEvent) = true ↔ kind.tag = "startEvent" := by
    intro kind
    cases kind with
    | startEvent => exact iff_of_true rfl rfl
    | _ => exact iff_of_false (fun h => nomatch h) (by simp [ElementKind.tag])
  rw [startEvents, List.isEmpty_iff, List.filter_eq_nil_iff]
  exact forall₂_congr fun e _ => not_congr (hkind e.kind)

/-- A workflow has no start event if no accepted node stands for one. -/
theorem startEvents_of_convert (h : convert settings (Canvas.ofSketch settings s) = .ok p) :
    p.startEvents.isEmpty = true ↔ ∀ k n, s.Accepts k n → ¬ IsStart settings n := by
  rw [startEvents_isEmpty_iff]
  constructor
  · intro hnone k n hn hstart
    have hkind := isStart_iff.1 hstart
    obtain ⟨e, he, hof⟩ := (lists_elements h).exists_mem ⟨hn, by rw [hkind]; rfl⟩
    exact hnone e he (Option.some.inj (hof.kind.symm.trans hkind))
  · intro hnone e he htag
    obtain ⟨k, n, ⟨hn, -⟩, hof⟩ := (lists_elements h).exists_of_mem he
    exact hnone k n hn (isStart_iff.2 (hof.kind.trans (congrArg some htag)))

/-- **A sketch is deployed** if an accepted node stands for a start event, and
turned away for want of one if not. -/
theorem deploySketch_cases (e : Engine) (settings : Settings) (s : Sketch) :
    (∃ k n, s.Accepts k n ∧ IsStart settings n) ∧ (∃ d, (e.deploySketch settings s).1 = .ok d) ∨
      (∀ k n, s.Accepts k n → ¬ IsStart settings n) ∧ LacksStart e settings s := by
  rcases hconvert : convert settings (Canvas.ofSketch settings s) with f | p
  · -- a shape that stands for a start event would be a node
    rw [convert_eq] at hconvert
    split at hconvert <;> cases hconvert
    next hempty =>
    refine Or.inr ⟨fun k n hn hstart => ?_, Or.inl ?_⟩
    · have hmem : Canvas.shapeOfNode settings s n ∈ (Canvas.ofSketch settings s).nodeShapes :=
        mem_nodeShapes hn (by rw [isStart_iff.1 hstart]; rfl)
      rw [List.isEmpty_iff.1 hempty] at hmem
      exact absurd hmem List.not_mem_nil
    · have hnone : convert settings (Canvas.ofSketch settings s) = .error .emptyConversion := by
        rw [convert_eq, if_pos hempty]
      rw [Engine.deploySketch, Conversion.ofSketch, hnone]
      rfl
  · have hdeploy : (e.deploySketch settings s).1 = (e.deploy p).1 := by
      rw [Engine.deploySketch, Conversion.ofSketch, hconvert]
      rfl
    have hid : p.id = settings.identity.id := by
      rw [convert_eq] at hconvert
      split at hconvert <;> cases hconvert
      rfl
    by_cases hempty : p.startEvents.isEmpty = true
    · refine Or.inr ⟨(startEvents_of_convert hconvert).1 hempty, Or.inr ?_⟩
      rw [hdeploy, Engine.deploy, if_pos hempty, hid]
    · have hsome := mt (startEvents_of_convert hconvert).2 hempty
      push Not at hsome
      refine Or.inl ⟨hsome, ⟨identifier e.drawn, p.id⟩, ?_⟩
      rw [hdeploy, Engine.deploy, if_neg hempty]

/-- **A sketch is turned away for want of a start** exactly if no accepted node
stands for a start event. -/
theorem lacksStart_iff : LacksStart e settings s ↔
    ∀ k n, s.Accepts k n → ¬ IsStart settings n := by
  rcases deploySketch_cases e settings s with ⟨⟨k, n, hn, hstart⟩, d, hd⟩ | ⟨hnone, hlacks⟩
  · refine iff_of_false ?_ fun hnone => hnone k n hn hstart
    rintro (h | h) <;> rw [hd] at h <;> cases h
  · exact iff_of_true hlacks hnone

/-! ## Where a review comes to the same -/

/-- **The starts of a sketch are those that are tagged so**, and no node of
another tag takes the shape id of one. -/
structure StartsByTag (settings : Settings) (s : Sketch) : Prop where
  /-- A node stands for a start event if it is tagged as a start. -/
  tagged : ∀ n ∈ s.nodes, IsStart settings n ↔ n.typeTag? = some "start"
  /-- A node that is tagged as a start has an id. -/
  named : ∀ n ∈ s.nodes, n.typeTag? = some "start" → (Text.nonBlank? n.id).isSome = true
  /-- What has its shape id before it is tagged as a start too. -/
  first : ∀ (k : Nat) (n : Node), s.nodes[k]? = some n → n.typeTag? = some "start" →
    ∀ j < k, ∀ m : Node, s.nodes[j]? = some m → (Text.nonBlank? m.id).isSome = true →
      sanitizeId m.id = sanitizeId n.id → m.typeTag? = some "start"

/-- Then a start event is accepted where a node is tagged as a start. -/
theorem StartsByTag.exists_iff (h : StartsByTag settings s) :
    (∃ n ∈ s.nodes, n.typeTag? = some "start") ↔ ∃ k n, s.Accepts k n ∧ IsStart settings n := by
  constructor
  · rintro ⟨n, hn, htag⟩
    obtain ⟨k, hk⟩ := List.mem_iff_getElem?.1 hn
    -- the node that is accepted under the shape id may be another one
    obtain ⟨j, hle, m, hm, heq⟩ := Sketch.exists_accepts hk (h.named n hn htag)
    refine ⟨j, m, hm, (h.tagged m (List.mem_of_getElem? hm.getElem?)).2 ?_⟩
    rcases Nat.eq_or_lt_of_le hle with rfl | hlt
    · rwa [Option.some.inj (hm.getElem?.symm.trans hk)]
    · exact h.first k n hk htag j hlt m hm.getElem? hm.nonBlank heq
  · rintro ⟨k, n, hn, hstart⟩
    have hmem := List.mem_of_getElem? hn.getElem?
    exact ⟨n, hmem, (h.tagged n hmem).1 hstart⟩

/-- **Under the standard settings the starts are those that are tagged so**:
no other tag has their stencil. -/
theorem isStart_standard_iff : IsStart .standard n ↔ n.typeTag? = some "start" := by
  rw [IsStart, Settings.mappingFor]
  rcases htag : n.typeTag? with _ | tag
  · exact iff_of_false (by decide) (by simp)
  · rw [Option.bind_some, Option.some_inj]
    constructor
    · intro hstencil
      rcases hget : Settings.standard.nodeTypes.get? tag with _ | mapping
      · rw [hget] at hstencil
        exact absurd hstencil (by decide)
      · rw [hget, Option.getD_some] at hstencil
        have hmem : (tag, mapping) ∈ Settings.standardTypes := Table.mem_of_get? hget
        simp only [Settings.standardTypes, List.mem_cons, List.not_mem_nil, or_false,
          Prod.mk.injEq] at hmem
        rcases hmem with ⟨-, rfl⟩ | ⟨-, rfl⟩ | ⟨-, rfl⟩ | ⟨-, rfl⟩ | ⟨-, rfl⟩ | ⟨rfl, -⟩ | ⟨-, rfl⟩
        case inr.inr.inr.inr.inr.inl => rfl
        all_goals exact absurd hstencil (by decide)
    · rintro rfl
      rfl

/-- **When a missing start is reported.** A review reports it exactly if no
node is tagged as a start; an engine turns the sketch away for want of one
exactly if no accepted node has the stencil of a start event, and deploys
it otherwise. So they agree exactly if some node is tagged as a start just
in case some accepted node stands for a start event, as is so where the
starts of the sketch are those that are tagged so and none of them gives
way to a node of another tag. -/
theorem missing_start_iff (e : Engine) (settings : Settings) (operations? : Option Registry)
    (s : Sketch) :
    (.missingStart ∈ s.review settings operations? ↔ ∀ n ∈ s.nodes, n.typeTag? ≠ some "start") ∧
    (LacksStart e settings s ↔ ∀ k n, s.Accepts k n → ¬ IsStart settings n) ∧
    (¬ LacksStart e settings s → ∃ d, (e.deploySketch settings s).1 = .ok d) ∧
    ((.missingStart ∈ s.review settings operations? ↔ LacksStart e settings s) ↔
      ((∃ n ∈ s.nodes, n.typeTag? = some "start") ↔
        ∃ k n, s.Accepts k n ∧ IsStart settings n)) ∧
    (StartsByTag settings s →
      (.missingStart ∈ s.review settings operations? ↔ LacksStart e settings s)) := by
  have hagree : (.missingStart ∈ s.review settings operations? ↔ LacksStart e settings s) ↔
      ((∃ n ∈ s.nodes, n.typeTag? = some "start") ↔
        ∃ k n, s.Accepts k n ∧ IsStart settings n) := by
    have hnoTag : (∀ n ∈ s.nodes, n.typeTag? ≠ some "start") ↔
        ¬ ∃ n ∈ s.nodes, n.typeTag? = some "start" := by
      push Not
      rfl
    have hnoStart : (∀ k n, s.Accepts k n → ¬ IsStart settings n) ↔
        ¬ ∃ k n, s.Accepts k n ∧ IsStart settings n := by
      push Not
      rfl
    rw [Sketch.missingStart_mem_review_iff, lacksStart_iff, hnoTag, hnoStart, not_iff_not]
  refine ⟨Sketch.missingStart_mem_review_iff, lacksStart_iff, fun hnot => ?_, hagree,
    fun h => hagree.2 h.exists_iff⟩
  rcases deploySketch_cases e settings s with ⟨-, hd⟩ | ⟨-, hlacks⟩
  · exact hd
  · exact absurd hlacks hnot

/-- The standard settings with one more tag that stands for a start event. -/
def beginSettings : Settings :=
  { Settings.standard with
    nodeTypes := Settings.standardTypes.insert "begin" { stencil := startStencil } }

/-- A sketch that begins at a node with that tag. -/
def beginSketch : Sketch where
  nodes := [{ id := "b", outerTag? := "begin" }, { id := "g", outerTag? := "end" }]
  edges := [{ id := "a", source := "b", target := "g" }]

/-- An engine that nothing was deployed on. -/
def idleEngine : Engine where
  library := {}
  stepLimit := Engine.defaultStepLimit

/-- **A start is reported missing, and the sketch is deployed.** Its start has
a tag of another name. -/
theorem deployed_without_start :
    beginSketch.review beginSettings none = [.missingStart] ∧
      (∃ d, (idleEngine.deploySketch beginSettings beginSketch).1 = .ok d) ∧
      ¬ (.missingStart ∈ beginSketch.review beginSettings none ↔
        LacksStart idleEngine beginSettings beginSketch) := by
  have hreview : beginSketch.review beginSettings none = [.missingStart] := by decide +kernel
  have hstart : ∃ k n, beginSketch.Accepts k n ∧ IsStart beginSettings n :=
    ⟨0, { id := "b", outerTag? := "begin" },
      Sketch.accepts_iff_first.2 ⟨rfl, by decide, fun j hlt => absurd hlt (Nat.not_lt_zero j)⟩,
      by decide +kernel⟩
  obtain ⟨k, n, hn, hn'⟩ := hstart
  rcases deploySketch_cases idleEngine beginSettings beginSketch with ⟨-, hd⟩ | ⟨hnone, -⟩
  · refine ⟨hreview, hd, fun hiff => lacksStart_iff.1 (hiff.1 ?_) k n hn hn'⟩
    rw [hreview]
    exact List.mem_singleton_self _
  · exact absurd hn' (hnone k n hn)

end Workflow

end WorkflowCanvas
