import WorkflowCanvas.Proofs.Canvas.Layers
import WorkflowCanvas.Proofs.Workflow.Selection
/-!
# Required fields

The fields that are selected at a user step are required there: the same text
is written once more, under another key. Who is a user step is decided twice.
The layer of the selected fields goes by the tag `user` of the node
(`selectionAt?`), while the kind of the element goes by the stencil that the
settings give to the tag. So a user task requires what it selects exactly if
its node has that tag, or there is nothing to require
(`required_iff_tagged`); a tag of another name with the stencil of a user task
gives a task that selects fields and asks for none
(`approval_requires_nothing`).
-/


namespace WorkflowCanvas

namespace Workflow

open Canvas (selectedText?)
open Sketch (Node)

variable {settings : Settings} {s : Sketch} {p : Workflow} {n : Node} {e : Element} {key : String}

/-- The key of the required fields. -/
def requiredKey : String := "requiredFields"

/-- The stencil of a user task. -/
def userStencil : String := "UserTask"

/-- The keys that a selection is written under. -/
def selectionKeys : List String := [selectedKey, requiredKey]

/-- **What the selection of a node comes to under a key**, as it is attached. -/
def selectionAt? (n : Node) (key : String) : Option String :=
  if key = selectedKey ∨ key = requiredKey ∧ n.typeTag? = some "user" then
    (selectedText? n.data.selectedFields?).bind Text.nonBlank?
  else none

/-- A key that is left to the selected fields has what they write there. -/
theorem Unwritten.ownText?_eq (h : Unwritten settings n key) (hkey : key ∈ selectionKeys)
    (degree : Canvas.Degree) :
    ownText? (Canvas.nodeProperties settings degree n) key = selectionAt? n key := by
  have hlayer : ∀ k ∈ selectionKeys,
      k ∉ ["name", "delegationId", "delegationName", "delegationType"] := by decide
  have hname : key ≠ "name" := fun heq => hlayer key hkey (heq ▸ List.mem_cons_self)
  have htext : ∀ text? : Option String,
      (text?.map Json.str).bind attachedText? = text?.bind Text.nonBlank? := by
    rintro (_ | text)
    · rfl
    · exact attachedText?_str text
  rw [ownText?, h.uncovered.get?_nodeProperties_of_ne hname, Canvas.selectedProperties,
    Canvas.get?_insertSelected_eq, h.get?_below (hlayer key hkey), Option.or_none, selectionAt?]
  unfold selectedKey requiredKey
  split
  · exact htext _
  · rfl

/-- **An element has the selection of its node**, under the keys that are left to
it. -/
theorem get?_selection (h : convert settings (Canvas.ofSketch settings s) = .ok p)
    (hunique : ∀ j m, s.Accepts j m → IsNodeShaped settings m →
      nodeId settings s m = nodeId settings s n → m = n)
    (he : e ∈ p.elements) (hid : e.id = nodeId settings s n) (hkey : key ∈ selectionKeys)
    (hleft : Unwritten settings n key) : e.extensions.get? key = selectionAt? n key := by
  have hmetadata : ∀ k ∈ selectionKeys, k ∈ metadataKeys := by decide
  obtain ⟨-, hget⟩ := own_metadata h (hmetadata key hkey) hunique he hid
  rw [hget, hleft.customText?_eq, Option.none_or, hleft.ownText?_eq hkey]

/-- **Required is what is selected, at a tagged step.** An accepted node with the
stencil of a user task has an element under its id. If the id is its own, the
node selects fields with a text that is not empty, and nothing else writes the
selected or the required fields, the element is a user task that has the
text, trimmed, as its selected fields. It has the text as its required fields
if the node is tagged as a user step, and no required fields if it is not. So
the two are the same exactly if the node has that tag, or the text is blank. -/
theorem required_iff_tagged (settings : Settings) (s : Sketch) {k : Nat} {n : Node}
    {text : String} (hn : s.Accepts k n)
    (huser : (settings.mappingFor n.typeTag?).stencil = userStencil)
    (hunique : ∀ j m, s.Accepts j m → IsNodeShaped settings m →
      nodeId settings s m = nodeId settings s n → m = n)
    (htext : selectedText? n.data.selectedFields? = some text)
    (hleft : ∀ key ∈ selectionKeys, Unwritten settings n key) :
    ∃ p, convert settings (Canvas.ofSketch settings s) = .ok p ∧
      (∃ e, p.element? (nodeId settings s n) = some e) ∧
      ∀ e ∈ p.elements, e.id = nodeId settings s n →
        IsElementOf settings s n e ∧ e.kind.tag = "userTask" ∧
        e.extensions.get? selectedKey = Text.nonBlank? text ∧
        e.extensions.get? requiredKey =
          (if n.typeTag? = some "user" then Text.nonBlank? text else none) ∧
        (e.extensions.get? requiredKey = e.extensions.get? selectedKey ↔
          n.typeTag? = some "user" ∨ Text.nonBlank? text = none) := by
  have hkind : kindOf? settings n = some "userTask" :=
    (kindOf?_eq_some_iff (by decide)).2 huser
  have hsome : (kindOf? settings n).isSome = true := by rw [hkind]; rfl
  obtain ⟨p, hp⟩ := exists_convert hn hsome
  obtain ⟨e, -, hfind, -⟩ := exists_element? hp hn hsome
  refine ⟨p, hp, ⟨e, hfind⟩, fun e he hid => ?_⟩
  obtain ⟨hof, -⟩ := own_metadata hp (show selectedKey ∈ metadataKeys by decide) hunique he hid
  have hselected : e.extensions.get? selectedKey = Text.nonBlank? text := by
    rw [get?_selection hp hunique he hid (by decide) (hleft _ (by decide)), selectionAt?,
      if_pos (Or.inl rfl), htext, Option.bind_some]
  have hrequired : e.extensions.get? requiredKey =
      if n.typeTag? = some "user" then Text.nonBlank? text else none := by
    have hne : requiredKey ≠ selectedKey := by decide
    rw [get?_selection hp hunique he hid (by decide) (hleft _ (by decide)), selectionAt?, htext,
      Option.bind_some]
    simp only [hne, false_or, true_and]
  refine ⟨hof, Option.some.inj (hof.kind.symm.trans hkind), hselected, hrequired, ?_⟩
  rw [hselected, hrequired]
  by_cases htag : n.typeTag? = some "user"
  · simp [htag]
  · simp [htag, eq_comm]

/-- The standard settings with one more tag that stands for a user task. -/
def approvalSettings : Settings :=
  { Settings.standard with
    nodeTypes := Settings.standardTypes.insert "approval" { stencil := userStencil } }

/-- A step with a tag that selects a field. -/
def panNode (id tag : String) : Node where
  id
  outerTag? := some tag
  data := { selectedFields? := some (.arr [.str "PAN"]) }

/-- A sketch with two such steps, one of either tag. -/
def panSketch : Sketch where
  nodes := [panNode "collect" "user", panNode "sign" "approval"]
  edges := [{ id := "a", source := "collect", target := "sign" }]

/-- Nothing else writes what either of them selects or requires. -/
theorem unwritten_panNode {id tag : String} (htag : tag ∈ ["user", "approval"]) {key : String}
    (hkey : key ∈ selectionKeys) : Unwritten approvalSettings (panNode id tag) key := by
  have hall : ∀ tag ∈ ["user", "approval"], (panNode "" tag).typeTag? = some tag ∧
      ∀ key ∈ "customFields" :: selectionKeys,
        ((approvalSettings.mappingFor (some tag)).properties.get? key).isNone = true := by
    decide +kernel
  obtain ⟨htype, hdefaults⟩ := hall tag htag
  have hnone : ∀ key ∈ "customFields" :: selectionKeys,
      (approvalSettings.mappingFor (panNode id tag).typeTag?).properties.get? key = none := by
    intro key hkey
    rw [show (panNode id tag).typeTag? = some tag from htype]
    exact Option.isNone_iff_eq_none.1 (hdefaults key hkey)
  refine ⟨hnone key (List.mem_cons_of_mem _ hkey), fun _ h => (nomatch h),
    ⟨fun _ h => (nomatch h), fun _ h => (nomatch h)⟩, fun fields hfields => ?_,
    fun _ h => (nomatch h)⟩
  rw [hnone _ List.mem_cons_self] at hfields
  cases hfields

/-- The step that is tagged as a user step requires the field that it selects. -/
theorem collected_pan_required :
    panSketch.Accepts 0 (panNode "collect" "user") ∧
      ∃ p, convert approvalSettings (Canvas.ofSketch approvalSettings panSketch) = .ok p ∧
        ∀ e ∈ p.elements, e.id = "collect" → e.kind.tag = "userTask" ∧
          e.extensions.get? selectedKey = some "PAN" ∧
          e.extensions.get? requiredKey = some "PAN" := by
  have hn : panSketch.Accepts 0 (panNode "collect" "user") :=
    Sketch.accepts_iff_first.2 ⟨rfl, by decide, fun j hj => absurd hj (Nat.not_lt_zero j)⟩
  have hid : nodeId approvalSettings panSketch (panNode "collect" "user") = "collect" := by
    decide +kernel
  have htext : Text.nonBlank? "PAN" = some "PAN" := by decide
  have hids : (panSketch.nodes.map (nodeId approvalSettings panSketch)).Nodup := by decide +kernel
  have hselected : selectedText? (panNode "collect" "user").data.selectedFields? = some "PAN" := by
    decide +kernel
  obtain ⟨p, hp, -, hall⟩ := required_iff_tagged approvalSettings panSketch hn (by decide +kernel)
    (fun j m hm _ hsame => List.inj_on_of_nodup_map hids (List.mem_of_getElem? hm.getElem?)
      (List.mem_of_getElem? hn.getElem?) hsame)
    hselected (fun key hkey => unwritten_panNode (by decide) hkey)
  refine ⟨hn, p, hp, fun e he hsame => ?_⟩
  obtain ⟨-, hkind, hselected, hrequired, -⟩ := hall e he (hsame.trans hid.symm)
  rw [if_pos (by decide +kernel), htext] at hrequired
  exact ⟨hkind, hselected.trans htext, hrequired⟩

/-- **The step of another tag requires nothing.** It is a user task as well, has
an id of its own, and selects the same field. -/
theorem approval_requires_nothing :
    (∀ key ∈ selectionKeys, Unwritten approvalSettings (panNode "sign" "approval") key) ∧
      ∃ p, convert approvalSettings (Canvas.ofSketch approvalSettings panSketch) = .ok p ∧
        p.elements.map (fun e => (e.id, e.kind.tag, e.extensions.get? selectedKey,
            e.extensions.get? requiredKey)) =
          [("collect", "userTask", some "PAN", some "PAN"),
           ("sign", "userTask", some "PAN", none)] := by
  have hrun : (convert approvalSettings (Canvas.ofSketch approvalSettings panSketch)).toOption.map
      (fun p => p.elements.map fun e => (e.id, e.kind.tag, e.extensions.get? selectedKey,
        e.extensions.get? requiredKey)) =
      some [("collect", "userTask", some "PAN", some "PAN"),
        ("sign", "userTask", some "PAN", none)] := by
    decide +kernel
  refine ⟨fun key hkey => unwritten_panNode (by decide) hkey, ?_⟩
  rcases hp : convert approvalSettings (Canvas.ofSketch approvalSettings panSketch) with f | p
  · rw [hp] at hrun
    cases hrun
  · rw [hp] at hrun
    exact ⟨p, rfl, Option.some.inj hrun⟩

end Workflow

end WorkflowCanvas
