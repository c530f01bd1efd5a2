import WorkflowCanvas.Proofs.Geometry
import WorkflowCanvas.Proofs.Json.CompactText
import WorkflowCanvas.Sketch.Codec
import WorkflowCanvas.Sketch.Draft
/-!
# Sketches are read back

A property that is absent is left out of the document of a sketch, and one
that is null is written. The reader takes a null for an absent property. So a
stored sketch comes back without the nulls among its custom and its selected
fields (`Sketch.Storable.readsAs`), and it comes back as it was exactly if
there are none (`parse?_compact_eq_iff`). A draft can hold such a null
(`drafted_null_is_lost`).
-/


namespace WorkflowCanvas

namespace Sketch

open Document (ReadsAs Written asString? asList? asOption?)

/-- An optional text is read back, left out where it is absent. -/
theorem readsAs_some_str (s? : Option String) :
    ∀ s, s? = some s → ReadsAs (asOption? asString?) (.str s) (some s) :=
  fun s _ => (ReadsAs.str s).some nofun

/-- An optional point is read back, left out where it is absent. -/
theorem readsAs_some_point {p? : Option Point} (h : ∀ p, p? = some p → p.IsFinite) :
    ∀ p, p? = some p → ReadsAs (asOption? Point.ofDocument?) p.toDocument (some p) :=
  fun p hp => (h p hp).readsAs.some nofun

/-- An optional size is read back, left out where it is absent. -/
theorem readsAs_some_number {x? : Option Float} (h : ∀ x, x? = some x → x.isFinite = true) :
    ∀ x, x? = some x → ReadsAs (asOption? Document.asFloat?) (Document.number x) (some x) := by
  intro x hx
  refine (ReadsAs.number (h x hx)).some ?_
  rw [Document.number, if_pos (h x hx)]
  nofun

/-! ## The data of a node -/

namespace NodeData

/-- **The data of a node can be stored**: its parameters and its optional values
are canonical. -/
structure Storable (n : NodeData) : Prop where
  parameters : Json.Canonical (.obj n.parameters)
  customFields : ∀ v, n.customFields? = some v → v.Canonical
  selectedFields : ∀ v, n.selectedFields? = some v → v.Canonical

/-- The data with the optional values that are null taken for absent. -/
def withoutNulls (n : NodeData) : NodeData :=
  { n with
    customFields? := n.customFields?.bind Json.nonNull?
    selectedFields? := n.selectedFields?.bind Json.nonNull? }

/-- No optional value is null. -/
def HoldsNoNull (n : NodeData) : Prop :=
  n.customFields? ≠ some .null ∧ n.selectedFields? ≠ some .null

theorem bind_nonNull?_eq_iff {v? : Option Json} :
    v?.bind Json.nonNull? = v? ↔ v? ≠ some .null := by
  rcases v? with _ | v
  · simp
  · cases v <;> simp [Json.nonNull?]

theorem withoutNulls_eq_iff {n : NodeData} : n.withoutNulls = n ↔ n.HoldsNoNull := by
  rw [HoldsNoNull, ← bind_nonNull?_eq_iff, ← bind_nonNull?_eq_iff]
  cases n
  simp [withoutNulls]

/-- **The data of a node is read back, without its nulls.** -/
theorem Storable.readsAs {n : NodeData} (h : n.Storable) :
    ReadsAs ofDocument? n.toDocument n.withoutNulls := by
  have hparameters := ReadsAs.fields h.parameters
  have hcustom := fun v hv => ReadsAs.nonNull (h.customFields v hv)
  have hselected := fun v hv => ReadsAs.nonNull (h.selectedFields v hv)
  refine ⟨Written.obj (.append (.append (.append (.append (.append (.append (.append
    (.field? fun _ _ => .str _) (.field? fun _ _ => .str _))
    (.fieldUnlessEmpty hparameters.wellFormed))
    (.field? fun v hv => (hcustom v hv).wellFormed))
    (.field? fun v hv => (hselected v hv).wellFormed))
    (.field? fun _ _ => .str _)) (.field? fun _ _ => .str _)) (.field? fun _ _ => .str _))
    (by decide), fun d' hre => ?_⟩
  obtain ⟨r, hr, hholds⟩ := Record.exists_holds hre ["nodeType", "label", "parameters",
    "customFields", "selectedFields", "delegationId", "delegationName", "delegationType"]
  have hreadTag := hholds.field? "nodeType" (readsAs_some_str n.tag?)
    (by simp [List.lookup_append]) (by simp)
  have hreadLabel := hholds.field? "label" (readsAs_some_str n.label?)
    (by simp [List.lookup_append]) (by simp)
  have hreadParameters := hholds.fieldUnlessEmpty "parameters" hparameters
    (by simp [List.lookup_append]) (by simp)
  have hreadCustom := hholds.field?_bind "customFields" hcustom
    (by simp [List.lookup_append]) (by simp)
  have hreadSelected := hholds.field?_bind "selectedFields" hselected
    (by simp [List.lookup_append]) (by simp)
  have hreadId := hholds.field? "delegationId" (readsAs_some_str n.delegationId?)
    (by simp [List.lookup_append]) (by simp)
  have hreadName := hholds.field? "delegationName" (readsAs_some_str n.delegationName?)
    (by simp [List.lookup_append]) (by simp)
  have hreadType := hholds.field? "delegationType" (readsAs_some_str n.delegationType?)
    (by simp [List.lookup_append]) (by simp)
  rw [ofDocument?, hr]
  simp [hreadTag, hreadLabel, hreadParameters, hreadCustom, hreadSelected, hreadId, hreadName,
    hreadType, withoutNulls]

end NodeData

/-! ## Nodes and edges -/

namespace Node

/-- **A node can be stored**: its data can, and its coordinates and sizes are
finite. -/
structure Storable (n : Node) : Prop where
  data : n.data.Storable
  position : ∀ p, n.position? = some p → p.IsFinite
  absolutePosition : ∀ p, n.absolutePosition? = some p → p.IsFinite
  width : ∀ x, n.width? = some x → x.isFinite = true
  height : ∀ x, n.height? = some x → x.isFinite = true

/-- A node with the optional values that are null taken for absent. -/
def withoutNulls (n : Node) : Node := { n with data := n.data.withoutNulls }

theorem withoutNulls_eq_iff {n : Node} : n.withoutNulls = n ↔ n.data.HoldsNoNull := by
  rw [← NodeData.withoutNulls_eq_iff]
  cases n
  simp [withoutNulls]

/-- **A node is read back, without its nulls.** -/
theorem Storable.readsAs {n : Node} (h : n.Storable) :
    ReadsAs ofDocument? n.toDocument n.withoutNulls := by
  have hid := ReadsAs.str n.id
  have hdata := h.data.readsAs
  have hposition := readsAs_some_point h.position
  have habsolute := readsAs_some_point h.absolutePosition
  have hwidth := readsAs_some_number h.width
  have hheight := readsAs_some_number h.height
  refine ⟨Written.obj (.append (.append (.append (.append (.append (.append
    (.cons hid.wellFormed .nil) (.field? fun _ _ => .str _)) (.cons hdata.wellFormed .nil))
    (.field? fun p hp => (hposition p hp).wellFormed))
    (.field? fun p hp => (habsolute p hp).wellFormed))
    (.field? fun x hx => (hwidth x hx).wellFormed))
    (.field? fun x hx => (hheight x hx).wellFormed)) (by decide), fun d' hre => ?_⟩
  obtain ⟨r, hr, hholds⟩ := Record.exists_holds hre ["id", "type", "data", "position",
    "positionAbsolute", "width", "height"]
  have hreadId := hholds.required "id" hid rfl (by simp)
  have hreadTag := hholds.field? "type" (readsAs_some_str n.outerTag?)
    (by simp [List.lookup_append]) (by simp)
  have hreadData := hholds.default "data" {} hdata (by simp [List.lookup_append]) (by simp)
  have hreadPosition := hholds.field? "position" hposition (by simp [List.lookup_append])
    (by simp)
  have hreadAbsolute := hholds.field? "positionAbsolute" habsolute (by simp [List.lookup_append])
    (by simp)
  have hreadWidth := hholds.field? "width" hwidth (by simp [List.lookup_append]) (by simp)
  have hreadHeight := hholds.field? "height" hheight (by simp [List.lookup_append]) (by simp)
  rw [ofDocument?, hr]
  simp [hreadId, hreadTag, hreadData, hreadPosition, hreadAbsolute, hreadWidth, hreadHeight,
    withoutNulls]

end Node

/-- **An edge is read back.** -/
theorem Edge.readsAs (e : Edge) : ReadsAs Edge.ofDocument? e.toDocument e := by
  have hid := ReadsAs.str e.id
  have hsource := ReadsAs.str e.source
  have htarget := ReadsAs.str e.target
  refine ⟨Written.obj (.cons hid.wellFormed (.cons hsource.wellFormed
    (.cons htarget.wellFormed .nil))) (by decide), fun d' hre => ?_⟩
  obtain ⟨r, hr, hholds⟩ := Record.exists_holds hre ["id", "source", "target"]
  have hreadId := hholds.default "id" "" hid rfl (by simp)
  have hreadSource := hholds.required "source" hsource rfl (by simp)
  have hreadTarget := hholds.required "target" htarget rfl (by simp)
  rw [Edge.ofDocument?, hr]
  simp [hreadId, hreadSource, hreadTarget]

/-! ## Sketches -/

variable {s : Sketch}

/-- **A sketch can be stored**: all its nodes can. -/
def Storable (s : Sketch) : Prop := ∀ n ∈ s.nodes, n.Storable

/-- A sketch with the optional values that are null taken for absent. -/
def withoutNulls (s : Sketch) : Sketch := { s with nodes := s.nodes.map Node.withoutNulls }

theorem withoutNulls_eq_iff : s.withoutNulls = s ↔ ∀ n ∈ s.nodes, n.data.HoldsNoNull := by
  have hnodes : s.withoutNulls = s ↔ s.nodes.map Node.withoutNulls = s.nodes := by
    cases s
    simp [withoutNulls]
  rw [hnodes]
  conv_lhs => rw [← List.map_id s.nodes, List.map_map]
  rw [List.map_inj_left]
  exact forall₂_congr fun n _ => Node.withoutNulls_eq_iff

/-- **A sketch is read back, without its nulls**, in whatever order its fields
come. -/
theorem Storable.readsAs (h : s.Storable) : ReadsAs ofDocument? s.toDocument s.withoutNulls := by
  have hnodes : ReadsAs (asList? Node.ofDocument?) (Document.list Node.toDocument s.nodes)
      (s.nodes.map Node.withoutNulls) := ReadsAs.listMap fun n hn => (h n hn).readsAs
  have hedges : ReadsAs (asList? Edge.ofDocument?) (Document.list Edge.toDocument s.edges)
      s.edges := ReadsAs.list fun e _ => e.readsAs
  refine ⟨Written.obj (.cons hnodes.wellFormed (.cons hedges.wellFormed .nil)) (by decide), ?_⟩
  intro d' hre
  obtain ⟨r, hr, hholds⟩ := Record.exists_holds hre ["nodes", "edges"]
  have hreadNodes := hholds.default "nodes" [] hnodes rfl (by simp)
  have hreadEdges := hholds.default "edges" [] hedges rfl (by simp)
  rw [ofDocument?, hr]
  simp [hreadNodes, hreadEdges, withoutNulls]

/-- **Sketches come back without their nulls, and as they were exactly if they
have none.** This holds of the text and of the value of the document alike,
for whatever ids, labels, parameters and free-form values, if coordinates and
sizes are finite, free-form objects sorted, and the text within what the
reader takes: no deeper than its limit, and with numbers that it reads back. -/
theorem parse?_compact_eq_iff (s : Sketch) (h : s.Storable) (hlegible : s.toDocument.Legible)
    (hdepth : s.toDocument.depth ≤ Document.nestingLimit) :
    (parse? s.toDocument.compact = some s.withoutNulls ∧
      ∃ j, s.toDocument.toJson? = some j ∧ ofDocument? (.ofJson j) = some s.withoutNulls) ∧
    (parse? s.toDocument.compact = some s ↔ ∀ n ∈ s.nodes, n.data.HoldsNoNull) := by
  have hparse : parse? s.toDocument.compact = some s.withoutNulls :=
    h.readsAs.parse?_compact hlegible hdepth
  refine ⟨⟨hparse, h.readsAs.exists_toJson?⟩, ?_⟩
  rw [hparse, Option.some_inj, withoutNulls_eq_iff]

/-- A draft of a single node with custom fields. -/
def draftedReview (customFields : Json) : Sketch :=
  ((({} : Draft).node "review" "user").customFields customFields).sketch

theorem storable_draftedReview {v : Json} (h : v.Canonical) : (draftedReview v).Storable := by
  intro n hn
  obtain rfl := List.mem_singleton.1 hn
  constructor
  · constructor
    · exact .obj List.Pairwise.nil nofun
    · rintro _ ⟨⟩
      exact h
    · nofun
  · rintro _ ⟨⟩
    exact ⟨by decide +kernel, by decide +kernel⟩
  · nofun
  · nofun
  · nofun

theorem toDocument_draftedReview (v : Json) : (draftedReview v).toDocument = .obj
    [("nodes", .arr [.obj [("id", .str "review"),
      ("data", .obj [("nodeType", .str "user"), ("customFields", .ofJson v)]),
      ("position", .obj [("x", .float 0), ("y", .float 0)])]]),
     ("edges", .arr [])] := by
  rfl

theorem legible_draftedReview {v : Json} (h : (Document.ofJson v).Legible) :
    (draftedReview v).toDocument.Legible := by
  have hzero : Document.Legible (.float 0) := .float (by rfl)
  rw [toDocument_draftedReview]
  refine .obj (List.forall_mem_cons.2 ⟨.arr (List.forall_mem_singleton.2 (.obj ?_)),
    List.forall_mem_singleton.2 (.arr nofun)⟩)
  simp only [List.forall_mem_cons]
  refine ⟨.str _, .obj ?_, .obj ?_, nofun⟩
  · simp only [List.forall_mem_cons]
    exact ⟨.str _, h, nofun⟩
  · simp only [List.forall_mem_cons]
    exact ⟨hzero, hzero, nofun⟩

/-- Custom fields with a null inside. -/
def amountFields : Json := .obj [("AMOUNT", .int 5000), ("NOTE", .null)]

theorem canonical_amountFields : amountFields.Canonical := by
  refine .obj (List.pairwise_pair.2 (by decide +kernel)) ?_
  simp only [List.forall_mem_cons]
  exact ⟨.int _, .null, List.forall_mem_nil _⟩

theorem legible_amountFields : (Document.ofJson amountFields).Legible := by
  refine .obj ?_
  simp only [Document.fieldsOfJson, Document.ofJson, List.forall_mem_cons]
  exact ⟨.int (by decide), .null, List.forall_mem_nil _⟩

/-- A draft whose custom fields are not null comes back as it was. -/
theorem drafted_amount_read_back :
    ((draftedReview amountFields).Storable ∧ (draftedReview amountFields).toDocument.Legible ∧
      (draftedReview amountFields).toDocument.depth ≤ Document.nestingLimit) ∧
      parse? (draftedReview amountFields).toDocument.compact =
        some (draftedReview amountFields) := by
  have hstorable := storable_draftedReview canonical_amountFields
  have hlegible := legible_draftedReview legible_amountFields
  have hdepth : (draftedReview amountFields).toDocument.depth ≤ Document.nestingLimit := by decide
  have hkept := (parse?_compact_eq_iff (draftedReview amountFields) hstorable hlegible hdepth).2
  refine ⟨⟨hstorable, hlegible, hdepth⟩, hkept.2 fun n hn => ?_⟩
  obtain rfl := List.mem_singleton.1 hn
  constructor
  · show some amountFields ≠ some .null
    simp [amountFields]
  · show none ≠ some Json.null
    simp

/-- **A null among the custom fields is lost.** A draft whose custom fields were
set to null is written with the null and read back without custom fields. -/
theorem drafted_null_is_lost :
    ((draftedReview .null).Storable ∧ (draftedReview .null).toDocument.Legible ∧
      (draftedReview .null).toDocument.depth ≤ Document.nestingLimit) ∧
      ∃ s, parse? (draftedReview .null).toDocument.compact = some s ∧ s ≠ draftedReview .null := by
  have hstorable := storable_draftedReview .null
  have hlegible : (draftedReview .null).toDocument.Legible := legible_draftedReview .null
  have hdepth : (draftedReview .null).toDocument.depth ≤ Document.nestingLimit := by decide
  refine ⟨⟨hstorable, hlegible, hdepth⟩, (draftedReview .null).withoutNulls,
    hstorable.readsAs.parse?_compact hlegible hdepth, fun heq => ?_⟩
  have hnode := withoutNulls_eq_iff.1 heq _ (List.mem_singleton.2 rfl)
  exact hnode.1 rfl

end Sketch

end WorkflowCanvas
