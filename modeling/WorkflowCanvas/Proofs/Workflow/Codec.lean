import WorkflowCanvas.Proofs.Canvas.Codec
import WorkflowCanvas.Workflow.Codec
/-!
# Workflows are read back

The fields of an element's kind stand between the element's own fields, and
the reader tells them apart by their names alone. The two sets of names are
disjoint, so what the reader passes on as the fields of the kind is exactly
what was written for the kind (`others_eq`), for every kind and whatever else
the element holds. A workflow is then read back part by part
(`Storable.readsAs`).
-/


namespace WorkflowCanvas

namespace Workflow

open Document (ReadsAs Reorders Written asString? asList?)

/-! ## Implementations -/

theorem ImplementationKind.readsAs (k : ImplementationKind) :
    ReadsAs (Document.asName? ImplementationKind.ofLabel?) (.str k.label) k where
  wellFormed := .str _
  reads := by
    intro d' hre
    cases hre
    cases k <;> rfl

theorem Implementation.readsAs (i : Implementation) :
    ReadsAs Implementation.ofDocument? i.toDocument i := by
  have hkind := i.kind.readsAs
  have href := ReadsAs.str i.reference
  refine ⟨Written.obj (.cons hkind.wellFormed (.cons href.wellFormed .nil)) (by decide), ?_⟩
  intro d' hre
  obtain ⟨r, hr, hholds⟩ := Record.exists_holds hre ["kind", "reference"]
  have hreadKind := hholds.required "kind" hkind rfl (by simp)
  have hreadRef := hholds.required "reference" href rfl (by simp)
  rw [Implementation.ofDocument?, hr]
  simp [hreadKind, hreadRef]

/-! ## Kinds -/

namespace ElementKind

variable {kind : ElementKind}

/-- The priority of a user task is a signed 64-bit word. -/
def Fits : ElementKind → Prop
  | .userTask _ _ priority? =>
    ∀ n, priority? = some n → -Json.signedLimit ≤ n ∧ n < Json.signedLimit
  | _ => True

/-- The names that fields of kinds have. -/
def fieldNames : List String :=
  ["type", "implementation", "asynchronous", "exclusive", "assignee", "candidateGroups",
   "priority", "format", "script"]

/-- The implementation of a service task, null where there is none. -/
theorem readsAs_implementation (implementation? : Option Implementation) :
    ReadsAs (Document.asOption? Implementation.ofDocument?)
      ((implementation?.map Implementation.toDocument).getD .null) implementation? :=
  ReadsAs.option fun i _ => ⟨i.readsAs, nofun⟩

/-- The priority of a user task, null where there is none. -/
theorem readsAs_priority {priority? : Option Int}
    (h : ∀ n, priority? = some n → -Json.signedLimit ≤ n ∧ n < Json.signedLimit) :
    ReadsAs (Document.asOption? Document.asSigned?) ((priority?.map Document.int).getD .null)
      priority? :=
  ReadsAs.option fun n hn => ⟨ReadsAs.signed (h n hn), nofun⟩

/-- A list of texts. -/
theorem readsAs_texts (texts : List String) :
    ReadsAs (asList? asString?) (Document.list .str texts) texts :=
  ReadsAs.list fun s _ => ReadsAs.str s

theorem written_toFields (h : kind.Fits) : Written fieldNames kind.toFields := by
  have htype : (Document.str kind.tag).WellFormed := .str _
  cases kind with
  | serviceTask implementation? asynchronous exclusive =>
    exact (Written.cons htype (.cons (readsAs_implementation _).wellFormed
      (.cons (.bool _) (.cons (.bool _) .nil)))).sublist (by decide)
  | userTask assignee? candidateGroups priority? =>
    exact (Written.cons htype (.cons (ReadsAs.text? _).wellFormed
      (.cons (readsAs_texts _).wellFormed
        (.cons (readsAs_priority h).wellFormed .nil)))).sublist (by decide)
  | scriptTask format? script? =>
    exact (Written.cons htype (.cons (ReadsAs.text? _).wellFormed
      (.cons (ReadsAs.text? _).wellFormed .nil))).sublist (by decide)
  | startEvent => exact (Written.cons htype .nil).sublist (by decide)
  | endEvent => exact (Written.cons htype .nil).sublist (by decide)
  | parallelGateway => exact (Written.cons htype .nil).sublist (by decide)
  | exclusiveGateway => exact (Written.cons htype .nil).sublist (by decide)

theorem wellFormed_toFields (h : kind.Fits) : (Document.obj kind.toFields).WellFormed :=
  (written_toFields h).obj (by decide)

/-- The name of a kind stands under `type`. -/
theorem lookup_type (kind : ElementKind) :
    kind.toFields.lookup "type" = some (.str kind.tag) := by
  cases kind <;> rfl

/-- **A kind is read back from its fields**, in whatever order they come. -/
theorem ofFields?_eq (h : kind.Fits) {d' : Document} (hre : Reorders (.obj kind.toFields) d') :
    ofFields? kind.tag d' = some kind := by
  cases kind with
  | serviceTask implementation? asynchronous exclusive =>
    obtain ⟨r, hr, hholds⟩ :=
      Record.exists_holds hre ["implementation", "asynchronous", "exclusive"]
    have himplementation :=
      hholds.optional "implementation" (readsAs_implementation _) rfl (by simp)
    have hasynchronous := hholds.required "asynchronous" (ReadsAs.bool _) rfl (by simp)
    have hexclusive := hholds.required "exclusive" (ReadsAs.bool _) rfl (by simp)
    simp [ofFields?, tag, hr, himplementation, hasynchronous, hexclusive]
  | userTask assignee? candidateGroups priority? =>
    obtain ⟨r, hr, hholds⟩ := Record.exists_holds hre ["assignee", "candidateGroups", "priority"]
    have hassignee := hholds.optional "assignee" (ReadsAs.text? _) rfl (by simp)
    have hgroups := hholds.required "candidateGroups" (readsAs_texts _) rfl (by simp)
    have hpriority := hholds.optional "priority" (readsAs_priority h) rfl (by simp)
    simp [ofFields?, tag, hr, hassignee, hgroups, hpriority]
  | scriptTask format? script? =>
    obtain ⟨r, hr, hholds⟩ := Record.exists_holds hre ["format", "script"]
    have hformat := hholds.optional "format" (ReadsAs.text? _) rfl (by simp)
    have hscript := hholds.optional "script" (ReadsAs.text? _) rfl (by simp)
    simp [ofFields?, tag, hr, hformat, hscript]
  | startEvent => rfl
  | endEvent => rfl
  | parallelGateway => rfl
  | exclusiveGateway => rfl

theorem readsAs_tag (kind : ElementKind) :
    ReadsAs tagOfDocument? (.str kind.tag) kind.tag where
  wellFormed := .str _
  reads := by
    intro d' hre
    cases hre
    rfl

end ElementKind

/-! ## Elements -/

namespace Element

variable {e : Element}

/-- **An element can be stored**: its bounds are finite and its priority is a
signed 64-bit word. -/
structure Storable (e : Element) : Prop where
  kind : e.kind.Fits
  bounds : ∀ r, e.bounds? = some r → r.IsFinite

/-- **What is left beside the own fields are the fields of the kind.** -/
theorem others_eq (e : Element) {fields : List (String × Document)}
    (h : e.toDocument = .obj fields) :
    (fields.filter fun f => !ownFields.contains f.1) = e.kind.toFields := by
  obtain ⟨id, name?, kind, documentation?, extensions, bounds?⟩ := e
  obtain rfl := Document.obj.inj h
  cases kind <;> rfl

/-- What stands behind the fields of the kind. -/
theorem lookup_of_toDocument (e : Element) {fields : List (String × Document)}
    (h : e.toDocument = .obj fields) :
    fields.lookup "documentation" = some (Document.text? e.documentation?) ∧
    fields.lookup "extensions" =
      some (Document.list (fun entry => .arr [.str entry.1, .str entry.2]) e.extensions.entries) ∧
    fields.lookup "bounds" = some ((e.bounds?.map Rect.toDocument).getD .null) := by
  obtain ⟨id, name?, kind, documentation?, extensions, bounds?⟩ := e
  obtain rfl := Document.obj.inj h
  cases kind <;> exact ⟨rfl, rfl, rfl⟩

theorem readsAs_extensions (x : Extensions) :
    ReadsAs extensionsOfDocument?
      (Document.list (fun entry => .arr [.str entry.1, .str entry.2]) x.entries) x := by
  have hentries : ReadsAs (asList? (Document.asPair? asString? asString?))
      (Document.list (fun entry => .arr [.str entry.1, .str entry.2]) x.entries) x.entries :=
    ReadsAs.list fun entry _ => ReadsAs.pair (ReadsAs.str entry.1) (ReadsAs.str entry.2)
  refine ⟨hentries.wellFormed, fun d' hre => ?_⟩
  rw [extensionsOfDocument?, hentries.reads d' hre]
  rfl

theorem readsAs_bounds (h : e.Storable) :
    ReadsAs (Document.asOption? Rect.ofDocument?) ((e.bounds?.map Rect.toDocument).getD .null)
      e.bounds? :=
  ReadsAs.option fun r hr => ⟨(h.bounds r hr).readsAs, nofun⟩

/-- The document of an element is well formed. -/
theorem Storable.wellFormed (h : e.Storable) : e.toDocument.WellFormed := by
  have hhead : Written ["id", "name"] [("id", .str e.id), ("name", Document.text? e.name?)] :=
    .cons (.str _) (.cons (ReadsAs.text? _).wellFormed .nil)
  have htail : Written ["documentation", "extensions", "bounds"] _ :=
    .cons (ReadsAs.text? e.documentation?).wellFormed
      (.cons (readsAs_extensions e.extensions).wellFormed
        (.cons (readsAs_bounds h).wellFormed .nil))
  exact ((hhead.append (ElementKind.written_toFields h.kind)).append htail).obj (by decide)

/-- **An element is read back.** -/
theorem Storable.readsAs (h : e.Storable) : ReadsAs ofDocument? e.toDocument e := by
  refine ⟨h.wellFormed, fun d' hre => ?_⟩
  obtain ⟨fields, hfields⟩ : ∃ fields, e.toDocument = .obj fields := ⟨_, rfl⟩
  obtain ⟨hdocumentation, hextensions, hbounds⟩ := lookup_of_toDocument e hfields
  have hother := others_eq e hfields
  rw [hfields] at hre
  obtain ⟨r, hr, hholds⟩ := Record.exists_holds hre ownFields
  obtain ⟨fields', rfl⟩ : ∃ fields', d' = .obj fields' := by
    cases hre
    exact ⟨_, rfl⟩
  -- the own fields
  have hreadId := hholds.required "id" (ReadsAs.str e.id) (by cases hfields; rfl) (by decide)
  have hreadName := hholds.optional "name" (ReadsAs.text? e.name?) (by cases hfields; rfl) (by decide)
  have hreadDocumentation := hholds.optionalDefault "documentation" (ReadsAs.text? e.documentation?)
    hdocumentation (by decide)
  have hreadExtensions := hholds.default "extensions" {} (readsAs_extensions e.extensions)
    hextensions (by decide)
  have hreadBounds := hholds.optionalDefault "bounds" (readsAs_bounds h) hbounds (by decide)
  -- the others are the fields of the kind
  have hothers := hre.filter fun name => !ownFields.contains name
  rw [hother] at hothers
  have hkind := ElementKind.ofFields?_eq h.kind hothers
  obtain ⟨tagged, htagged, hholdsTag⟩ := Record.exists_holds hothers ["type"]
  have htag := hholdsTag.required "type" e.kind.readsAs_tag e.kind.lookup_type (by simp)
  obtain ⟨values, hvalues⟩ :=
    ((ElementKind.wellFormed_toFields h.kind).of_reorders hothers).exists_fieldsToJson?
  simp only [ofDocument?, hr, hvalues, hreadId, hreadName, hreadDocumentation, hreadExtensions,
    hreadBounds, htagged, htag, hkind, Option.bind_eq_bind, Option.bind_some, Option.pure_def]

end Element

/-! ## Flows and workflows -/

/-- **A flow is read back.** -/
theorem Flow.readsAs (f : Flow) : ReadsAs Flow.ofDocument? f.toDocument f := by
  have hid := ReadsAs.str f.id
  have hsource := ReadsAs.str f.source
  have htarget := ReadsAs.str f.target
  have hname := ReadsAs.text? f.name?
  have hcondition := ReadsAs.text? f.condition?
  refine ⟨Written.obj (.cons hid.wellFormed (.cons hsource.wellFormed (.cons htarget.wellFormed
    (.cons hname.wellFormed (.cons hcondition.wellFormed .nil))))) (by decide), ?_⟩
  intro d' hre
  obtain ⟨r, hr, hholds⟩ :=
    Record.exists_holds hre ["id", "source", "target", "name", "condition"]
  have hreadId := hholds.required "id" hid rfl (by simp)
  have hreadSource := hholds.required "source" hsource rfl (by simp)
  have hreadTarget := hholds.required "target" htarget rfl (by simp)
  have hreadName := hholds.optional "name" hname rfl (by simp)
  have hreadCondition := hholds.optional "condition" hcondition rfl (by simp)
  rw [Flow.ofDocument?, hr]
  simp [hreadId, hreadSource, hreadTarget, hreadName, hreadCondition]

variable {p : Workflow}

/-- **A workflow can be stored**: all its elements can. -/
def Storable (p : Workflow) : Prop := ∀ e ∈ p.elements, e.Storable

/-- **A workflow is read back**, in whatever order its fields come. -/
theorem Storable.readsAs (h : p.Storable) : ReadsAs ofDocument? p.toDocument p := by
  have hid := ReadsAs.str p.id
  have hname := ReadsAs.text? p.name?
  have hnamespace := ReadsAs.text? p.namespaceUri?
  have helements : ReadsAs (asList? Element.ofDocument?)
      (Document.list Element.toDocument p.elements) p.elements :=
    ReadsAs.list fun e he => (h e he).readsAs
  have hflows : ReadsAs (asList? Flow.ofDocument?) (Document.list Flow.toDocument p.flows) p.flows :=
    ReadsAs.list fun f _ => f.readsAs
  refine ⟨Written.obj (.cons hid.wellFormed (.cons hname.wellFormed (.cons hnamespace.wellFormed
    (.cons helements.wellFormed (.cons hflows.wellFormed .nil))))) (by decide), ?_⟩
  intro d' hre
  obtain ⟨r, hr, hholds⟩ :=
    Record.exists_holds hre ["id", "name", "namespace", "elements", "flows"]
  have hreadId := hholds.required "id" hid rfl (by simp)
  have hreadName := hholds.optional "name" hname rfl (by simp)
  have hreadNamespace := hholds.optional "namespace" hnamespace rfl (by simp)
  have hreadElements := hholds.required "elements" helements rfl (by simp)
  have hreadFlows := hholds.required "flows" hflows rfl (by simp)
  rw [ofDocument?, hr]
  simp [hreadId, hreadName, hreadNamespace, hreadElements, hreadFlows]

/-! ## Stored models -/

/-- **Stored models come back as they were.** A canvas and a workflow are read
from their documents, and from the values of their documents, as
themselves: with shapes nested to any depth, with any properties, kinds and
metadata, and with whatever is absent or empty. Coordinates must be finite,
free-form objects sorted, and priorities signed 64-bit words. -/
theorem stored_models_come_back (c : Canvas) (p : Workflow) (hc : c.Storable) (hp : p.Storable) :
    (Canvas.ofDocument? c.toDocument = some c ∧
      ∃ j, c.toDocument.toJson? = some j ∧ Canvas.ofDocument? (.ofJson j) = some c) ∧
    (ofDocument? p.toDocument = some p ∧
      ∃ j, p.toDocument.toJson? = some j ∧ ofDocument? (.ofJson j) = some p) :=
  ⟨⟨hc.readsAs.self, hc.readsAs.exists_toJson?⟩, ⟨hp.readsAs.self, hp.readsAs.exists_toJson?⟩⟩

/-- A canvas with a docked flow inside a task that has no target. -/
def dockedCanvas : Canvas :=
  let bounds : Rect := ⟨⟨0, 0⟩, ⟨100, 60⟩⟩
  { resourceId := "canvas", properties := [], stencil := "BPMNDiagram", bounds
    childShapes := [
      { resourceId := "check", properties := [("name", .str "Check")], stencil := "ServiceTask"
        bounds
        childShapes := [
          { resourceId := "flow", properties := [], stencil := "SequenceFlow", bounds
            incoming := ["check"], dockers := [⟨50, 30⟩], target? := some "check" }] }] }

/-- A workflow with metadata under one key twice, and without a name. -/
def repeatedMetadata : Workflow :=
  { id := "review"
    elements := [
      { id := "check", kind := .userTask none ["clerks"] (some 5)
        extensions := ⟨[("note", "a"), ("note", "b")]⟩ }] }

/-- A canvas of nested shapes and a workflow of repeated metadata come back. -/
theorem docked_and_repeated_come_back :
    (dockedCanvas.Storable ∧ repeatedMetadata.Storable) ∧
      Canvas.ofDocument? dockedCanvas.toDocument = some dockedCanvas ∧
      ofDocument? repeatedMetadata.toDocument = some repeatedMetadata := by
  have hbounds : Rect.IsFinite ⟨⟨0, 0⟩, ⟨100, 60⟩⟩ :=
    ⟨⟨by decide +kernel, by decide +kernel⟩, ⟨by decide +kernel, by decide +kernel⟩⟩
  have hempty : Json.Canonical (.obj []) := .obj List.Pairwise.nil nofun
  have hcanvas : dockedCanvas.Storable := by
    refine ⟨hempty, hbounds, List.forall_mem_singleton.2 (.mk ?_ hbounds nofun ?_)⟩
    · exact .obj (List.pairwise_singleton _ _) (List.forall_mem_singleton.2 (.str _))
    · refine List.forall_mem_singleton.2 (.mk hempty hbounds ?_ nofun)
      exact List.forall_mem_singleton.2 ⟨by decide +kernel, by decide +kernel⟩
  have hworkflow : repeatedMetadata.Storable := by
    refine List.forall_mem_singleton.2 ⟨?_, nofun⟩
    rintro n ⟨⟩
    decide
  have hback := stored_models_come_back dockedCanvas repeatedMetadata hcanvas hworkflow
  exact ⟨⟨hcanvas, hworkflow⟩, hback.1.1, hback.2.1⟩

end Workflow

end WorkflowCanvas
