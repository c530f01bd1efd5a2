import WorkflowCanvas.Proofs.Operation.Dispatch
import WorkflowCanvas.Proofs.Sketch.Review
import WorkflowCanvas.Proofs.Text
import WorkflowCanvas.Proofs.Workflow.Extensions
import WorkflowCanvas.Proofs.Workflow.Structure
/-!
# The operations of service steps

A review reads the operation of a step off two fields of its node. A service
task gets its operation from the properties of a shape: the nested custom
fields come first, then the property (`operationId?_enrich`); and the shape
is the last one with the id of the task (`exists_supplies`). So a review
without findings on operations says what will be dispatched only where the
layers above the two fields leave them alone and no other shape has the id
(`dispatches_find_operations_iff`). An override of one property suffices to
break this (`overridden_in_silence`).
-/


namespace WorkflowCanvas

namespace Workflow

open Canvas (Shape Uncovered)
open Operation (Library Context)
open Sketch (Node Finding)

variable {aliases : Table String} {properties : Table Json} {rename : String → String}
variable {fields : List (String × Json)} {x : Extensions} {e : Element}

/-! ## The operation among the metadata -/

/-- A value as the id of an operation. -/
def operationText? (v : Json) : Option String := (metadataText? v).bind Text.nonBlank?

/-- The operation that fields name: the last one under its key. -/
def operationAmong? (rename : String → String) (fields : List (String × Json)) : Option String :=
  (fields.filterMap fun field =>
    if rename field.1 = delegationIdKey then operationText? field.2 else none).getLast?

/-- **The operation that the properties of a shape name**: in the nested custom
fields, or else as a property. -/
def operationOf? (aliases : Table String) (properties : Table Json) : Option String :=
  (operationAmong? (Settings.aliasFor aliases)
      (((properties.get? "customFields").bind Json.fields?).getD [])).or
    ((properties.get? delegationIdKey).bind operationText?)

/-- The operation that extensions name. -/
def namedOperation? (x : Extensions) : Option String :=
  (x.get? delegationIdKey).bind Text.nonBlank?

theorem operationAmong?_cons (field : String × Json) :
    operationAmong? rename (field :: fields) = (operationAmong? rename fields).or
      (if rename field.1 = delegationIdKey then operationText? field.2 else none) :=
  getLast?_filterMap_cons _ _ _

/-- Fields without a text under the key name no operation. -/
theorem operationAmong?_eq_none
    (h : ∀ field ∈ fields, rename field.1 = delegationIdKey → operationText? field.2 = none) :
    operationAmong? rename fields = none := by
  rw [operationAmong?, List.getLast?_eq_none_iff, List.filterMap_eq_nil_iff]
  intro field hfield
  split
  · next hkey => exact h field hfield hkey
  · rfl

/-- What a value that is attached changes. -/
theorem namedOperation?_setSome (key : String) (v : Json) :
    namedOperation? (x.setSome key (metadataText? v)) =
      (if key = delegationIdKey then operationText? v else none).or (namedOperation? x) := by
  unfold namedOperation? operationText?
  rcases metadataText? v with _ | text
  · simp [Extensions.setSome]
  · show ((x.set key text).get? delegationIdKey).bind Text.nonBlank? = _
    rw [Extensions.get?_set]
    by_cases hkey : key = delegationIdKey
    · rcases htext : Text.nonBlank? text with _ | trimmed <;> simp [hkey, htext]
    · simp [hkey]

/-- **What fields that are attached change.** -/
theorem namedOperation?_attach (rename : String → String) (x : Extensions)
    (fields : List (String × Json)) :
    namedOperation? (attach rename x fields) =
      (operationAmong? rename fields).or (namedOperation? x) := by
  induction fields generalizing x with
  | nil => rfl
  | cons field rest ih =>
    rw [attach, List.foldl_cons]
    refine (ih _).trans ?_
    rw [namedOperation?_setSome, operationAmong?_cons, Option.or_assoc]

/-- Of the reserved properties one names an operation. -/
theorem operationAmong?_metadataKeys (properties : Table Json) :
    operationAmong? (fun key => key) (fieldsAt properties metadataKeys) =
      (properties.get? delegationIdKey).bind operationText? := by
  have hkey : ∀ key, ((properties.get? key).map fun v => (key, v)).bind (fun field =>
      if field.1 = delegationIdKey then operationText? field.2 else none) =
        if key = delegationIdKey then (properties.get? key).bind operationText? else none := by
    intro key
    rcases properties.get? key with _ | v <;> by_cases h : key = delegationIdKey <;> simp [h]
  have hkeys : metadataKeys =
      delegationIdKey :: ["delegationType", "selectedFields", "requiredFields"] := rfl
  rw [operationAmong?, fieldsAt, List.filterMap_filterMap, hkeys]
  simp only [hkey, List.filterMap_cons, if_true]
  rcases (properties.get? delegationIdKey).bind operationText? with _ | text <;>
    simp [delegationIdKey]

/-- **An element gets the operation that its properties name**, if it has none
of its own. -/
theorem operationId?_enrich (he : e.extensions = {}) :
    (enrich aliases properties e).operationId? = operationOf? aliases properties := by
  have hfree : operationAmong? (fun key => key)
      (properties.filter fun field => isFreeForm field.1) = none := by
    refine operationAmong?_eq_none fun field hfield hkey => ?_
    have hform := (List.mem_filter.1 hfield).2
    rw [hkey] at hform
    exact absurd hform (by decide)
  have hnone : namedOperation? e.extensions = none := by
    rw [he]
    rfl
  show namedOperation? (enrich aliases properties e).extensions = _
  rw [enrich, namedOperation?_attach, namedOperation?_attach, namedOperation?_attach, hfree,
    operationAmong?_metadataKeys, hnone, Option.none_or, Option.or_none, operationOf?]

/-- **A deployed element has the operation that the properties of its shape
name.** -/
theorem operationId?_finish {shapes : List Shape} (he : e.extensions = {})
    (hproperties : propertiesOf? shapes e.id = some properties) :
    (finish aliases shapes e).operationId? = operationOf? aliases properties := by
  have hrouted : ∀ e : Element, (routed e).operationId? = e.operationId? := by
    intro e
    unfold routed
    split <;> rfl
  rw [finish, hproperties, hrouted, operationId?_enrich he]

/-! ## The shape that an element has its properties from -/

section Suppliers

variable {settings : Settings} {s : Sketch} {p : Workflow} {j k : Nat} {l m n : Node}

/-- The shape of the node is no connection. -/
def IsNodeShaped (settings : Settings) (n : Node) : Prop :=
  (settings.mappingFor n.typeTag?).stencil ≠ Canvas.flowStencil

/-- **The properties of an element come from the node**: it is the last accepted
one whose shape has the id of the element. -/
def Supplies (settings : Settings) (s : Sketch) (n m : Node) : Prop :=
  ∃ k, s.Accepts k m ∧ IsNodeShaped settings m ∧ nodeId settings s m = nodeId settings s n ∧
    ∀ j l, s.Accepts j l → IsNodeShaped settings l → nodeId settings s l = nodeId settings s n →
      j ≤ k

theorem Supplies.eq (hl : Supplies settings s n l) (hm : Supplies settings s n m) : l = m := by
  obtain ⟨j, hj, hjshaped, hjid, hjlast⟩ := hl
  obtain ⟨k, hk, hkshaped, hkid, hklast⟩ := hm
  obtain rfl := Nat.le_antisymm (hklast j l hj hjshaped hjid) (hjlast k m hk hkshaped hkid)
  exact Option.some.inj (hj.getElem?.symm.trans hk.getElem?)

/-- A node with an element has the shape of a node. -/
theorem isNodeShaped_of_isSome (h : (kindOf? settings n).isSome = true) :
    IsNodeShaped settings n := by
  intro hflow
  rw [kindOf?, hflow] at h
  exact absurd h (by decide)

/-- The shapes that are no connections, in the order of the sketch. -/
theorem lists_nodeShapes (settings : Settings) (s : Sketch) :
    Lists (fun k n => s.Accepts k n ∧ IsNodeShaped settings n)
      (fun n sh => sh = Canvas.shapeOfNode settings s n)
      (Canvas.ofSketch settings s).nodeShapes := by
  have hedges : (Canvas.shapesOfEdges settings s).filter (fun sh => !sh.isFlow) = [] := by
    refine List.filter_eq_nil_iff.2 fun sh hsh => ?_
    obtain ⟨l, -, rfl⟩ := List.mem_map.1 hsh
    exact Bool.false_ne_true
  rw [Canvas.nodeShapes, Canvas.childShapes_ofSketch, List.filter_append, hedges, List.append_nil]
  refine (Canvas.lists_shapesOfNodes settings s).filter ?_
  rintro k n sh - rfl
  rw [Bool.not_eq_true', Shape.isFlow, beq_eq_false_iff_ne]
  exact Iff.rfl

/-- **An element has the properties of the last shape with its id.** -/
theorem exists_supplies (hn : s.Accepts k n) (hshaped : IsNodeShaped settings n) :
    ∃ m, Supplies settings s n m ∧
      propertiesOf? (Canvas.ofSketch settings s).nodeShapes (nodeId settings s n) =
        some (Canvas.nodeProperties settings (Canvas.degree s m.id) m) := by
  have hlists := (lists_nodeShapes settings s).filter
    (Q := fun m => nodeId settings s m = nodeId settings s n)
    (p := fun sh => sh.elementId == nodeId settings s n) (by
      rintro k m sh - rfl
      exact beq_iff_eq)
  obtain ⟨sh, hsh, -⟩ := hlists.exists_mem ⟨⟨hn, hshaped⟩, rfl⟩
  obtain ⟨sh', hlast⟩ :=
    Option.isSome_iff_exists.1 (List.getLast?_isSome.2 (List.ne_nil_of_mem hsh))
  obtain ⟨j, m, ⟨⟨hm, hmshaped⟩, hid⟩, rfl, hmax⟩ := hlists.exists_of_getLast? hlast
  refine ⟨m, ⟨j, hm, hmshaped, hid, fun i l hl hlshaped hlid => hmax i l ⟨⟨hl, hlshaped⟩, hlid⟩⟩,
    ?_⟩
  rw [propertiesOf?, hlast]
  rfl

/-- The operation that the layers of the properties of a node come to. -/
def layeredOperation? (settings : Settings) (s : Sketch) (m : Node) : Option String :=
  operationOf? settings.fieldAliases (Canvas.nodeProperties settings (Canvas.degree s m.id) m)

/-- **An element has the operation of the node that supplies it.** -/
theorem lists_operations (h : convert settings (Canvas.ofSketch settings s) = .ok p) :
    Lists (fun k n => s.Accepts k n ∧ (kindOf? settings n).isSome = true)
      (fun n e => IsElementOf settings s n e ∧
        ∃ m, Supplies settings s n m ∧ e.operationId? = layeredOperation? settings s m)
      p.elements := by
  rw [elements_of_convert h]
  refine (lists_elementOf? settings s).map fun k n e ⟨hn, hkind⟩ he =>
    ⟨isElementOf_finish he _ _, ?_⟩
  obtain ⟨m, hm, hproperties⟩ := exists_supplies hn (isNodeShaped_of_isSome hkind)
  have hraw : e.id = nodeId settings s n ∧ e.extensions = {} := by
    obtain ⟨kind, -, rfl⟩ := Option.map_eq_some_iff.1 he
    exact ⟨rfl, rfl⟩
  rw [← hraw.1] at hproperties
  exact ⟨m, hm, operationId?_finish hraw.2 hproperties⟩

/-! ## Layers that leave the operation alone -/

/-- A text as metadata is the trimmed text. -/
theorem metadataText?_str (text : String) : metadataText? (.str text) = Text.nonBlank? text := by
  rw [metadataText?, Text.nonBlank?]

theorem operationText?_str (text : String) : operationText? (.str text) = Text.nonBlank? text := by
  rw [operationText?, metadataText?_str]
  rcases htext : Text.nonBlank? text with _ | trimmed
  · rfl
  · rw [Option.bind_some, Text.nonBlank?_of_nonBlank? htext]

/-- **Nothing disturbs the operation that a node names**: the layers above
leave it alone, and no other shape has the id of its element. -/
structure Undisturbed (settings : Settings) (s : Sketch) (n : Node) : Prop where
  /-- The parameters have their keys apart. -/
  sorted : n.data.parameters.Sorted
  operation : Uncovered settings n delegationIdKey
  nested : Uncovered settings n "customFields"
  /-- The nested custom fields among the defaults name no operation. -/
  defaults : ∀ fields,
    (settings.mappingFor n.typeTag?).properties.get? "customFields" = some (.obj fields) →
      ∀ field ∈ fields, Settings.aliasFor settings.fieldAliases field.1 = delegationIdKey →
        operationText? field.2 = none
  alone : ∀ k m, s.Accepts k m → IsNodeShaped settings m →
    nodeId settings s m = nodeId settings s n → m = n

/-- A node with an id of its own supplies its own element. -/
theorem Undisturbed.supplies (h : Undisturbed settings s n) (hn : s.Accepts k n)
    (hshaped : IsNodeShaped settings n) : Supplies settings s n n := by
  refine ⟨k, hn, hshaped, rfl, fun j l hl hlshaped hid => ?_⟩
  obtain rfl := h.alone j l hl hlshaped hid
  exact Nat.le_of_eq (hl.eq hn rfl).1

/-- No nested custom field names an operation, as parameters are texts. -/
theorem Undisturbed.operationAmong?_nested (h : Undisturbed settings s n) (degree : Canvas.Degree) :
    operationAmong? (Settings.aliasFor settings.fieldAliases)
      ((((Canvas.nodeProperties settings degree n).get? "customFields").bind Json.fields?).getD []) =
        none := by
  rw [h.nested.get?_nodeProperties (by decide), Canvas.lowerProperties,
    Canvas.get?_insertTrimmed (by decide), Canvas.get?_insertTexts_id h.sorted,
    Canvas.get?_insertTrimmed (by decide)]
  rcases (n.data.parameters.get? "customFields").bind Canvas.propertyText? with _ | text
  · rw [Option.map_none, Option.none_or]
    rcases hdefault : (settings.mappingFor n.typeTag?).properties.get? "customFields" with _ | v
    · rfl
    · rw [Option.bind_some]
      cases v with
      | obj fields =>
        rw [Json.fields?, Option.getD_some]
        exact operationAmong?_eq_none (h.defaults fields hdefault)
      | _ => rfl
  · rfl

/-- **The layers come to the operation that the node names**, if nothing
disturbs it. -/
theorem Undisturbed.layeredOperation?_eq (h : Undisturbed settings s n) {operation : String}
    (hop : n.operationId? = some operation) : layeredOperation? settings s n = some operation := by
  have hown : (Canvas.nodeProperties settings (Canvas.degree s n.id) n).get? delegationIdKey =
      ((n.data.delegationId?.bind Text.nonBlank?).map Json.str).or
        ((((n.data.parameters.get? delegationIdKey).bind Canvas.propertyText?).map Json.str).or
          ((settings.mappingFor n.typeTag?).properties.get? delegationIdKey)) := by
    rw [h.operation.get?_nodeProperties (by decide), Canvas.lowerProperties, Canvas.insertTrimmed,
      Table.get?_insertSome, if_pos (show delegationIdKey = "delegationId" from rfl), Canvas.get?_insertTexts_id h.sorted,
      Canvas.get?_insertTrimmed (by decide)]
  rw [layeredOperation?, operationOf?, h.operationAmong?_nested, Option.none_or, hown]
  unfold Node.operationId? at hop
  rcases hdelegation : n.data.delegationId? with _ | text
  · -- the parameters name it
    rw [hdelegation, Option.none_or] at hop
    obtain ⟨text, hparameter, htext⟩ := Option.bind_eq_some_iff.1 hop
    obtain ⟨v, hv, hstr⟩ := Option.bind_eq_some_iff.1 hparameter
    cases v with
    | str text' =>
      cases hstr
      have hget : n.data.parameters.get? delegationIdKey = some (.str text) := hv
      rw [hget, Option.bind_some, Option.bind_none, Option.map_none, Option.none_or,
        Canvas.propertyText?, Option.map_some, Option.some_or, Option.bind_some,
        operationText?_str, htext]
    | _ => cases hstr
  · rw [hdelegation, Option.some_or, Option.bind_some] at hop
    rw [Option.bind_some, hop, Option.map_some, Option.some_or, Option.bind_some,
      operationText?_str, Text.nonBlank?_of_nonBlank? hop]

/-! ## What a review says of dispatches -/

/-- **The operation of an element is found**: it is registered, and no dispatch
of the element misses it. -/
structure HasOperation (library : Library) (e : Element) : Prop where
  registered : ∃ operation, e.operationId? = some operation ∧
    library.registry.contains operation = true
  dispatched : ∀ c f, c.step = e → (library.dispatch c).1 = .error f → f.isUnfound = false

theorem hasOperation_iff {library : Library} : HasOperation library e ↔
    ∃ operation, e.operationId? = some operation ∧ library.registry.contains operation = true :=
  ⟨fun h => h.registered, fun h => ⟨h, (library.finds_iff e).2 h⟩⟩

/-- The element of the node is a service task. -/
def IsDispatched (settings : Settings) (n : Node) : Prop :=
  (settings.mappingFor n.typeTag?).stencil = Sketch.dispatchedStencil

instance (settings : Settings) (n : Node) : Decidable (IsDispatched settings n) :=
  inferInstanceAs (Decidable (_ = _))

theorem isDispatched_iff : IsDispatched settings n ↔ kindOf? settings n = some "serviceTask" :=
  (kindOf?_eq_some_iff (by decide)).symm

/-- **The operations of all service tasks are found** exactly if the layers of
the nodes that supply them come to registered ones. -/
theorem forall_hasOperation_iff {library : Library}
    (h : convert settings (Canvas.ofSketch settings s) = .ok p) :
    (∀ e ∈ p.elements, e.kind.tag = "serviceTask" → HasOperation library e) ↔
      ∀ k n, s.Accepts k n → IsDispatched settings n → ∃ m operation, Supplies settings s n m ∧
        layeredOperation? settings s m = some operation ∧
        library.registry.contains operation = true := by
  constructor
  · intro hall k n hn hdispatched
    have hkind := isDispatched_iff.1 hdispatched
    obtain ⟨e, he, hof, m, hm, hop⟩ := (lists_operations h).exists_mem ⟨hn, by rw [hkind]; rfl⟩
    have htag : e.kind.tag = "serviceTask" := Option.some.inj (hof.kind.symm.trans hkind)
    obtain ⟨operation, hsome, hcontains⟩ := (hall e he htag).registered
    exact ⟨m, operation, hm, hop.symm.trans hsome, hcontains⟩
  · intro hall e he htag
    obtain ⟨k, n, ⟨hn, -⟩, hof, m, hm, hop⟩ := (lists_operations h).exists_of_mem he
    obtain ⟨m', operation, hm', hsome, hcontains⟩ :=
      hall k n hn (isDispatched_iff.2 (hof.kind.trans (congrArg some htag)))
    obtain rfl := hm.eq hm'
    exact hasOperation_iff.2 ⟨operation, hop.trans hsome, hcontains⟩

/-- **What a review without findings on operations says of dispatches.** Such a
review says that every node to be dispatched names an operation, and that
all that are named are registered. The operations of the service tasks are
those that the layers of properties come to, at the last shape with the id
of the task. They are all found where nothing disturbs the operations that
the nodes name. -/
theorem dispatches_find_operations_iff (settings : Settings) (library : Library) (s : Sketch)
    (p : Workflow) (h : convert settings (Canvas.ofSketch settings s) = .ok p) :
    ((∀ f ∈ s.review settings (some library.registry), f.isOnOperation = false) ↔
      ∀ n ∈ s.nodes, (n.operationId? = none → ¬ IsDispatched settings n) ∧
        ∀ operation, n.operationId? = some operation →
          library.registry.contains operation = true) ∧
    ((∀ e ∈ p.elements, e.kind.tag = "serviceTask" → HasOperation library e) ↔
      ∀ k n, s.Accepts k n → IsDispatched settings n → ∃ m operation, Supplies settings s n m ∧
        layeredOperation? settings s m = some operation ∧
        library.registry.contains operation = true) ∧
    ((∀ f ∈ s.review settings (some library.registry), f.isOnOperation = false) →
      (∀ k n, s.Accepts k n → IsDispatched settings n → Undisturbed settings s n) →
        ∀ e ∈ p.elements, e.kind.tag = "serviceTask" → HasOperation library e) := by
  refine ⟨Sketch.forall_isOnOperation_eq_false_iff, forall_hasOperation_iff h,
    fun hclean hundisturbed => (forall_hasOperation_iff h).2 fun k n hn hdispatched => ?_⟩
  have hmem := List.mem_of_getElem? hn.getElem?
  obtain ⟨hnamed, hregistered⟩ := Sketch.forall_isOnOperation_eq_false_iff.1 hclean n hmem
  have hfree := hundisturbed k n hn hdispatched
  have hshaped : IsNodeShaped settings n :=
    isNodeShaped_of_isSome (by rw [isDispatched_iff.1 hdispatched]; rfl)
  rcases hop : n.operationId? with _ | operation
  · exact absurd hdispatched (hnamed hop)
  · exact ⟨n, operation, hfree.supplies hn hshaped, hfree.layeredOperation?_eq hop,
      hregistered operation hop⟩

end Suppliers

/-- The step of a check, with its operation. -/
def checkNode : Node where
  id := "check"
  outerTag? := "service"
  data := { delegationId? := "Known" }

/-- A sketch with that step. -/
def checkSketch : Sketch where
  nodes := [{ id := "s", outerTag? := "start" }, checkNode, { id := "g", outerTag? := "end" }]
  edges := [{ id := "a", source := "s", target := "check" },
    { id := "b", source := "check", target := "g" }]

/-- A library that knows the operation of the check. -/
def checkLibrary : Library where
  registry := Registry.registerAll {}
    [{ id := "Known", description := "", category := "Test", kind := .service }]

/-- The standard settings with an operation forced on the check. -/
def checkSettings : Settings :=
  { Settings.standard with
    nodeOverrides := [("check", [("delegationId", .str "Unknown")])] }

/-- The kinds and operations of the elements, if there is a workflow. -/
def operationsOf (x : Except Failure Workflow) : List (String × Option String) :=
  match x with
  | .ok p => p.elements.map fun e => (e.kind.tag, e.operationId?)
  | .error _ => []

/-- What is read off is that of a workflow, if it is anything. -/
theorem exists_of_operationsOf {x : Except Failure Workflow} {entry : String × Option String}
    (h : entry ∈ operationsOf x) :
    ∃ p, x = .ok p ∧ ∃ e ∈ p.elements, e.kind.tag = entry.1 ∧ e.operationId? = entry.2 := by
  cases x with
  | error f => exact absurd h List.not_mem_nil
  | ok p =>
    obtain ⟨e, he, rfl⟩ := List.mem_map.1 h
    exact ⟨p, rfl, e, he, rfl, rfl⟩

/-- Under the standard settings nothing disturbs the check. -/
theorem undisturbed_checkNode : Undisturbed .standard checkSketch checkNode where
  sorted := List.Pairwise.nil
  operation := ⟨fun _ h => (nomatch h), fun _ h => (nomatch h)⟩
  nested := ⟨fun _ h => (nomatch h), fun _ h => (nomatch h)⟩
  defaults := by
    have hnone : ((Settings.standard.mappingFor checkNode.typeTag?).properties.get?
        "customFields").isNone = true := by decide +kernel
    intro fields hfields
    rw [hfields] at hnone
    cases hnone
  alone := by
    intro k m hm _ hid
    have hmem := List.mem_of_getElem? hm.getElem?
    simp only [checkSketch, List.mem_cons, List.not_mem_nil, or_false] at hmem
    rcases hmem with rfl | rfl | rfl
    · exact absurd hid (by decide +kernel)
    · rfl
    · exact absurd hid (by decide +kernel)

/-- The operation of the check is found. -/
theorem checked_operation_found :
    checkSketch.review .standard (some checkLibrary.registry) = [] ∧
      ∃ p, convert .standard (Canvas.ofSketch .standard checkSketch) = .ok p ∧
        ∃ e ∈ p.elements, e.kind.tag = "serviceTask" ∧ HasOperation checkLibrary e := by
  have hreview : checkSketch.review .standard (some checkLibrary.registry) = [] := by
    decide +kernel
  have hread : ("serviceTask", some "Known") ∈
      operationsOf (convert .standard (Canvas.ofSketch .standard checkSketch)) := by
    decide +kernel
  obtain ⟨p, hp, e, he, htag, -⟩ := exists_of_operationsOf hread
  obtain ⟨-, -, hfound⟩ :=
    dispatches_find_operations_iff .standard checkLibrary checkSketch p hp
  refine ⟨hreview, p, hp, e, he, htag, hfound ?_ ?_ e he htag⟩
  · rw [hreview]
    exact fun _ h => nomatch h
  · intro k n hn hdispatched
    have hmem := List.mem_of_getElem? hn.getElem?
    simp only [checkSketch, List.mem_cons, List.not_mem_nil, or_false] at hmem
    rcases hmem with rfl | rfl | rfl
    · exact absurd hdispatched (by decide +kernel)
    · exact undisturbed_checkNode
    · exact absurd hdispatched (by decide +kernel)

/-- **An operation is overridden, and the review finds nothing.** It reads the
one in the data, which is registered; the step is dispatched under the one
that is merged over it, which is not. -/
theorem overridden_in_silence :
    checkSketch.review checkSettings (some checkLibrary.registry) = [] ∧
      ∃ p, convert checkSettings (Canvas.ofSketch checkSettings checkSketch) = .ok p ∧
        ∃ e ∈ p.elements, e.kind.tag = "serviceTask" ∧ e.operationId? = some "Unknown" ∧
          (∀ c, c.step = e →
            (checkLibrary.dispatch c).1 = .error (.unknownOperation "Unknown")) ∧
          ¬ HasOperation checkLibrary e := by
  have hread : ("serviceTask", some "Unknown") ∈
      operationsOf (convert checkSettings (Canvas.ofSketch checkSettings checkSketch)) := by
    decide +kernel
  have hunknown : checkLibrary.registry.find? "Unknown" = none := by decide
  obtain ⟨p, hp, e, he, htag, hop⟩ := exists_of_operationsOf hread
  refine ⟨by decide +kernel, p, hp, e, he, htag, hop, fun c hc => ?_, fun h => ?_⟩
  · simp only [Library.dispatch, hc, hop, Library.resolve, hunknown]
  · obtain ⟨operation, hsome, hcontains⟩ := h.registered
    obtain rfl := Option.some.inj (hop.symm.trans hsome)
    rw [Registry.contains_eq, hunknown] at hcontains
    cases hcontains

end Workflow

end WorkflowCanvas
