import WorkflowCanvas.Proofs.Canvas.Properties
import WorkflowCanvas.Proofs.Canvas.Wiring
import WorkflowCanvas.Proofs.Json.Merge
/-!
# Layers of properties

The properties of a node shape come in layers. Each layer is written over the
table of the ones below it and changes the keys that it has a value for
(`Layer.get?_write`), so a key has the value of the highest layer that has
one for it, or else the default of its mapping (`get?_layeredProperties`).
The name is settled after that, and the properties forced on the node are
merged over all of it (`properties_layered`).
-/


namespace WorkflowCanvas

namespace Canvas

open Sketch (Node NodeData)

/-! ## What is written -/

section Written

variable {t : Table Json} {key : String}

/-- The text that fields write under a key: that of the last of them that has
one. -/
def lastText? (rename : String → String) (fields : List (String × Json)) (key : String) :
    Option String :=
  (fields.filterMap fun field =>
    if rename field.1 = key then propertyText? field.2 else none).getLast?

theorem lastText?_cons (rename : String → String) (field : String × Json)
    (rest : List (String × Json)) :
    lastText? rename (field :: rest) key = (lastText? rename rest key).or
      (if rename field.1 = key then propertyText? field.2 else none) :=
  getLast?_filterMap_cons _ _ _

/-- **The last field with a text for a key decides**, before what was there. -/
theorem get?_insertTexts_eq (rename : String → String) (fields : Table Json) :
    (insertTexts rename t fields).get? key =
      ((lastText? rename fields key).map Json.str).or (t.get? key) := by
  unfold insertTexts
  induction fields generalizing t with
  | nil => rfl
  | cons field rest ih =>
    rw [List.foldl_cons, ih, Table.get?_insertSome, lastText?_cons]
    by_cases hkey : key = rename field.1
    · rw [if_pos hkey, if_pos hkey.symm]
      cases lastText? rename rest key <;> rfl
    · rw [if_neg hkey, if_neg (Ne.symm hkey), Option.or_none]

/-- The text of the selected fields, if it is not empty. -/
def selectedText? (selected? : Option Json) : Option String :=
  (selected?.bind propertyText?).filter fun text => decide (text ≠ "")

/-- What the selected fields write. -/
theorem get?_insertSelected_eq (tag? : Option String) (selected? : Option Json) :
    (insertSelected t tag? selected?).get? key =
      (if key = "selectedFields" ∨ key = "requiredFields" ∧ tag? = some "user" then
        (selectedText? selected?).map Json.str else none).or (t.get? key) := by
  unfold insertSelected selectedText?
  rcases selected?.bind propertyText? with _ | text
  · simp
  · by_cases htext : text = ""
    · simp [htext, Option.filter_some]
    · by_cases hselected : key = "selectedFields"
      · subst hselected
        simp [htext, Option.filter_some, Table.get?_insert_self]
      · by_cases huser : tag? = some "user"
        · by_cases hrequired : key = "requiredFields"
          · subst hrequired
            simp [htext, huser, Option.filter_some, Table.get?_insert_of_ne,
              Table.get?_insert_self]
          · simp [htext, huser, hselected, hrequired, Table.get?_insert_of_ne]
        · simp [htext, huser, hselected, Table.get?_insert_of_ne]

end Written

/-! ## Layers -/

/-- **The layers of the properties of a node** above the defaults of its
mapping. -/
inductive Layer where
  | customFields
  | selectedFields
  | operation
  | parameters
  | label

namespace Layer

/-- The layers from the highest on. -/
def all : List Layer := [customFields, selectedFields, operation, parameters, label]

/-- The custom fields of a node; what is no object has none. -/
def customFieldsOf (data : NodeData) : Table Json := (data.customFields?.bind Json.fields?).getD []

/-- What a node says of its operation under a key. -/
def operationField? (data : NodeData) (key : String) : Option String :=
  if key = "delegationId" then data.delegationId?
  else if key = "delegationName" then data.delegationName?
  else if key = "delegationType" then data.delegationType?
  else none

variable (settings : Settings) (n : Node)

/-- **The value that a layer has for a key.** -/
def value? (key : String) : Layer → Option Json
  | customFields =>
    (lastText? (Settings.aliasFor settings.fieldAliases) (customFieldsOf n.data) key).map .str
  | selectedFields =>
    if key = "selectedFields" ∨ key = "requiredFields" ∧ n.typeTag? = some "user" then
      (selectedText? n.data.selectedFields?).map .str
    else none
  | operation => ((operationField? n.data key).bind Text.nonBlank?).map .str
  | parameters => ((n.data.parameters.get? key).bind propertyText?).map .str
  | label => if key = "name" then (n.data.label?.bind Text.nonBlank?).map .str else none

/-- A layer written over a table. -/
def write : Layer → Table Json → Table Json
  | customFields, t =>
    insertTexts (Settings.aliasFor settings.fieldAliases) t (customFieldsOf n.data)
  | selectedFields, t => insertSelected t n.typeTag? n.data.selectedFields?
  | operation, t =>
    insertTrimmed
      (insertTrimmed (insertTrimmed t "delegationId" n.data.delegationId?) "delegationName"
        n.data.delegationName?)
      "delegationType" n.data.delegationType?
  | parameters, t => insertTexts id t n.data.parameters
  | label, t => insertTrimmed t "name" n.data.label?

variable {settings n} {t : Table Json} {key : String}

/-- **A layer changes the keys that it has a value for.** -/
theorem get?_write (hparameters : n.data.parameters.Sorted) (layer : Layer) :
    (layer.write settings n t).get? key = (layer.value? settings n key).or (t.get? key) := by
  cases layer with
  | customFields => exact get?_insertTexts_eq _ _
  | selectedFields => exact get?_insertSelected_eq _ _
  | operation =>
    simp only [write, value?, operationField?, insertTrimmed, Table.get?_insertSome]
    by_cases hid : key = "delegationId"
    · subst hid
      simp
    · by_cases hname : key = "delegationName"
      · subst hname
        simp
      · by_cases htype : key = "delegationType"
        · subst htype
          simp
        · simp [hid, hname, htype]
  | parameters => exact get?_insertTexts_id hparameters
  | label =>
    simp only [write, value?, insertTrimmed, Table.get?_insertSome]
    split
    · rfl
    · rw [Option.none_or]

/-- **Of layers that are written one over the other the highest decides.** -/
theorem get?_foldr_write (hparameters : n.data.parameters.Sorted) (layers : List Layer) :
    (layers.foldr (write settings n) t).get? key =
      (layers.findSome? fun layer => layer.value? settings n key).or (t.get? key) := by
  induction layers with
  | nil => rfl
  | cons layer rest ih =>
    rw [List.foldr_cons, get?_write hparameters, ih, ← Option.or_assoc, List.findSome?_cons]
    cases layer.value? settings n key <;> rfl

end Layer

/-! ## Names -/

section Names

variable {settings : Settings} {n : Node} {key : String}

/-- The properties that the layers come to, before the node is named. -/
def layeredProperties (settings : Settings) (n : Node) : Table Json :=
  Layer.all.foldr (Layer.write settings n) (settings.mappingFor n.typeTag?).properties

/-- **The value that the layers give a key**: that of the highest layer that has
one, or else the default of the mapping. -/
def layeredValue? (settings : Settings) (n : Node) (key : String) : Option Json :=
  (Layer.all.findSome? fun layer => layer.value? settings n key).or
    ((settings.mappingFor n.typeTag?).properties.get? key)

theorem get?_layeredProperties (hparameters : n.data.parameters.Sorted) (key : String) :
    (layeredProperties settings n).get? key = layeredValue? settings n key :=
  Layer.get?_foldr_write hparameters Layer.all

/-- The node is a start or an end, or what it is given for a name is a text
that is not blank. -/
def KeepsName (settings : Settings) (n : Node) : Prop :=
  n.typeTag? = some "start" ∨ n.typeTag? = some "end" ∨
    ((layeredValue? settings n "name").bind fun v => v.str?.bind Text.nonBlank?).isSome = true

instance (settings : Settings) (n : Node) : Decidable (KeepsName settings n) :=
  inferInstanceAs (Decidable (_ ∨ _ ∨ _))

/-- **The name of a node, whatever its role**: the one that it is given, or one
made up from its tag. -/
def genericName? (settings : Settings) (n : Node) : Option Json :=
  if KeepsName settings n then layeredValue? settings n "name"
  else some (.str (defaultName n.typeTag?))

/-- The properties before anything is merged over them are the layers with a
name. -/
theorem unmergedProperties_eq (settings : Settings) (degree : Degree) (n : Node) :
    unmergedProperties settings degree n =
      (insertName (layeredProperties settings n) n.typeTag?).insertSome "name"
        ((roleName? (settings.mappingFor n.typeTag?).roles? degree).map .str) := by
  have hlayers : layeredProperties settings n =
      insertTexts (Settings.aliasFor settings.fieldAliases) (selectedProperties settings n)
        (Layer.customFieldsOf n.data) := rfl
  rw [hlayers, Layer.customFieldsOf]
  -- a node without custom fields writes none of them
  rcases hcustom : n.data.customFields?.bind Json.fields? with _ | fields
  · simp only [unmergedProperties, nodeProperties, hcustom]
    rfl
  · simp only [unmergedProperties, nodeProperties, hcustom]
    rfl

theorem get?_unmergedProperties_of_ne (hparameters : n.data.parameters.Sorted) (degree : Degree)
    (hkey : key ≠ "name") :
    (unmergedProperties settings degree n).get? key = layeredValue? settings n key := by
  rw [unmergedProperties_eq, Table.get?_insertSome, if_neg hkey, get?_insertName hkey,
    get?_layeredProperties hparameters]

/-- **The role comes before the generic name.** -/
theorem get?_unmergedProperties_name (hparameters : n.data.parameters.Sorted) (degree : Degree) :
    (unmergedProperties settings degree n).get? "name" =
      ((roleName? (settings.mappingFor n.typeTag?).roles? degree).map Json.str).or
        (genericName? settings n) := by
  have hgiven : (layeredProperties settings n).get? "name" = layeredValue? settings n "name" :=
    get?_layeredProperties hparameters "name"
  have hkeeps : (n.typeTag? = some "start" ∨ n.typeTag? = some "end" ∨
      hasName (layeredProperties settings n) = true) ↔ KeepsName settings n := by
    rw [hasName, hgiven]
    exact Iff.rfl
  have hgeneric : (insertName (layeredProperties settings n) n.typeTag?).get? "name" =
      genericName? settings n := by
    by_cases h : KeepsName settings n
    · rw [insertName, if_pos (hkeeps.2 h), genericName?, if_pos h, hgiven]
    · rw [insertName, if_neg (mt hkeeps.1 h), genericName?, if_neg h, Table.get?_insert_self]
  rw [unmergedProperties_eq, Table.get?_insertSome, if_pos rfl, hgeneric]

end Names

/-! ## Sorted properties -/

section Sorted

variable {t : Table Json}

theorem sorted_insertTexts (h : t.Sorted) (rename : String → String) (fields : Table Json) :
    (insertTexts rename t fields).Sorted := by
  unfold insertTexts
  induction fields generalizing t with
  | nil => exact h
  | cons field rest ih => exact ih (h.insertSome _ _)

theorem sorted_insertSelected (h : t.Sorted) (tag? : Option String) (selected? : Option Json) :
    (insertSelected t tag? selected?).Sorted := by
  unfold insertSelected
  split
  · split
    · exact h
    · split
      · exact (h.insert _ _).insert _ _
      · exact h.insert _ _
  · exact h

theorem sorted_insertName (h : t.Sorted) (tag? : Option String) : (insertName t tag?).Sorted := by
  unfold insertName
  split
  · exact h
  · exact h.insert _ _

/-- Layers written over a sorted table leave it sorted. -/
theorem Layer.sorted_write (settings : Settings) (n : Node) (h : t.Sorted) (layer : Layer) :
    (layer.write settings n t).Sorted := by
  cases layer with
  | customFields => exact sorted_insertTexts h _ _
  | selectedFields => exact sorted_insertSelected h _ _
  | operation => exact ((h.insertSome _ _).insertSome _ _).insertSome _ _
  | parameters => exact sorted_insertTexts h _ _
  | label => exact h.insertSome _ _

theorem sorted_unmergedProperties {settings : Settings} {n : Node}
    (h : (settings.mappingFor n.typeTag?).properties.Sorted) (degree : Degree) :
    (unmergedProperties settings degree n).Sorted := by
  have hlayers : ∀ layers : List Layer,
      Table.Sorted (layers.foldr (Layer.write settings n)
        (settings.mappingFor n.typeTag?).properties) := by
    intro layers
    induction layers with
    | nil => exact h
    | cons layer rest ih => exact layer.sorted_write settings n ih
  rw [unmergedProperties_eq]
  exact (sorted_insertName (hlayers _) _).insertSome _ _

end Sorted

/-! ## The properties of a shape -/

variable {settings : Settings} {s : Sketch} {k : Nat} {n : Node}

/-- The properties forced on a node. -/
def overridesOf (settings : Settings) (n : Node) : Table Json :=
  (settings.nodeOverrides.get? n.id).getD []

theorem nodeProperties_eq_merge (settings : Settings) (degree : Degree) (n : Node) :
    nodeProperties settings degree n =
      Json.merge (unmergedProperties settings degree n) (overridesOf settings n) := by
  rw [nodeProperties_eq, overridesOf]
  cases settings.nodeOverrides.get? n.id with
  | some overrides => rfl
  | none => rw [Option.getD_none, Json.merge, Json.mergeFields]

/-- **An accepted node has its shape under its shape id.** -/
theorem shape?_sanitizeId (settings : Settings) (hn : s.Accepts k n) :
    (ofSketch settings s).shape? (sanitizeId n.id) = some (shapeOfNode settings s n) := by
  have hmem : shapeOfNode settings s n ∈ shapesOfNodes settings s ++ shapesOfEdges settings s :=
    List.mem_append_left _ (shapeOfNode_mem settings hn)
  rw [Canvas.shape?, childShapes_ofSketch]
  rcases hfound : List.find? (fun sh => sh.resourceId == sanitizeId n.id)
      (shapesOfNodes settings s ++ shapesOfEdges settings s) with _ | sh
  · exact absurd (List.find?_eq_none.1 hfound _ hmem) (by simp [shapeOfNode, nodeShape])
  · have hid : sh.resourceId = sanitizeId n.id := by simpa using List.find?_some hfound
    exact hfound.trans (congrArg some
      (List.inj_on_of_nodup_map (nodup_resourceIds settings s) (List.mem_of_find?_eq_some hfound)
        hmem hid))

/-- **The tables that a node is drawn from are sorted by key.** -/
structure FromSorted (settings : Settings) (n : Node) : Prop where
  defaults : (settings.mappingFor n.typeTag?).properties.Sorted
  parameters : n.data.parameters.Sorted
  overrides : (overridesOf settings n).Sorted

/-- **Properties come in layers.** Each accepted node has a shape. Before
anything is merged over the properties of the shape, a key other than that of
the name has the value of the highest layer that has one for it, or else the
default of the mapping; the name is that of the role of a gateway, or else
the one from the layers, or else one made up. What is forced on the node is
merged over this, and there are no other keys. -/
theorem properties_layered (settings : Settings) (s : Sketch) {k : Nat} {n : Node}
    (hn : s.Accepts k n) (hsorted : FromSorted settings n) :
    ∃ sh, (ofSketch settings s).shape? (sanitizeId n.id) = some sh ∧
      IsNodeShape settings n sh ∧
      ∃ below : Table Json, below.Sorted ∧
        (∀ key, key ≠ "name" → below.get? key = layeredValue? settings n key) ∧
        below.get? "name" =
          ((roleName? (settings.mappingFor n.typeTag?).roles? (degree s n.id)).map Json.str).or
            (genericName? settings n) ∧
        sh.properties = Json.merge below (overridesOf settings n) ∧ sh.properties.Sorted ∧
        ∀ key, sh.properties.get? key =
          (((overridesOf settings n).get? key).map (Json.mergeOver (below.get? key))).or
            (below.get? key) := by
  have hbelow := sorted_unmergedProperties hsorted.defaults (degree s n.id)
  have hmerged : (shapeOfNode settings s n).properties =
      Json.merge (unmergedProperties settings (degree s n.id) n) (overridesOf settings n) :=
    nodeProperties_eq_merge settings (degree s n.id) n
  refine ⟨shapeOfNode settings s n, shape?_sanitizeId settings hn,
    isNodeShape_shapeOfNode settings s n, unmergedProperties settings (degree s n.id) n, hbelow,
    fun key hkey => get?_unmergedProperties_of_ne hsorted.parameters _ hkey,
    get?_unmergedProperties_name hsorted.parameters _, hmerged, ?_, fun key => ?_⟩
  · rw [hmerged]
    exact Json.sorted_merge hbelow _
  · rw [hmerged]
    exact Json.get?_merge _ hsorted.overrides key

/-- A user step with values for some keys in several layers. -/
def collectNode : Node where
  id := "collect"
  outerTag? := "user"
  data :=
    { label? := some " Collect "
      parameters := [("delegationId", .str "Old"), ("name", .str " "), ("priority", .int 70)]
      customFields? := some (.obj
        [("AMOUNT", .int 25000), ("assignee", .arr [.str "a", .null, .str "b"]),
         ("requestedAmountLimit", .null)])
      selectedFields? := some (.arr [.str "PAN", .str "AADHAR"])
      delegationId? := some " Collect " }

/-- A sketch of that step alone. -/
def collectSketch : Sketch where
  nodes := [collectNode]

/-- The standard settings with properties forced on the step. -/
def collectSettings : Settings :=
  { Settings.standard with
    nodeOverrides := [("collect", [("form", .obj [("key", .str "kyc")]), ("priority", .str "99")])] }

/-- The step has the values of the highest layers, a name made up in the place
of a blank one, and what is forced on it. -/
theorem collect_layered :
    ∃ sh, (ofSketch collectSettings collectSketch).shape? "collect" = some sh ∧
      sh.properties.Sorted ∧
      ["assignee", "delegationId", "name", "priority", "requestedAmountLimit",
          "requiredFields"].map (fun key => (sh.properties.get? key).bind Json.str?) =
        [some "a,b", some "Collect", some "User", some "99", some "25000",
          some "PAN,AADHAR"] ∧
      sh.properties.get? "label" = none := by
  have hn : collectSketch.Accepts 0 collectNode :=
    Sketch.accepts_iff_first.2 ⟨rfl, by decide, fun j hj => absurd hj (Nat.not_lt_zero j)⟩
  have hsorted : FromSorted collectSettings collectNode :=
    ⟨by rw [Table.Sorted]; decide +kernel, by rw [Table.Sorted]; decide +kernel,
      by rw [Table.Sorted]; decide +kernel⟩
  obtain ⟨sh, hsh, -, below, -, hlayers, hname, -, hproperties, hget⟩ :=
    properties_layered collectSettings collectSketch hn hsorted
  have hid : sanitizeId collectNode.id = "collect" := by decide +kernel
  refine ⟨sh, hid ▸ hsh, hproperties, ?_, ?_⟩
  · simp only [List.map_cons, List.map_nil, hget, hname, hlayers "assignee" (by decide),
      hlayers "delegationId" (by decide), hlayers "priority" (by decide),
      hlayers "requestedAmountLimit" (by decide), hlayers "requiredFields" (by decide)]
    decide +kernel
  · rw [hget, hlayers "label" (by decide)]
    rfl

end Canvas

end WorkflowCanvas
