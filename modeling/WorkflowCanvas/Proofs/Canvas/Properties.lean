import WorkflowCanvas.Proofs.Canvas.ShapeId
import WorkflowCanvas.Proofs.Json.Merge
import WorkflowCanvas.Workflow.OfCanvas
/-!
# Forced ids

The element of a shape goes by the id of the shape, unless a property of the
shape forces another one on it. For a node that property may come from any
layer: the defaults of the mapping, the parameters, the custom fields under
their aliases, or what is merged over all of these; each layer leaves alone
the keys that it does not set (`get?_nodeProperties`). Objects come from the
defaults and from what is merged, as the other layers write texts
(`hasKey_of_get?_nodeProperties`). For an edge it comes from what is merged
over the id of the shape (`bind_get?_edgeProperties`).
-/


namespace WorkflowCanvas

namespace Canvas

open Sketch (Node Edge)

/-- The property that forces an id on an element. -/
def forcingKey : String := "overrideid"

/-- The id that properties force on an element. -/
def forcedId? (properties : Table Json) : Option String :=
  (properties.get? forcingKey).bind fun v => v.str?.bind Text.nonBlank?

theorem elementId_eq (sh : Shape) : sh.elementId = (forcedId? sh.properties).getD sh.resourceId :=
  rfl

/-! ## The layers of a node -/

section Layers

variable {t : Table Json} {key : String}

theorem get?_insertTrimmed {k : String} {text? : Option String} (h : key ≠ k) :
    (insertTrimmed t k text?).get? key = t.get? key := by
  rw [insertTrimmed, Table.get?_insertSome, if_neg h]

/-- What the fields of a sorted table write. -/
theorem get?_insertTexts_id {fields : Table Json} (h : fields.Sorted) :
    (insertTexts id t fields).get? key =
      (((fields.get? key).bind propertyText?).map Json.str).or (t.get? key) := by
  unfold insertTexts
  induction fields generalizing t with
  | nil => rfl
  | cons field rest ih =>
    obtain ⟨hhead, hrest⟩ := List.pairwise_cons.1 h
    rw [List.foldl_cons, ih hrest, Table.get?_insertSome, id]
    by_cases hkey : key = field.1
    · -- the key does not come again
      have hnone : Table.get? rest key = none :=
        Table.get?_eq_none_iff.2 fun e he => hkey ▸ ne_of_gt (hhead e he)
      have hsome : Table.get? (field :: rest) key = some field.2 := by
        simp [Table.get?, hkey]
      rw [if_pos hkey, hnone, hsome]
      rfl
    · have hskip : Table.get? (field :: rest) key = Table.get? rest key := by
        simp [Table.get?, Ne.symm hkey]
      rw [if_neg hkey, hskip]

/-- Fields without a text for a key leave it alone. -/
theorem get?_insertTexts {rename : String → String} {fields : Table Json}
    (h : ∀ field ∈ fields, rename field.1 = key → propertyText? field.2 = none) :
    (insertTexts rename t fields).get? key = t.get? key := by
  unfold insertTexts
  induction fields generalizing t with
  | nil => rfl
  | cons field rest ih =>
    rw [List.foldl_cons, ih fun field hf => h field (List.mem_cons_of_mem _ hf),
      Table.get?_insertSome]
    split
    · next hkey => rw [h field List.mem_cons_self hkey.symm]; rfl
    · rfl

theorem get?_insertSelected {tag? : Option String} {selected? : Option Json}
    (h : key ≠ "requiredFields") (h' : key ≠ "selectedFields") :
    (insertSelected t tag? selected?).get? key = t.get? key := by
  unfold insertSelected
  split
  · split
    · rfl
    · rw [Table.get?_insert_of_ne _ _ h']
      split
      · exact Table.get?_insert_of_ne _ _ h
      · rfl
  · rfl

theorem get?_insertName {tag? : Option String} (h : key ≠ "name") :
    (insertName t tag?).get? key = t.get? key := by
  unfold insertName
  split
  · rfl
  · exact Table.get?_insert_of_ne _ _ h

end Layers

/-- **No layer of the properties of a node forces an id on it.** -/
structure Unforced (settings : Settings) (n : Node) : Prop where
  defaults : (settings.mappingFor n.typeTag?).properties.get? forcingKey = none
  parameters : ∀ field ∈ n.data.parameters, field.1 = forcingKey → propertyText? field.2 = none
  customFields : ∀ fields, n.data.customFields?.bind Json.fields? = some fields →
    ∀ field ∈ fields, Settings.aliasFor settings.fieldAliases field.1 = forcingKey →
      propertyText? field.2 = none
  overrides : ∀ overrides, settings.nodeOverrides.get? n.id = some overrides →
    overrides.get? forcingKey = none

/-- The keys that layers above the parameters write, besides that of the
operation. -/
def layerKeys : List String :=
  ["name", "delegationName", "delegationType", "requiredFields", "selectedFields"]

/-- **No layer at the author's choice covers a key**: no custom field writes a
text under it, and nothing is merged over it. -/
structure Uncovered (settings : Settings) (n : Node) (key : String) : Prop where
  customFields : ∀ fields, n.data.customFields?.bind Json.fields? = some fields →
    ∀ field ∈ fields, Settings.aliasFor settings.fieldAliases field.1 = key →
      propertyText? field.2 = none
  overrides : ∀ overrides, settings.nodeOverrides.get? n.id = some overrides →
    overrides.get? key = none

/-- The properties up to the operation. -/
def lowerProperties (settings : Settings) (n : Node) : Table Json :=
  insertTrimmed
    (insertTexts id
      (insertTrimmed (settings.mappingFor n.typeTag?).properties "name" n.data.label?)
      n.data.parameters)
    "delegationId" n.data.delegationId?

/-- The properties up to the selected fields. -/
def selectedProperties (settings : Settings) (n : Node) : Table Json :=
  insertSelected
    (insertTrimmed
      (insertTrimmed (lowerProperties settings n) "delegationName" n.data.delegationName?)
      "delegationType" n.data.delegationType?)
    n.typeTag? n.data.selectedFields?

/-- **A key that is not covered**, other than that of the name, has the value of
the layers up to the selected fields. -/
theorem Uncovered.get?_nodeProperties_of_ne {settings : Settings} {n : Node} {key : String}
    (h : Uncovered settings n key) (hname : key ≠ "name") (degree : Degree) :
    (nodeProperties settings degree n).get? key = (selectedProperties settings n).get? key := by
  have hnamed : ∀ {t : Table Json} {role? : Option String},
      ((insertName t n.typeTag?).insertSome "name" (role?.map .str)).get? key = t.get? key := by
    intro t role?
    rw [Table.get?_insertSome, if_neg hname, get?_insertName hname]
  simp only [nodeProperties]
  split
  on_goal 1 =>
    rename_i overrides hget
    rw [Json.get?_merge_of_none _ (h.overrides overrides hget)]
  -- from here on it is the same whether anything is merged over the rest or not
  all_goals
    rw [hnamed]
    split
    · next fields hfields =>
      rw [get?_insertTexts (h.customFields fields hfields)]
      rfl
    · rfl

/-- **A key that is not covered** has the value of the lower layers. -/
theorem Uncovered.get?_nodeProperties {settings : Settings} {n : Node} {key : String}
    (h : Uncovered settings n key) (hkey : key ∉ layerKeys) (degree : Degree) :
    (nodeProperties settings degree n).get? key = (lowerProperties settings n).get? key := by
  simp only [layerKeys, List.mem_cons, List.not_mem_nil, or_false, not_or] at hkey
  obtain ⟨hname, hdelegationName, hdelegationType, hrequired, hselected⟩ := hkey
  rw [h.get?_nodeProperties_of_ne hname, selectedProperties, get?_insertSelected hrequired hselected,
    get?_insertTrimmed hdelegationType, get?_insertTrimmed hdelegationName]

/-- **A node has no forced id where no layer forces one.** -/
theorem Unforced.get?_nodeProperties {settings : Settings} {n : Node} (h : Unforced settings n)
    (degree : Degree) : (nodeProperties settings degree n).get? forcingKey = none := by
  have huncovered : Uncovered settings n forcingKey := ⟨h.customFields, h.overrides⟩
  rw [huncovered.get?_nodeProperties (by decide), lowerProperties, get?_insertTrimmed (by decide),
    get?_insertTexts h.parameters, get?_insertTrimmed (by decide)]
  exact h.defaults

/-! ## Objects among the properties of a node -/

/-- **Objects come from another table**: wherever there is an object, the other
table has it as well. -/
def ObjectsFrom (t u : Table Json) : Prop :=
  ∀ key fields, u.get? key = some (.obj fields) → t.get? key = some (.obj fields)

section Objects

variable {t u : Table Json}

/-- Texts that are written bring in no object. -/
theorem ObjectsFrom.insert (h : ObjectsFrom t u) (k text : String) :
    ObjectsFrom t (u.insert k (.str text)) := by
  intro key fields hget
  by_cases hkey : key = k
  · rw [hkey, Table.get?_insert_self] at hget
    cases hget
  · rw [Table.get?_insert_of_ne _ _ hkey] at hget
    exact h key fields hget

theorem ObjectsFrom.insertSome (h : ObjectsFrom t u) (k : String) (text? : Option String) :
    ObjectsFrom t (u.insertSome k (text?.map .str)) := by
  cases text? with
  | none => exact h
  | some text => exact h.insert k text

theorem ObjectsFrom.insertTexts (h : ObjectsFrom t u) (rename : String → String)
    (fields : Table Json) : ObjectsFrom t (insertTexts rename u fields) := by
  unfold Canvas.insertTexts
  induction fields generalizing u with
  | nil => exact h
  | cons field rest ih => exact ih (h.insertSome _ _)

theorem ObjectsFrom.insertSelected (h : ObjectsFrom t u) (tag? : Option String)
    (selected? : Option Json) : ObjectsFrom t (insertSelected u tag? selected?) := by
  unfold Canvas.insertSelected
  split
  · split
    · exact h
    · split
      · exact (h.insert _ _).insert _ _
      · exact h.insert _ _
  · exact h

theorem ObjectsFrom.insertName (h : ObjectsFrom t u) (tag? : Option String) :
    ObjectsFrom t (insertName u tag?) := by
  unfold Canvas.insertName
  split
  · exact h
  · exact h.insert _ _

end Objects

/-- The properties of a node before anything is merged over them. -/
def unmergedProperties (settings : Settings) (degree : Degree) (n : Node) : Table Json :=
  nodeProperties { settings with nodeOverrides := [] } degree n

theorem nodeProperties_eq (settings : Settings) (degree : Degree) (n : Node) :
    nodeProperties settings degree n =
      match settings.nodeOverrides.get? n.id with
      | some overrides => Json.merge (unmergedProperties settings degree n) overrides
      | none => unmergedProperties settings degree n :=
  rfl

/-- **Objects among the properties come from the defaults**, as all that a node
writes over them are texts. -/
theorem objectsFrom_defaults (settings : Settings) (degree : Degree) (n : Node) :
    ObjectsFrom (settings.mappingFor n.typeTag?).properties
      (unmergedProperties settings degree n) := by
  have hbelow : ObjectsFrom (settings.mappingFor n.typeTag?).properties
      (selectedProperties settings n) := by
    have hrefl : ObjectsFrom (settings.mappingFor n.typeTag?).properties
        (settings.mappingFor n.typeTag?).properties := fun _ _ h => h
    exact ((((hrefl.insertSome _ _).insertTexts _ _).insertSome _ _).insertSome _ _).insertSome _ _
      |>.insertSelected _ _
  simp only [unmergedProperties, nodeProperties]
  refine ((?_ : ObjectsFrom _ _).insertName _).insertSome _ _
  split
  · exact hbelow.insertTexts _ _
  · exact hbelow

/-- **The keys of an object among the properties** come from the defaults or from
what is merged over the rest. -/
theorem hasKey_of_get?_nodeProperties {settings : Settings} {degree : Degree} {n : Node}
    {key k : String} {fields : Table Json}
    (h : (nodeProperties settings degree n).get? key = some (.obj fields))
    (hk : Json.HasKey fields k) :
    (∃ below, (settings.mappingFor n.typeTag?).properties.get? key = some (.obj below) ∧
      Json.HasKey below k) ∨
    ∃ overrides above, settings.nodeOverrides.get? n.id = some overrides ∧
      (key, Json.obj above) ∈ overrides ∧ Json.HasKey above k := by
  rw [nodeProperties_eq] at h
  split at h
  · next overrides hget =>
    rcases Json.hasKey_of_get?_merge h hk with ⟨below, hbelow, hin⟩ | ⟨above, habove, hin⟩
    · exact .inl ⟨below, objectsFrom_defaults settings degree n key below hbelow, hin⟩
    · exact .inr ⟨overrides, above, hget, habove, hin⟩
  · exact .inl ⟨fields, objectsFrom_defaults settings degree n key fields h, hk⟩

/-! ## The layers of an edge -/

section EdgeLayers

variable {settings : Settings} {l : Link} {α : Type} {read : Json → Option α}

/-- What a reading that sees no objects reads at an edge: what is merged over
it, or else the id of its shape. -/
theorem bind_get?_edgeProperties (hread : ∀ existing? v, read (Json.mergeOver existing? v) = read v)
    (key : String) :
    ((edgeProperties settings l).get? key).bind read =
      ((((settings.edgeOverrides.get? l.edge.id).bind fun overrides =>
        (Table.ofList overrides).get? key).or
          (Table.get? [(forcingKey, Json.str l.resourceId)] key))).bind read := by
  unfold edgeProperties
  split
  · next overrides hget => rw [Json.bind_get?_merge hread, hget]; rfl
  · next hget => rw [hget]; rfl

/-- The id that the settings force on an edge. -/
def edgeForcedId? (settings : Settings) (e : Edge) : Option String :=
  (settings.edgeOverrides.get? e.id).bind fun overrides => forcedId? (Table.ofList overrides)

/-- **An edge goes by the id of its shape**, unless another is forced on
it. -/
theorem elementId_edgeShape (h : IsShapeId l.resourceId) :
    (edgeShape settings l).elementId = (edgeForcedId? settings l.edge).getD l.resourceId := by
  have hread : ∀ (existing? : Option Json) (v : Json),
      (Json.mergeOver existing? v).str?.bind Text.nonBlank? = v.str?.bind Text.nonBlank? := by
    rintro (_ | existing) v
    · cases v <;> rfl
    · cases v <;> cases existing <;> rfl
  have hown : ((Table.get? [(forcingKey, Json.str l.resourceId)] forcingKey).bind fun v =>
      v.str?.bind Text.nonBlank?) = some l.resourceId := by
    rw [show Table.get? [(forcingKey, Json.str l.resourceId)] forcingKey =
      some (.str l.resourceId) from Table.get?_insert_self [] forcingKey _, Option.bind_some,
      Json.str?, Option.bind_some, h.nonBlank?_eq]
  rw [elementId_eq, edgeForcedId?]
  show (forcedId? (edgeProperties settings l)).getD l.resourceId = _
  rw [forcedId?, bind_get?_edgeProperties hread]
  rcases settings.edgeOverrides.get? l.edge.id with _ | overrides
  · rw [Option.bind_none, Option.bind_none, Option.none_or, hown, Option.getD_some,
      Option.getD_none]
  · rw [Option.bind_some, Option.bind_some, forcedId?]
    rcases (Table.ofList overrides).get? forcingKey with _ | v
    · rw [Option.none_or, hown, Option.bind_none, Option.getD_some, Option.getD_none]
    · rfl

end EdgeLayers

end Canvas

namespace Workflow

open Canvas (Shape Link)
open Sketch (Edge)

/-- A value as the text of a structural property. -/
def scalarText? : Json → Option String
  | .str text => Text.nonBlank? text
  | .int n => some (Json.int n).text
  | .float x => some (Json.float x).text
  | .bool b => some (Json.bool b).text
  | _ => none

theorem structuralText?_eq (sh : Shape) (key : String) :
    structuralText? sh key = (sh.properties.get? key).bind scalarText? := by
  unfold structuralText?
  rcases sh.properties.get? key with _ | v
  · rfl
  · rw [Option.bind_some]
    cases v <;> rfl

/-- The condition that the settings put on an edge. -/
def conditionOf? (settings : Settings) (e : Edge) : Option String :=
  ((settings.edgeOverrides.get? e.id).bind fun overrides =>
    (Table.ofList overrides).get? "conditionsequenceflow").bind scalarText?

/-- **The condition of an edge is the one that the settings put on it.** -/
theorem structuralText?_edgeShape (settings : Settings) (l : Link) :
    structuralText? (Canvas.edgeShape settings l) "conditionsequenceflow" =
      conditionOf? settings l.edge := by
  have hread : ∀ (existing? : Option Json) (v : Json),
      scalarText? (Json.mergeOver existing? v) = scalarText? v := by
    rintro (_ | existing) v
    · cases v <;> rfl
    · cases v <;> cases existing <;> rfl
  have hnone : Table.get? [(Canvas.forcingKey, Json.str l.resourceId)] "conditionsequenceflow" =
      none := rfl
  rw [structuralText?_eq, conditionOf?]
  show ((Canvas.edgeProperties settings l).get? "conditionsequenceflow").bind scalarText? = _
  rw [Canvas.bind_get?_edgeProperties hread, hnone, Option.or_none]

end Workflow

end WorkflowCanvas
