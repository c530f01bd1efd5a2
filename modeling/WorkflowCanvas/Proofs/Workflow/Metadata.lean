import WorkflowCanvas.Proofs.Workflow.Operations
/-!
# Metadata from three passes

An element gets its metadata in three passes over the properties of its
shape: the free-form ones, the reserved ones, and the nested custom fields
under their aliases. The last value that is written under a key counts
(`get?_attach`). The first two passes filter by key and the third does not,
so at a structural or a reserved key the custom fields decide before
anything else (`get?_enrich_excluded`, `get?_enrich_reserved`). Metadata is
therefore that of the shape exactly if the custom fields of every shape keep
clear of these keys (`reserved_kept_iff`); where they do not, a custom field
can replace the operation of a step (`nested_fields_take_over`).
-/


namespace WorkflowCanvas

namespace Workflow

open Canvas (Shape)

variable {aliases : Table String} {properties : Table Json} {rename : String → String}
variable {fields : List (String × Json)} {x : Extensions} {e : Element} {key : String}

/-! ## What is attached -/

/-- A value as it is attached: its text, unless that is blank. -/
def attachedText? (v : Json) : Option String :=
  (metadataText? v).filter fun text => (Text.nonBlank? text).isSome

/-- The text that fields attach under a key: the last one. -/
def textAmong? (rename : String → String) (fields : List (String × Json)) (key : String) :
    Option String :=
  (fields.filterMap fun field =>
    if rename field.1 = key then attachedText? field.2 else none).getLast?

theorem textAmong?_cons (field : String × Json) :
    textAmong? rename (field :: fields) key = (textAmong? rename fields key).or
      (if rename field.1 = key then attachedText? field.2 else none) :=
  getLast?_filterMap_cons _ _ _

/-- Fields that attach no text under a key. -/
theorem textAmong?_eq_none
    (h : ∀ field ∈ fields, rename field.1 = key → attachedText? field.2 = none) :
    textAmong? rename fields key = none := by
  rw [textAmong?, List.getLast?_eq_none_iff, List.filterMap_eq_nil_iff]
  intro field hfield
  split
  · next hkey => exact h field hfield hkey
  · rfl

theorem get?_setSome (k : String) (v : Json) :
    (x.setSome k (metadataText? v)).get? key =
      (if k = key then attachedText? v else none).or (x.get? key) := by
  unfold attachedText?
  rcases metadataText? v with _ | text
  · simp [Extensions.setSome]
  · show (x.set k text).get? key = _
    rw [Extensions.get?_set]
    by_cases hk : k = key
    · by_cases htext : (Text.nonBlank? text).isSome = true <;> simp [hk, htext, Option.filter]
    · simp [hk]

/-- **The last field that attaches a text under a key decides**, before what
was there. -/
theorem get?_attach (rename : String → String) (x : Extensions) (fields : List (String × Json))
    (key : String) :
    (attach rename x fields).get? key = (textAmong? rename fields key).or (x.get? key) := by
  induction fields generalizing x with
  | nil => rfl
  | cons field rest ih =>
    have hrest : (attach rename (x.setSome (rename field.1) (metadataText? field.2)) rest).get? key =
        (textAmong? rename rest key).or
          ((x.setSome (rename field.1) (metadataText? field.2)).get? key) := ih _
    rw [attach, List.foldl_cons]
    refine hrest.trans ?_
    rw [get?_setSome, textAmong?_cons, Option.or_assoc]

/-- The properties at some keys attach their own texts. -/
theorem textAmong?_fieldsAt (properties : Table Json) (keys : List String) (key : String) :
    textAmong? (fun key => key) (fieldsAt properties keys) key =
      if key ∈ keys then (properties.get? key).bind attachedText? else none := by
  induction keys with
  | nil => rfl
  | cons k rest ih =>
    rcases hget : properties.get? k with _ | v
    · -- a key without a value attaches nothing, wherever it stands in the list
      have hskip : fieldsAt properties (k :: rest) = fieldsAt properties rest := by
        simp [fieldsAt, hget]
      rw [hskip, ih]
      by_cases hk : key = k
      · subst hk
        simp [hget]
      · simp [hk]
    · have hcons : fieldsAt properties (k :: rest) = (k, v) :: fieldsAt properties rest := by
        simp [fieldsAt, hget]
      rw [hcons, textAmong?_cons, ih]
      by_cases hk : key = k
      · subst hk
        by_cases hrest : key ∈ rest
        · simp [hget, hrest]
        · simp [hget, hrest]
      · simp [hk, Ne.symm hk]

/-! ## Keys that belong to the shape -/

/-- The keys of properties that are no metadata: those of the structure of an
element, of its name, and of the custom fields as a whole. -/
def excludedKeys : List String := "name" :: "customFields" :: structuralKeys

/-- The nested custom fields among the properties of a shape. -/
def customFields (properties : Table Json) : List (String × Json) :=
  ((properties.get? "customFields").bind Json.fields?).getD []

/-- The text that the custom fields attach under a key. -/
def customText? (aliases : Table String) (properties : Table Json) (key : String) :
    Option String :=
  textAmong? (Settings.aliasFor aliases) (customFields properties) key

/-- The text that a property attaches under its own key. -/
def ownText? (properties : Table Json) (key : String) : Option String :=
  (properties.get? key).bind attachedText?

/-- No free-form property has a key that is excluded or reserved. -/
theorem textAmong?_freeForm (h : isFreeForm key = false) :
    textAmong? (fun key => key) (properties.filter fun field => isFreeForm field.1) key = none := by
  refine textAmong?_eq_none fun field hfield hkey => ?_
  have hform := (List.mem_filter.1 hfield).2
  rw [hkey, h] at hform
  cases hform

/-- **What an element gets under a key** that no free-form property has. -/
theorem get?_enrich (he : e.extensions = {}) (h : isFreeForm key = false) :
    (enrich aliases properties e).extensions.get? key =
      (customText? aliases properties key).or
        (if key ∈ metadataKeys then ownText? properties key else none) := by
  have hnone : e.extensions.get? key = none := by
    rw [he]
    rfl
  show (attach _ _ (customFields properties)).get? key = _
  rw [get?_attach, get?_attach, get?_attach, textAmong?_freeForm h, textAmong?_fieldsAt, hnone,
    Option.none_or, Option.or_none]
  rfl

theorem isFreeForm_of_mem_excludedKeys (h : key ∈ excludedKeys) :
    isFreeForm key = false ∧ key ∉ metadataKeys := by
  have hall : ∀ k ∈ excludedKeys, isFreeForm k = false ∧ k ∉ metadataKeys := by decide
  exact hall key h

theorem isFreeForm_of_mem_metadataKeys (h : key ∈ metadataKeys) : isFreeForm key = false := by
  have hall : ∀ k ∈ metadataKeys, isFreeForm k = false := by decide
  exact hall key h

/-- Under an excluded key stands what the custom fields attach. -/
theorem get?_enrich_excluded (he : e.extensions = {}) (h : key ∈ excludedKeys) :
    (enrich aliases properties e).extensions.get? key = customText? aliases properties key := by
  obtain ⟨hform, hkeys⟩ := isFreeForm_of_mem_excludedKeys h
  rw [get?_enrich he hform, if_neg hkeys, Option.or_none]

/-- Under a reserved key the custom fields come before the property. -/
theorem get?_enrich_reserved (he : e.extensions = {}) (h : key ∈ metadataKeys) :
    (enrich aliases properties e).extensions.get? key =
      (customText? aliases properties key).or (ownText? properties key) := by
  rw [get?_enrich he (isFreeForm_of_mem_metadataKeys h), if_pos h]

/-! ## Metadata of the shape -/

/-- **Metadata keeps to the properties of the shape**: no entry has an excluded
key, and the reserved keys have the texts of the properties of their
names. -/
structure KeepsReserved (properties : Table Json) (x : Extensions) : Prop where
  excluded : ∀ entry ∈ x.entries, entry.1 ∉ excludedKeys
  reserved : ∀ key ∈ metadataKeys, x.get? key = ownText? properties key

/-- **The custom fields keep clear of the keys of the shape**: they attach
nothing under an excluded key, and under a reserved one nothing but what
the property says anyway. -/
structure Guarded (aliases : Table String) (properties : Table Json) : Prop where
  excluded : ∀ key ∈ excludedKeys, customText? aliases properties key = none
  reserved : ∀ key ∈ metadataKeys, ∀ text, customText? aliases properties key = some text →
    ownText? properties key = some text

/-- Custom fields are guarded if no alias leads to an excluded or a reserved
key. -/
theorem guarded_of_forall (h : ∀ field ∈ customFields properties,
    Settings.aliasFor aliases field.1 ∉ excludedKeys ∧
      Settings.aliasFor aliases field.1 ∉ metadataKeys) : Guarded aliases properties where
  excluded key hkey := textAmong?_eq_none fun field hfield hto =>
    absurd hkey (hto ▸ (h field hfield).1)
  reserved key hkey text htext := by
    have hnone : customText? aliases properties key = none :=
      textAmong?_eq_none fun field hfield hto => absurd hkey (hto ▸ (h field hfield).2)
    rw [hnone] at htext
    cases htext

theorem get?_eq_none_iff : x.get? key = none ↔ ∀ entry ∈ x.entries, entry.1 ≠ key := by
  simp [Extensions.get?, List.find?_eq_none]

/-- **An enriched element keeps to its shape exactly if the custom fields are
guarded.** -/
theorem keepsReserved_enrich_iff (he : e.extensions = {}) :
    KeepsReserved properties (enrich aliases properties e).extensions ↔
      Guarded aliases properties := by
  constructor
  · intro h
    constructor
    · intro key hkey
      rw [← get?_enrich_excluded he hkey, get?_eq_none_iff]
      intro entry hentry heq
      exact h.excluded entry hentry (heq ▸ hkey)
    · intro key hkey text htext
      rw [← h.reserved key hkey, get?_enrich_reserved he hkey, htext, Option.some_or]
  · intro h
    constructor
    · intro entry hentry hkey
      have hnone : (enrich aliases properties e).extensions.get? entry.1 = none := by
        rw [get?_enrich_excluded he hkey, h.excluded _ hkey]
      exact get?_eq_none_iff.1 hnone entry hentry rfl
    · intro key hkey
      rw [get?_enrich_reserved he hkey]
      rcases htext : customText? aliases properties key with _ | text
      · rw [Option.none_or]
      · rw [Option.some_or, h.reserved key hkey text htext]

/-! ## Metadata on a canvas -/

section Shapes

variable {shapes : List Shape} {s : Shape} {settings : Settings} {c : Canvas} {p : Workflow}

/-- The properties behind an element are those of its own shape, if shapes
have their element ids apart. -/
theorem propertiesOf?_elementId (hids : (shapes.map (·.elementId)).Nodup) (hs : s ∈ shapes) :
    propertiesOf? shapes s.elementId = some s.properties := by
  have hmem : ∀ {sh}, (sh ∈ shapes.filter fun sh => sh.elementId == s.elementId) ↔
      sh ∈ shapes ∧ sh.elementId = s.elementId := by
    intro sh
    rw [List.mem_filter, beq_iff_eq]
  have hne := List.ne_nil_of_mem (hmem.2 ⟨hs, rfl⟩)
  obtain ⟨hlast, hid⟩ := hmem.1 (List.getLast_mem hne)
  rw [propertiesOf?, List.getLast?_eq_getLast_of_ne_nil hne, Option.map_some,
    List.inj_on_of_nodup_map hids hlast hs hid]

/-- Pointing a service task at the dispatcher leaves its metadata alone. -/
theorem extensions_routed (e : Element) : (routed e).extensions = e.extensions := by
  unfold routed
  split <;> rfl

/-- The raw element of a shape has its id and no metadata. -/
theorem id_of_elementOf? {raw : Element} (h : elementOf? s = some raw) :
    raw.id = s.elementId ∧ raw.extensions = {} := by
  obtain ⟨kind, -, rfl⟩ := Option.map_eq_some_iff.1 h
  exact ⟨rfl, rfl⟩

/-- **The metadata of an element comes from its own shape**, if shapes have
their element ids apart. -/
theorem extensions_finish (hids : (shapes.map (·.elementId)).Nodup) (hs : s ∈ shapes)
    {raw : Element} (hraw : elementOf? s = some raw) :
    (finish aliases shapes raw).extensions = (enrich aliases s.properties raw).extensions := by
  rw [finish, (id_of_elementOf? hraw).1, propertiesOf?_elementId hids hs]
  exact extensions_routed _

/-- The elements of a converted canvas stand for its shapes, one for one. -/
theorem exists_raw_of_mem_elements (h : convert settings c = .ok p)
    (hids : (c.nodeShapes.map (·.elementId)).Nodup) (hs : s ∈ c.nodeShapes) {e : Element}
    (he : e ∈ p.elements) (hid : e.id = s.elementId) :
    ∃ raw, elementOf? s = some raw ∧
      e.extensions = (enrich settings.fieldAliases s.properties raw).extensions := by
  rw [elements_of_convert h, ← filterMap_elementOf?_nodeShapes] at he
  obtain ⟨raw, hmem, rfl⟩ := List.mem_map.1 he
  obtain ⟨s', hs', hraw⟩ := List.mem_filterMap.1 hmem
  rw [id_finish, (id_of_elementOf? hraw).1] at hid
  obtain rfl := List.inj_on_of_nodup_map hids hs' hs hid
  exact ⟨raw, hraw, extensions_finish hids hs hraw⟩

/-- A shape of a known stencil has its element on the converted canvas. -/
theorem exists_mem_elements (h : convert settings c = .ok p) (hs : s ∈ c.nodeShapes)
    (hkind : (kind? s).isSome = true) : ∃ e ∈ p.elements, e.id = s.elementId := by
  obtain ⟨kind, hkind⟩ := Option.isSome_iff_exists.1 hkind
  obtain ⟨raw, hraw⟩ : ∃ raw, elementOf? s = some raw := by
    rw [elementOf?, hkind]
    exact ⟨_, rfl⟩
  refine ⟨finish settings.fieldAliases c.nodeShapes raw, ?_, ?_⟩
  · rw [elements_of_convert h, ← filterMap_elementOf?_nodeShapes]
    exact List.mem_map_of_mem (List.mem_filterMap.2 ⟨s, hs, hraw⟩)
  · rw [id_finish, (id_of_elementOf? hraw).1]

/-- **Metadata keeps to the shapes exactly where the custom fields are guarded.**
Under a key that is excluded from metadata stands what the nested custom
fields of the shape attach there. Under a reserved key the custom fields
come first, and the property of that name second. So nothing excluded
becomes metadata, and the reserved keys have the values of the shape, just
in case the custom fields of all shapes keep clear of these keys. -/
theorem reserved_kept_iff (settings : Settings) (c : Canvas) (p : Workflow)
    (h : convert settings c = .ok p) (hids : (c.nodeShapes.map (·.elementId)).Nodup) :
    (∀ s ∈ c.nodeShapes, ∀ e ∈ p.elements, e.id = s.elementId →
      (∀ key ∈ excludedKeys,
        e.extensions.get? key = customText? settings.fieldAliases s.properties key) ∧
      ∀ key ∈ metadataKeys,
        e.extensions.get? key = (customText? settings.fieldAliases s.properties key).or
          (ownText? s.properties key)) ∧
    ((∀ s ∈ c.nodeShapes, ∀ e ∈ p.elements, e.id = s.elementId →
        KeepsReserved s.properties e.extensions) ↔
      ∀ s ∈ c.nodeShapes, (kind? s).isSome = true →
        Guarded settings.fieldAliases s.properties) := by
  constructor
  · intro s hs e he hid
    obtain ⟨raw, hraw, hext⟩ := exists_raw_of_mem_elements h hids hs he hid
    have hbare := (id_of_elementOf? hraw).2
    constructor
    · intro key hkey
      rw [hext, get?_enrich_excluded hbare hkey]
    · intro key hkey
      rw [hext, get?_enrich_reserved hbare hkey]
  · constructor
    · intro hall s hs hkind
      obtain ⟨e, he, hid⟩ := exists_mem_elements h hs hkind
      obtain ⟨raw, hraw, hext⟩ := exists_raw_of_mem_elements h hids hs he hid
      have hkeeps := hall s hs e he hid
      rw [hext] at hkeeps
      exact (keepsReserved_enrich_iff (id_of_elementOf? hraw).2).1 hkeeps
    · intro hall s hs e he hid
      obtain ⟨raw, hraw, hext⟩ := exists_raw_of_mem_elements h hids hs he hid
      have hkind : (kind? s).isSome = true := by
        obtain ⟨kind, hkind, -⟩ := Option.map_eq_some_iff.1 hraw
        rw [hkind]
        rfl
      rw [hext]
      exact (keepsReserved_enrich_iff (id_of_elementOf? hraw).2).2 (hall s hs hkind)

end Shapes

/-- A service task with an operation, and with custom fields nested in it. -/
def nestedShape (custom : Table Json) : Shape where
  resourceId := "check"
  properties := [("customFields", .obj custom), ("delegationId", .str "Known")]
  stencil := "ServiceTask"
  bounds := ⟨⟨0, 0⟩, ⟨100, 60⟩⟩

/-- A canvas with that task alone. -/
def nestedCanvas (custom : Table Json) : Canvas where
  resourceId := Canvas.rootId
  properties := []
  stencil := Canvas.rootStencil
  childShapes := [nestedShape custom]
  bounds := ⟨⟨0, 0⟩, ⟨100, 60⟩⟩

/-- Its workflow with some metadata on the task. -/
def nestedWorkflow (entries : List (String × String)) : Workflow where
  id := Settings.Identity.standard.id
  name? := some Settings.Identity.standard.name
  namespaceUri? := some Settings.Identity.standard.namespaceUri
  elements :=
    [{ id := "check"
       kind := .serviceTask (some ⟨.className, Settings.dispatcherRef⟩) false true
       extensions := ⟨entries⟩
       bounds? := some ⟨⟨0, 0⟩, ⟨100, 60⟩⟩ }]

/-- A requested amount among the custom fields leaves the operation alone. -/
theorem nested_amount_kept :
    convert .standard (nestedCanvas [("AMOUNT", .int 5000)]) =
        .ok (nestedWorkflow [("delegationId", "Known"), ("requestedAmountLimit", "5000")]) ∧
      ∀ e ∈ (nestedWorkflow
          [("delegationId", "Known"), ("requestedAmountLimit", "5000")]).elements,
        KeepsReserved (nestedShape [("AMOUNT", .int 5000)]).properties e.extensions := by
  have hconvert : convert .standard (nestedCanvas [("AMOUNT", .int 5000)]) =
      .ok (nestedWorkflow [("delegationId", "Known"), ("requestedAmountLimit", "5000")]) := by
    rfl
  have hguarded : Guarded Settings.standard.fieldAliases
      (nestedShape [("AMOUNT", .int 5000)]).properties := by
    refine guarded_of_forall fun field hfield => ?_
    obtain rfl : field = ("AMOUNT", .int 5000) := List.mem_singleton.1 hfield
    decide
  obtain ⟨-, hiff⟩ := reserved_kept_iff .standard (nestedCanvas [("AMOUNT", .int 5000)]) _ hconvert
    (by decide)
  refine ⟨hconvert, fun e he => hiff.2 ?_ _ List.mem_cons_self e he ?_⟩
  · intro s hs _
    obtain rfl := List.mem_singleton.1 hs
    exact hguarded
  · obtain rfl := List.mem_singleton.1 he
    rfl

/-- **Nested custom fields take over.** They replace the operation that the
shape names, and bring in a structural key as metadata. -/
theorem nested_fields_take_over :
    ∃ c p, convert .standard c = .ok p ∧ (c.nodeShapes.map (·.elementId)).Nodup ∧
      ∃ s ∈ c.nodeShapes, ∃ e ∈ p.elements, e.id = s.elementId ∧
        ownText? s.properties "delegationId" = some "Known" ∧
        e.extensions.get? "delegationId" = some "Other" ∧
        "assignee" ∈ structuralKeys ∧ e.extensions.get? "assignee" = some "clerk" ∧
        ¬ KeepsReserved s.properties e.extensions := by
  refine ⟨nestedCanvas [("assignee", .str "clerk"), ("delegationId", .str "Other")],
    nestedWorkflow [("delegationId", "Other"), ("assignee", "clerk")], by rfl, by decide,
    _, List.mem_cons_self, _, List.mem_cons_self, rfl, by decide +kernel, by decide +kernel,
    by decide, by decide +kernel, fun h => ?_⟩
  exact h.excluded ("assignee", "clerk") (by decide) (by decide)

end Workflow

end WorkflowCanvas
