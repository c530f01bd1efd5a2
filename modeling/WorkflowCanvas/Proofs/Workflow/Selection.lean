import WorkflowCanvas.Proofs.Workflow.Metadata
/-!
# Selected fields

The fields that are selected at a node travel to the handler as one text: they
are joined by commas among the properties of the shape, trimmed on the way
into the metadata, and cut at the commas again by the handler. Trimming the
joined text changes no item (`listItems_trim`), and items without commas are
cut where they were joined (`listItems_intercalate`). So a handler reads the
selection of the node, as long as nothing else writes it
(`selection_survives`).
-/


namespace WorkflowCanvas

namespace Workflow

open Canvas (Uncovered)
open Operation (Context)
open Sketch (Node)

/-! ## Lists as texts -/

/-- The items of a text, as characters. -/
theorem listItems_eq (text : String) : listItems text =
    (Text.splitChars ',' text.toList).filterMap fun piece =>
      Text.nonBlank? (String.ofList piece) := by
  rw [listItems, Text.split, List.filterMap_map]
  exact List.filterMap_congr fun piece _ => Function.comp_apply

/-- **A list that is trimmed as a whole keeps its items.** -/
theorem listItems_trim (text : String) : listItems (Text.trim text) = listItems text := by
  have hpiece : ∀ {piece piece' : List Char}, Text.trimChars piece = Text.trimChars piece' →
      Text.nonBlank? (String.ofList piece) = Text.nonBlank? (String.ofList piece') := by
    intro piece piece' h
    simp only [Text.nonBlank?, Text.trim, String.toList_ofList, h]
  rw [listItems_eq, listItems_eq, Text.trim, String.toList_ofList]
  refine Text.eq_trimChars (fun cs => (Text.splitChars ',' cs).filterMap fun piece =>
    Text.nonBlank? (String.ofList piece)) (fun b cs hb => ?_) (fun cs b hb => ?_) text.toList
  · -- a blank in front belongs to the first item
    have hcomma : b ≠ ',' := fun h => absurd (h ▸ hb) (by decide)
    rw [Text.splitChars, if_neg hcomma]
    cases hcs : Text.splitChars ',' cs with
    | nil => exact absurd hcs (Text.splitChars_ne_nil ',' cs)
    | cons piece pieces =>
      simp only [List.filterMap_cons, hpiece (Text.trimChars_cons hb piece)]
  · -- and one behind to the last
    have hcomma : ',' ∉ [b] := fun h => absurd (List.mem_singleton.1 h ▸ hb) (by decide)
    obtain ⟨pieces, last, hcs, hmore⟩ := Text.exists_splitChars_append hcomma cs
    simp only [hcs, hmore, List.filterMap_append, List.filterMap_cons,
      hpiece (Text.trimChars_concat last hb)]

/-- **Items that are joined by commas are cut there again**, if they have no
commas themselves. -/
theorem listItems_intercalate {texts : List String} (h : ∀ text ∈ texts, ',' ∉ text.toList) :
    listItems (",".intercalate texts) = texts.filterMap Text.nonBlank? := by
  rcases texts.eq_nil_or_concat' with rfl | ⟨_, _, hconcat⟩
  · decide
  have hne : texts.map String.toList ≠ [] := by simp [hconcat]
  have hpieces : Text.splitChars ',' (",".intercalate texts).toList = texts.map String.toList := by
    rw [String.toList_intercalate, Text.splitChars_eq_splitOn]
    refine List.splitOn_intercalate ',' ?_ hne
    exact List.forall_mem_map.2 h
  rw [listItems_eq, hpieces, List.filterMap_map]
  refine List.filterMap_congr fun text _ => ?_
  rw [Function.comp_apply, String.ofList_toList]

/-- A text that is blank has no items, and trimming the others changes none. -/
theorem listItems_nonBlank? (text : String) :
    ((Text.nonBlank? text).map listItems).getD [] = listItems text := by
  have hempty : listItems "" = [] := by decide
  rw [← listItems_trim text, Text.nonBlank?]
  by_cases hblank : Text.trim text = ""
  · simp only [hblank, hempty, if_true, Option.map_none, Option.getD_none]
  · simp only [if_neg hblank, Option.map_some, Option.getD_some]

/-! ## The selection of a node -/

section Selection

variable {settings : Settings} {s : Sketch} {p : Workflow} {k : Nat} {n : Node}
  {texts : List String} {e : Element}

/-- The key of the selected fields. -/
def selectedKey : String := "selectedFields"

/-- **A key is left to the selected fields**: no other layer of the properties of
a node writes it, and no custom field nested in the defaults or in what is
merged over all layers goes by it. -/
structure Unwritten (settings : Settings) (n : Node) (key : String) : Prop where
  defaults : (settings.mappingFor n.typeTag?).properties.get? key = none
  parameters : ∀ field ∈ n.data.parameters, field.1 = key → Canvas.propertyText? field.2 = none
  /-- The custom fields and what is merged over all. -/
  uncovered : Uncovered settings n key
  nestedDefaults : ∀ fields,
    (settings.mappingFor n.typeTag?).properties.get? "customFields" = some (.obj fields) →
      ∀ field ∈ fields, Settings.aliasFor settings.fieldAliases field.1 ≠ key
  nestedOverrides : ∀ overrides, settings.nodeOverrides.get? n.id = some overrides →
    ∀ fields, ("customFields", Json.obj fields) ∈ overrides →
      ∀ field ∈ fields, Settings.aliasFor settings.fieldAliases field.1 ≠ key

theorem propertyTexts_map_str (texts : List String) :
    Canvas.propertyTexts (texts.map .str) = texts := by
  induction texts with
  | nil => rw [List.map_nil, Canvas.propertyTexts]
  | cons text rest ih => simp only [List.map_cons, Canvas.propertyTexts, Canvas.propertyText?, ih]

theorem attachedText?_str (text : String) : attachedText? (.str text) = Text.nonBlank? text := by
  rw [attachedText?, metadataText?_str]
  cases htext : Text.nonBlank? text with
  | none => rfl
  | some trimmed =>
    simp only [Option.filter_some, Text.nonBlank?_of_nonBlank? htext, Option.isSome_some, if_true]

/-- Selected fields that are written are attached as their trimmed text. -/
theorem ownText?_insertSelected {t : Table Json} (h : t.get? selectedKey = none)
    (tag? : Option String) {selected? : Option Json} {text : String}
    (hselected : selected?.bind Canvas.propertyText? = some text) :
    ownText? (Canvas.insertSelected t tag? selected?) selectedKey = Text.nonBlank? text := by
  rw [ownText?, Canvas.insertSelected, hselected]
  dsimp only
  split
  · next hempty => rw [h, hempty]; decide
  · rw [selectedKey, Table.get?_insert_self, Option.bind_some, attachedText?_str]

/-- Below the selected fields there is no value for the key. -/
theorem Unwritten.get?_below {key : String} (h : Unwritten settings n key)
    (hkey : key ∉ ["name", "delegationId", "delegationName", "delegationType"]) :
    (Canvas.insertTrimmed (Canvas.insertTrimmed (Canvas.lowerProperties settings n)
      "delegationName" n.data.delegationName?) "delegationType"
        n.data.delegationType?).get? key = none := by
  simp only [List.mem_cons, List.not_mem_nil, or_false, not_or] at hkey
  obtain ⟨hname, hid, hdelegationName, htype⟩ := hkey
  rw [Canvas.get?_insertTrimmed htype, Canvas.get?_insertTrimmed hdelegationName,
    Canvas.lowerProperties, Canvas.get?_insertTrimmed hid, Canvas.get?_insertTexts h.parameters,
    Canvas.get?_insertTrimmed hname]
  exact h.defaults

/-- No nested custom field attaches a text under the key. -/
theorem Unwritten.customText?_eq {key : String} (h : Unwritten settings n key)
    (degree : Canvas.Degree) :
    customText? settings.fieldAliases (Canvas.nodeProperties settings degree n) key = none := by
  refine textAmong?_eq_none fun field hfield hkey => ?_
  rw [customFields] at hfield
  cases hget : (Canvas.nodeProperties settings degree n).get? "customFields" with
  | none => rw [hget] at hfield; cases hfield
  | some v =>
    rw [hget] at hfield
    cases v with
    | obj fields =>
      rcases Canvas.hasKey_of_get?_nodeProperties hget ⟨field, hfield, rfl⟩ with
        ⟨below, hbelow, e, he, hsame⟩ | ⟨overrides, above, hoverrides, habove, e, he, hsame⟩
      · exact absurd (hsame ▸ hkey) (h.nestedDefaults below hbelow e he)
      · exact absurd (hsame ▸ hkey) (h.nestedOverrides overrides hoverrides above habove e he)
    | _ => cases hfield

/-- **The selection as a property** is the joined text. -/
theorem Unwritten.ownText?_selectedKey (h : Unwritten settings n selectedKey)
    (hselected : n.data.selectedFields? = some (.arr (texts.map .str))) (degree : Canvas.Degree) :
    ownText? (Canvas.nodeProperties settings degree n) selectedKey =
      Text.nonBlank? (",".intercalate texts) := by
  have hjoined : n.data.selectedFields?.bind Canvas.propertyText? =
      some (",".intercalate texts) := by
    rw [hselected, Option.bind_some, Canvas.propertyText?, propertyTexts_map_str]
  rw [ownText?, h.uncovered.get?_nodeProperties_of_ne (by decide)]
  exact ownText?_insertSelected (h.get?_below (by decide)) n.typeTag? hjoined

/-! ## The selection at the handler -/

/-- **A reserved key of an element** has what the node that supplies it says: its
nested custom fields first, its property second. -/
theorem lists_metadata (h : convert settings (Canvas.ofSketch settings s) = .ok p) {key : String}
    (hkey : key ∈ metadataKeys) :
    Lists (fun k n => s.Accepts k n ∧ (kindOf? settings n).isSome = true)
      (fun n e => IsElementOf settings s n e ∧ ∃ m, Supplies settings s n m ∧
        e.extensions.get? key =
          (customText? settings.fieldAliases
              (Canvas.nodeProperties settings (Canvas.degree s m.id) m) key).or
            (ownText? (Canvas.nodeProperties settings (Canvas.degree s m.id) m) key))
      p.elements := by
  rw [elements_of_convert h]
  refine (lists_elementOf? settings s).map fun k n raw ⟨hn, hkind⟩ hraw =>
    ⟨isElementOf_finish hraw _ _, ?_⟩
  obtain ⟨m, hm, hproperties⟩ := exists_supplies hn (isNodeShaped_of_isSome hkind)
  obtain ⟨hid, hbare⟩ := id_of_elementOf? hraw
  have hproperties' : propertiesOf? (Canvas.ofSketch settings s).nodeShapes raw.id =
      some (Canvas.nodeProperties settings (Canvas.degree s m.id) m) := hid ▸ hproperties
  refine ⟨m, hm, ?_⟩
  rw [finish, hproperties', extensions_routed, get?_enrich_reserved hbare hkey]

/-- **What an element has under a reserved key** is what its own node says there,
if no other node has an element of its id. -/
theorem own_metadata (h : convert settings (Canvas.ofSketch settings s) = .ok p) {key : String}
    (hkey : key ∈ metadataKeys)
    (hunique : ∀ j m, s.Accepts j m → IsNodeShaped settings m →
      nodeId settings s m = nodeId settings s n → m = n)
    (he : e ∈ p.elements) (hid : e.id = nodeId settings s n) :
    IsElementOf settings s n e ∧ e.extensions.get? key =
      (customText? settings.fieldAliases
          (Canvas.nodeProperties settings (Canvas.degree s n.id) n) key).or
        (ownText? (Canvas.nodeProperties settings (Canvas.degree s n.id) n) key) := by
  obtain ⟨j, m, ⟨hm, hmkind⟩, hof, l, hl, hget⟩ := (lists_metadata h hkey).exists_of_mem he
  obtain rfl := hunique j m hm (isNodeShaped_of_isSome hmkind) (hof.id.symm.trans hid)
  -- the only shape with the id supplies its metadata
  obtain ⟨i, hi, hishaped, hisame, -⟩ := hl
  obtain rfl := hunique i l hi hishaped hisame
  exact ⟨hof, hget⟩

/-- A sketch with an accepted node of a known stencil is converted. -/
theorem exists_convert (hn : s.Accepts k n) (hkind : (kindOf? settings n).isSome = true) :
    ∃ p, convert settings (Canvas.ofSketch settings s) = .ok p := by
  have hne : ¬ (Canvas.ofSketch settings s).nodeShapes.isEmpty = true := fun hempty =>
    List.ne_nil_of_mem (mem_nodeShapes hn hkind) (List.isEmpty_iff.1 hempty)
  rw [convert_eq, if_neg hne]
  exact ⟨_, rfl⟩

/-- An accepted node of a known stencil has an element under its id. -/
theorem exists_element? (h : convert settings (Canvas.ofSketch settings s) = .ok p)
    (hn : s.Accepts k n) (hkind : (kindOf? settings n).isSome = true) :
    ∃ e ∈ p.elements, p.element? (nodeId settings s n) = some e ∧ e.id = nodeId settings s n := by
  obtain ⟨e, he, hof⟩ := (lists_elements h).exists_mem ⟨hn, hkind⟩
  have hsome : (p.element? (nodeId settings s n)).isSome = true :=
    List.find?_isSome.2 ⟨e, he, by simpa using hof.id⟩
  obtain ⟨e', he'⟩ := Option.isSome_iff_exists.1 hsome
  exact ⟨e', List.mem_of_find?_eq_some he', he', beq_iff_eq.1 (List.find?_some he' :)⟩

/-- **A selection survives.** An accepted node of a known stencil has an element
under its id. If the id is its own, the node selects some texts without
commas and nothing else selects fields at it, a handler that runs for the
element reads these texts, trimmed and without the blank ones, in their order
and as often as they come. -/
theorem selection_survives (settings : Settings) (s : Sketch) {k : Nat} {n : Node}
    {texts : List String} (hn : s.Accepts k n) (hkind : (kindOf? settings n).isSome = true)
    (hunique : ∀ j m, s.Accepts j m → IsNodeShaped settings m →
      nodeId settings s m = nodeId settings s n → m = n)
    (hselected : n.data.selectedFields? = some (.arr (texts.map .str)))
    (hcommas : ∀ text ∈ texts, ',' ∉ text.toList) (hleft : Unwritten settings n selectedKey) :
    ∃ p, convert settings (Canvas.ofSketch settings s) = .ok p ∧
      (∃ e, p.element? (nodeId settings s n) = some e ∧ IsElementOf settings s n e) ∧
      ∀ e ∈ p.elements, e.id = nodeId settings s n → ∀ c : Context, c.step = e →
        c.extensionList selectedKey = texts.filterMap Text.nonBlank? := by
  obtain ⟨p, hp⟩ := exists_convert hn hkind
  have hown : ∀ e ∈ p.elements, e.id = nodeId settings s n → IsElementOf settings s n e ∧
      e.extensions.get? selectedKey = Text.nonBlank? (",".intercalate texts) := by
    intro e he hid
    obtain ⟨hof, hget⟩ := own_metadata hp (show selectedKey ∈ metadataKeys by decide) hunique he hid
    rw [hleft.customText?_eq, Option.none_or, hleft.ownText?_selectedKey hselected] at hget
    exact ⟨hof, hget⟩
  refine ⟨p, hp, ?_, fun e he hid c hc => ?_⟩
  · obtain ⟨e, he, hfind, hid⟩ := exists_element? hp hn hkind
    exact ⟨e, hfind, (hown e he hid).1⟩
  · rw [Context.extensionList, Context.extension?, hc, (hown e he hid).2, listItems_nonBlank?,
      listItems_intercalate hcommas]

end Selection

/-- A step with a selection that has blanks around an item and inside it, blank
items, and an item twice. -/
def pickNode : Node where
  id := "pick"
  outerTag? := "service"
  data := { selectedFields? := some (.arr
    ([" due date ", "", "rate", "\t", "rate"].map .str)) }

/-- A sketch with that step. -/
def pickSketch : Sketch where
  nodes := [pickNode, { id := "g", outerTag? := "end" }]
  edges := [{ id := "a", source := "pick", target := "g" }]

/-- Under the standard settings nothing else selects fields. -/
theorem unwritten_pickNode : Unwritten .standard pickNode selectedKey where
  defaults := by
    have hnone : ((Settings.standard.mappingFor pickNode.typeTag?).properties.get?
        selectedKey).isNone = true := by decide +kernel
    exact Option.isNone_iff_eq_none.1 hnone
  parameters _ h := nomatch h
  uncovered := ⟨fun _ h => (nomatch h), fun _ h => (nomatch h)⟩
  nestedDefaults fields hfields := by
    have hnone : ((Settings.standard.mappingFor pickNode.typeTag?).properties.get?
        "customFields").isNone = true := by decide +kernel
    rw [hfields] at hnone
    cases hnone
  nestedOverrides _ h := nomatch h

/-- The handler of the step reads the three items that are not blank. -/
theorem picked_fields_read :
    pickSketch.Accepts 0 pickNode ∧
      ∃ p, convert .standard (Canvas.ofSketch .standard pickSketch) = .ok p ∧
        (∃ e, p.element? "pick" = some e ∧ IsElementOf .standard pickSketch pickNode e) ∧
        ∀ e ∈ p.elements, e.id = "pick" → ∀ c : Context, c.step = e →
          c.extensionList selectedKey = ["due date", "rate", "rate"] := by
  have haccepts : pickSketch.Accepts 0 pickNode :=
    Sketch.accepts_iff_first.2 ⟨rfl, by decide, fun j hj => absurd hj (Nat.not_lt_zero j)⟩
  have hid : nodeId .standard pickSketch pickNode = "pick" := by decide +kernel
  have hunique : ∀ j m, pickSketch.Accepts j m → IsNodeShaped .standard m →
      nodeId .standard pickSketch m = nodeId .standard pickSketch pickNode → m = pickNode := by
    intro j m hm _ hsame
    have hmem := List.mem_of_getElem? hm.getElem?
    simp only [pickSketch, List.mem_cons, List.not_mem_nil, or_false] at hmem
    rcases hmem with rfl | rfl
    · rfl
    · exact absurd hsame (by decide +kernel)
  obtain ⟨p, hp, he, hread⟩ := selection_survives .standard pickSketch haccepts
    (by decide +kernel) hunique rfl (by decide) unwritten_pickNode
  rw [hid] at he hread
  have hitems : [" due date ", "", "rate", "\t", "rate"].filterMap Text.nonBlank? =
      ["due date", "rate", "rate"] := by decide
  exact ⟨haccepts, p, hp, he, fun e hmem hsame c hc => (hread e hmem hsame c hc).trans hitems⟩

end Workflow

end WorkflowCanvas
