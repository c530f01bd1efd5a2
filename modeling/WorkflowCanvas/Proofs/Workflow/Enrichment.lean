import WorkflowCanvas.Proofs.Json.Lexemes
import WorkflowCanvas.Proofs.Workflow.Metadata
/-!
# The elements of a converted canvas

A value that has a text as metadata has one that is not blank
(`isSome_nonBlank?_metadataText?`), so the passes that attach metadata skip
nothing that has a text, and leave nothing blank. They write each key in one
place (`Extensions.Tidy`). As an element finds the properties of its own shape,
what it carries under a key is known exactly (`IsEnriched`), and all else
about it is as it was read off the canvas (`elements_enriched`).
-/


namespace WorkflowCanvas

/-! ## Texts that are not blank -/

namespace Document

theorem exists_not_blank_toString (n : Int) :
    ∃ c ∈ (toString n).toList, Text.isBlank c = false := by
  have hdigits : ∀ m : Nat, ∃ c ∈ Nat.toDigits 10 m, Text.isBlank c = false := by
    intro m
    obtain ⟨c, hc⟩ := List.exists_mem_of_ne_nil _ (Nat.toDigits_ne_nil (b := 10) (n := m))
    exact ⟨c, hc, Text.isBlank_of_isDigit (Nat.isDigit_of_mem_toDigits (by omega) le_rfl hc)⟩
  rw [Int.toString_eq_repr, Int.repr_eq_if]
  split
  · rw [Nat.toList_repr]
    exact hdigits _
  · exact ⟨'-', by simp, by decide⟩

theorem exists_not_blank_numeral (x : Float) :
    ∃ c ∈ (Decimal.numeral x).toList, Text.isBlank c = false := by
  have hsigned : ∀ (negative : Bool) (cs : List Char) (c : Char), c ∈ cs →
      c ∈ (Decimal.signed negative cs).toList := by
    intro negative cs c hc
    cases negative <;> simp [Decimal.signed, hc]
  unfold Decimal.numeral
  dsimp only
  split
  · exact ⟨'.', hsigned _ _ _ (by decide), by decide⟩
  · split
    · exact ⟨'.', hsigned _ _ _ (by simp), by decide⟩
    · exact ⟨'e', hsigned _ _ _ (by simp [Decimal.scientific]), by decide⟩

/-- **No value is written as a blank.** -/
theorem isSome_nonBlank?_compact (d : Document) : (Text.nonBlank? d.compact).isSome = true := by
  rw [Text.isSome_nonBlank?_iff]
  cases d with
  | null => exact ⟨'n', by decide, by decide⟩
  | unreadable => exact ⟨'n', by decide, by decide⟩
  | bool b =>
    cases b with
    | false => exact ⟨'f', by decide, by decide⟩
    | true => exact ⟨'t', by decide, by decide⟩
  | int n => exact exists_not_blank_toString n
  | float x => exact exists_not_blank_numeral x
  | str s =>
    refine ⟨'"', ?_, by decide⟩
    rw [compact, toList_quoted]
    exact List.mem_cons_self
  | arr items => exact ⟨'[', by simp [compact], by decide⟩
  | obj fields => exact ⟨'\x7b', by simp [compact], by decide⟩

end Document

namespace Workflow

open Canvas (Shape)

mutual

/-- **A value is attached with a text that is not blank**, or not at all. -/
theorem isSome_nonBlank?_metadataText? : ∀ {v : Json} {text : String},
    metadataText? v = some text → (Text.nonBlank? text).isSome = true
  | .null, _, h => by
    rw [metadataText?] at h
    cases h
  | .bool _, _, h | .int _, _, h | .float _, _, h | .obj _, _, h => by
    rw [metadataText?] at h
    cases h
    exact Document.isSome_nonBlank?_compact _
  | .str s, text, h => by
    have htrimmed : Text.nonBlank? s = some text := by
      rw [metadataText?] at h
      exact h
    rw [Text.nonBlank?_of_nonBlank? htrimmed]
    rfl
  | .arr items, text, h => by
    rw [metadataText?] at h
    split at h
    · cases h
    · next hne =>
      cases h
      -- the first text is not blank, and the others come behind it
      rcases htexts : metadataTexts items with _ | ⟨first, rest⟩
      · rw [htexts] at hne
        exact absurd rfl hne
      · have hfirst : first ∈ metadataTexts items := htexts ▸ List.mem_cons_self
        obtain ⟨c, hc, hblank⟩ :=
          Text.isSome_nonBlank?_iff.1 (isSome_nonBlank?_of_mem_metadataTexts hfirst)
        refine Text.isSome_nonBlank?_iff.2 ⟨c, ?_, hblank⟩
        cases rest with
        | nil => exact hc
        | cons second rest =>
          rw [String.intercalate_cons_cons, String.toList_append, String.toList_append]
          exact List.mem_append_left _ (List.mem_append_left _ hc)

theorem isSome_nonBlank?_of_mem_metadataTexts : ∀ {items : List Json} {text : String},
    text ∈ metadataTexts items → (Text.nonBlank? text).isSome = true
  | [], _, h => by
    rw [metadataTexts] at h
    cases h
  | v :: vs, text, h => by
    rw [metadataTexts] at h
    split at h
    · next found hfound =>
      rcases List.mem_cons.1 h with rfl | h
      · exact isSome_nonBlank?_metadataText? hfound
      · exact isSome_nonBlank?_of_mem_metadataTexts h
    · exact isSome_nonBlank?_of_mem_metadataTexts h

end

/-- No text is too blank to be attached. -/
theorem attachedText?_eq : attachedText? = metadataText? := by
  funext v
  unfold attachedText?
  rcases h : metadataText? v with _ | text
  · rfl
  · rw [Option.filter_some, if_pos (isSome_nonBlank?_metadataText? h)]

/-! ## Metadata in good order -/

variable {aliases : Table String} {properties : Table Json} {rename : String → String}
variable {x : Extensions} {e raw : Element} {key : String} {shapes : List Shape} {s : Shape}

theorem tidy_attach (h : x.Tidy) (rename : String → String) (fields : List (String × Json)) :
    (attach rename x fields).Tidy := by
  induction fields generalizing x with
  | nil => exact h
  | cons field rest ih =>
    refine ih (x := x.setSome (rename field.1) (metadataText? field.2)) ?_
    rcases metadataText? field.2 with _ | text
    · exact h
    · exact h.set _ _

/-- The metadata of an element is in good order, if it had none before. -/
theorem tidy_enrich (he : e.extensions = {}) : (enrich aliases properties e).extensions.Tidy := by
  have hempty : e.extensions.Tidy := by
    rw [he]
    exact ⟨List.nodup_nil, List.forall_mem_nil _⟩
  exact tidy_attach (tidy_attach (tidy_attach hempty _ _) _ _) _ _

/-! ## The metadata of an element -/

/-- The fields of a table attach their own texts under the keys that are let
through. -/
theorem textAmong?_filter (hsorted : properties.Sorted) (p : String → Bool) (key : String) :
    textAmong? (fun key => key) (properties.filter fun field => p field.1) key =
      if p key = true then (properties.get? key).bind attachedText? else none := by
  induction properties with
  | nil => exact (ite_self _).symm
  | cons field rest ih =>
    obtain ⟨hhead, hrest⟩ := List.pairwise_cons.1 hsorted
    have hstep : textAmong? (fun key => key)
        (List.filter (fun field => p field.1) (field :: rest)) key =
          (if p key = true then (Table.get? rest key).bind attachedText? else none).or
            (if field.1 = key ∧ p field.1 = true then attachedText? field.2 else none) := by
      rw [← ih hrest, List.filter_cons]
      by_cases hp : p field.1 = true
      · simp only [hp, if_true, textAmong?_cons, and_true]
      · simp only [hp, if_false, and_false, Option.or_none, Bool.false_eq_true]
    rw [hstep]
    by_cases hkey : field.1 = key
    · subst hkey
      -- the key does not come again
      have hnone : Table.get? rest field.1 = none :=
        Table.get?_eq_none_iff.2 fun e he => ne_of_gt (hhead e he)
      rw [hnone]
      by_cases hp : p field.1 = true <;> simp [Table.get?, hp]
    · have hskip : Table.get? (field :: rest) key = Table.get? rest key := by
        simp [Table.get?, hkey]
      have hnot : ¬ (field.1 = key ∧ p field.1 = true) := fun h => hkey h.1
      rw [if_neg hnot, Option.or_none, hskip]

/-- The text of the last nested custom field under a key, among those that have
a text. The fields of an object are in the order of their keys. -/
def nestedText? (aliases : Table String) (properties : Table Json) (key : String) :
    Option String :=
  ((customFields properties).filterMap fun field =>
    if Settings.aliasFor aliases field.1 = key then metadataText? field.2 else none).getLast?

/-- The text of the property under a key, if the key is not excluded. -/
def plainText? (properties : Table Json) (key : String) : Option String :=
  if key ∈ excludedKeys then none else (properties.get? key).bind metadataText?

/-- A key is excluded, attached under its own rules, or free. -/
theorem isFreeForm_of_not_mem (hexcluded : key ∉ excludedKeys) (hmetadata : key ∉ metadataKeys) :
    isFreeForm key = true := by
  simp only [excludedKeys, metadataKeys, List.mem_cons, List.not_mem_nil, or_false, not_or]
    at hexcluded hmetadata
  simp [isFreeForm, reservedKeys, hexcluded, hmetadata]

/-- **What an element gets under a key**: the text of the last custom field
there, or else that of the property. -/
theorem get?_enrich_eq (he : e.extensions = {}) (hsorted : properties.Sorted) (key : String) :
    (enrich aliases properties e).extensions.get? key =
      (nestedText? aliases properties key).or (plainText? properties key) := by
  have hnested : customText? aliases properties key = nestedText? aliases properties key := by
    simp only [customText?, textAmong?, attachedText?_eq, nestedText?]
  have hnone : e.extensions.get? key = none := by
    rw [he]
    rfl
  have hpasses : (enrich aliases properties e).extensions.get? key =
      (customText? aliases properties key).or
        ((textAmong? (fun key => key) (fieldsAt properties metadataKeys) key).or
          ((textAmong? (fun key => key) (properties.filter fun field => isFreeForm field.1) key).or
            (e.extensions.get? key))) := by
    show (attach _ _ (customFields properties)).get? key = _
    rw [get?_attach, get?_attach, get?_attach]
    rfl
  rw [hpasses, hnested, textAmong?_fieldsAt, textAmong?_filter hsorted, hnone,
    Option.or_none, attachedText?_eq, plainText?]
  congr 1
  by_cases hexcluded : key ∈ excludedKeys
  · obtain ⟨hform, hkeys⟩ := isFreeForm_of_mem_excludedKeys hexcluded
    simp [hexcluded, hform, hkeys]
  · by_cases hkeys : key ∈ metadataKeys
    · simp [hexcluded, hkeys, isFreeForm_of_mem_metadataKeys hkeys]
    · simp [hexcluded, hkeys, isFreeForm_of_not_mem hexcluded hkeys]

/-! ## The elements of a canvas -/

/-- What an element does once it is converted: a service task runs through the
dispatcher. -/
def dispatched : ElementKind → ElementKind
  | .serviceTask _ asynchronous exclusive =>
    .serviceTask (some ⟨.className, Settings.dispatcherRef⟩) asynchronous exclusive
  | kind => kind

theorem routed_eq (e : Element) : routed e = { e with kind := dispatched e.kind } := by
  obtain ⟨id, name?, kind, documentation?, extensions, bounds?⟩ := e
  cases kind <;> rfl

/-- **An element with the metadata of a shape**, given the element as it was
read off the shape. -/
structure IsEnriched (aliases : Table String) (properties : Table Json) (raw e : Element) :
    Prop where
  id : e.id = raw.id
  documentation : e.documentation? = raw.documentation?
  bounds : e.bounds? = raw.bounds?
  kind : e.kind = dispatched raw.kind
  name : e.name? = ((properties.get? "name").bind metadataText?).or raw.name?
  metadata : ∀ key, e.extensions.get? key =
    (nestedText? aliases properties key).or (plainText? properties key)
  tidy : e.extensions.Tidy

/-- **An element gets the metadata of its own shape**, if shapes have their
element ids apart. -/
theorem isEnriched_finish (hids : (shapes.map (·.elementId)).Nodup) (hs : s ∈ shapes)
    (hsorted : s.properties.Sorted) (hraw : elementOf? s = some raw) :
    IsEnriched aliases s.properties raw (finish aliases shapes raw) := by
  obtain ⟨hid, hbare⟩ := id_of_elementOf? hraw
  have hfinish : finish aliases shapes raw = routed (enrich aliases s.properties raw) := by
    rw [finish, hid, propertiesOf?_elementId hids hs]
  rw [hfinish, routed_eq]
  exact
    { id := rfl
      documentation := rfl
      bounds := rfl
      kind := rfl
      name := rfl
      metadata := get?_enrich_eq hbare hsorted
      tidy := tidy_enrich hbare }

/-- **A converted canvas is the workflow that was read off it**, under the
identity that was asked for and with each element enriched from its own
shape, whatever the aliases of custom fields are. Ids, order, flows,
documentation and bounds are those that were read; so are kinds, but that a
service task runs through the dispatcher in any case. The name of an element
is the text of the property of its shape, if it has one. Under each key stands
the text of the last nested custom field that leads there, or else that of the
property of that name; properties of the structure, the name, and the custom
fields as a whole are no metadata. Where nothing was read, the conversion
fails. The properties of a shape are sorted, as all tables are. -/
theorem elements_enriched (identity : Settings.Identity) (aliases : Table String) (c : Canvas)
    (hids : (c.nodeShapes.map (·.elementId)).Nodup)
    (hsorted : ∀ s ∈ c.nodeShapes, s.properties.Sorted) :
    (structural c = [] →
      convertWith structural identity aliases c = .error .emptyConversion) ∧
    ∀ built others, structural c = built :: others →
      ∃ p, convertWith structural identity aliases c = .ok p ∧
        p.id = identity.id ∧ p.name? = some identity.name ∧
        p.namespaceUri? = some identity.namespaceUri ∧ p.flows = built.flows ∧
        List.Forall₂ (fun raw e => ∃ s ∈ c.nodeShapes, elementOf? s = some raw ∧
          IsEnriched aliases s.properties raw e) built.elements p.elements := by
  constructor
  · intro hnone
    rw [convertWith, hnone]
  · intro built others hbuilt
    have helements : built.elements = c.nodeShapes.filterMap elementOf? := by
      unfold structural at hbuilt
      split at hbuilt
      · cases hbuilt
      · cases hbuilt
        rfl
    refine ⟨{ built with
        id := identity.id
        name? := some identity.name
        namespaceUri? := some identity.namespaceUri
        elements := built.elements.map (finish aliases c.nodeShapes) },
      by rw [convertWith, hbuilt], rfl, rfl, rfl, rfl, ?_⟩
    refine List.forall₂_map_right_iff.2 (List.forall₂_same.2 fun raw hraw => ?_)
    rw [helements] at hraw
    obtain ⟨s, hs, hread⟩ := List.mem_filterMap.1 hraw
    exact ⟨s, hs, hread, isEnriched_finish hids hs (hsorted s hs) hread⟩

/-- A service task with properties of all sorts, a custom field without a text
among them. -/
def rateShape : Shape where
  resourceId := "rate"
  properties :=
    [("channel", .arr [.str " branch ", .str " ", .int 7]),
     ("customFields", .obj [("AMOUNT", .int 5000), ("requestedAmountLimit", .str " ")]),
     ("delegationId", .str "Rate"), ("name", .str " Rate it "),
     ("servicetaskclass", .str "com.example.Direct")]
  stencil := "ServiceTask"
  bounds := ⟨⟨0, 0⟩, ⟨100, 60⟩⟩

/-- A canvas with that task alone. -/
def rateCanvas : Canvas where
  resourceId := Canvas.rootId
  properties := []
  stencil := Canvas.rootStencil
  childShapes := [rateShape]
  bounds := ⟨⟨0, 0⟩, ⟨100, 60⟩⟩

/-- The task gets its texts trimmed and joined, the amount under its alias, and
runs through the dispatcher and not through its class. -/
theorem rate_enriched :
    (rateCanvas.nodeShapes.map (·.elementId)).Nodup ∧
    (∀ s ∈ rateCanvas.nodeShapes, s.properties.Sorted) ∧
    ∃ p e, convertWith structural .standard Settings.standard.fieldAliases rateCanvas = .ok p ∧
      p.id = "ConvertedProcess" ∧ p.elements = [e] ∧ e.id = "rate" ∧ e.name? = some "Rate it" ∧
      e.kind = .serviceTask (some ⟨.className, Settings.dispatcherRef⟩) false true ∧
      e.extensions.get? "channel" = some "branch,7" ∧
      e.extensions.get? "requestedAmountLimit" = some "5000" ∧
      e.extensions.get? "servicetaskclass" = none ∧ e.extensions.Tidy := by
  have hids : (rateCanvas.nodeShapes.map (·.elementId)).Nodup := by decide
  have hsorted : ∀ s ∈ rateCanvas.nodeShapes, s.properties.Sorted := by
    intro s hs
    obtain rfl := List.mem_singleton.1 hs
    unfold Table.Sorted
    decide
  refine ⟨hids, hsorted, ?_⟩
  obtain ⟨p, hp, hid, -, -, -, hall⟩ := (elements_enriched .standard
    Settings.standard.fieldAliases rateCanvas hids hsorted).2 _ _ rfl
  rcases helements : p.elements with _ | ⟨e, rest⟩
  · rw [helements] at hall
    cases hall
  · rw [helements] at hall
    obtain ⟨⟨s, hs, hread, he⟩, hrest⟩ := List.forall₂_cons.1 hall
    cases hrest
    obtain rfl := List.mem_singleton.1 hs
    refine ⟨p, e, hp, hid, helements, he.id, he.name.trans ?_, he.kind, (he.metadata _).trans ?_,
      (he.metadata _).trans ?_, (he.metadata _).trans ?_, he.tidy⟩
    all_goals decide +kernel

end Workflow

end WorkflowCanvas
