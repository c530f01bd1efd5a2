import WorkflowCanvas.Proofs.Json.CompactText
import WorkflowCanvas.Proofs.Table
import WorkflowCanvas.Settings.Overlay
/-!
# Overlays that are rejected

Settings hold values at places: the parts of the identity, the entries of the
tables, the margin. An overlay is a list of changes, each of which writes a
value at one place. They are applied in their order up to the first that is
rejected (`apply_eq`), so a rejected overlay has written what stands before
that. It leaves the settings as they were exactly if none of this is new
(`unchanged_iff`).
-/


namespace WorkflowCanvas

namespace Settings

/-! ## Places -/

/-- A place in the settings. -/
inductive Place where
  | workflowId
  | workflowName
  | namespaceUri
  | nodeType (tag : String)
  | nodeOverride (node : String)
  | edgeOverride (edge : String)
  | margin
  | fieldAlias (field : String)
deriving DecidableEq

/-- What can stand at a place. -/
inductive Value where
  | text (s : String)
  | mapping (m : Mapping)
  | properties (t : Table Json)
  | margin (x : Float)

/-- What stands at a place. -/
def at? (s : Settings) : Place → Option Value
  | .workflowId => some (.text s.identity.id)
  | .workflowName => some (.text s.identity.name)
  | .namespaceUri => some (.text s.identity.namespaceUri)
  | .nodeType tag => (s.nodeTypes.get? tag).map .mapping
  | .nodeOverride node => (s.nodeOverrides.get? node).map .properties
  | .edgeOverride edge => (s.edgeOverrides.get? edge).map .properties
  | .margin => some (.margin s.boundsPadding)
  | .fieldAlias field => (s.fieldAliases.get? field).map .text

/-- The tables of the settings are sorted by key. -/
structure IsSorted (s : Settings) : Prop where
  nodeTypes : s.nodeTypes.Sorted
  nodeOverrides : s.nodeOverrides.Sorted
  edgeOverrides : s.edgeOverrides.Sorted
  fieldAliases : s.fieldAliases.Sorted

theorem isSorted_standard : standard.IsSorted where
  nodeTypes := by
    rw [standard, Table.Sorted]
    decide +kernel
  nodeOverrides := List.Pairwise.nil
  edgeOverrides := List.Pairwise.nil
  fieldAliases := List.pairwise_singleton _ _

/-- **Settings are what stands at their places**, and the mapping for all other
node types. -/
theorem IsSorted.ext {s s' : Settings} (h : s.IsSorted) (h' : s'.IsSorted)
    (hfallback : s.fallback = s'.fallback) (hat : ∀ p, s.at? p = s'.at? p) : s = s' := by
  have hmap : ∀ {α : Type} {f : α → Value} {x y : Option α}, (∀ a b, f a = f b → a = b) →
      x.map f = y.map f → x = y := fun hf heq => Option.map_injective (fun a b => hf a b) heq
  obtain ⟨⟨id, name, uri⟩, types, fallback, nodes, edges, margin, aliases⟩ := s
  obtain ⟨⟨id', name', uri'⟩, types', fallback', nodes', edges', margin', aliases'⟩ := s'
  obtain rfl : fallback = fallback' := hfallback
  obtain rfl : id = id' := Value.text.inj (Option.some.inj (hat .workflowId))
  obtain rfl : name = name' := Value.text.inj (Option.some.inj (hat .workflowName))
  obtain rfl : uri = uri' := Value.text.inj (Option.some.inj (hat .namespaceUri))
  obtain rfl : margin = margin' := Value.margin.inj (Option.some.inj (hat .margin))
  obtain rfl : types = types' := h.nodeTypes.ext h'.nodeTypes fun tag =>
    hmap (fun _ _ => Value.mapping.inj) (hat (.nodeType tag))
  obtain rfl : nodes = nodes' := h.nodeOverrides.ext h'.nodeOverrides fun node =>
    hmap (fun _ _ => Value.properties.inj) (hat (.nodeOverride node))
  obtain rfl : edges = edges' := h.edgeOverrides.ext h'.edgeOverrides fun edge =>
    hmap (fun _ _ => Value.properties.inj) (hat (.edgeOverride edge))
  obtain rfl : aliases = aliases' := h.fieldAliases.ext h'.fieldAliases fun field =>
    hmap (fun _ _ => Value.text.inj) (hat (.fieldAlias field))
  rfl

/-! ## Changes -/

/-- **One change to settings**, as an overlay lists them. -/
inductive Change where
  | workflowId (id : String)
  | workflowName (name : String)
  | namespaceUri (uri : String)
  | nodeType (tag : String) (mapping : Mapping)
  | nodeOverride (node : String) (properties : Table Json)
  | edgeOverride (edge : String) (properties : Table Json)
  | margin (x : Float)
  | fieldAlias (field key : String)

namespace Change

/-- Where a change writes. Tags of node types are told apart in lower case. -/
def place : Change → Place
  | .workflowId _ => .workflowId
  | .workflowName _ => .workflowName
  | .namespaceUri _ => .namespaceUri
  | .nodeType tag _ => .nodeType (Text.toLower tag)
  | .nodeOverride node _ => .nodeOverride node
  | .edgeOverride edge _ => .edgeOverride edge
  | .margin _ => .margin
  | .fieldAlias field _ => .fieldAlias field

/-- What a change writes. -/
def value : Change → Value
  | .workflowId id => .text id
  | .workflowName name => .text name
  | .namespaceUri uri => .text uri
  | .nodeType _ mapping => .mapping mapping
  | .nodeOverride _ properties => .properties properties
  | .edgeOverride _ properties => .properties properties
  | .margin x => .margin x
  | .fieldAlias _ key => .text key

/-- Why a change is rejected. -/
def failure? : Change → Option Failure
  | .nodeType tag mapping =>
    if (Text.nonBlank? mapping.stencil).isNone then some (.blankStencil tag) else none
  | .margin x => if isMargin x then none else some (.invalidPadding x)
  | _ => none

/-- The settings with the change. -/
def applyTo (s : Settings) : Change → Settings
  | .workflowId id => { s with identity := { s.identity with id } }
  | .workflowName name => { s with identity := { s.identity with name } }
  | .namespaceUri uri => { s with identity := { s.identity with namespaceUri := uri } }
  | .nodeType tag mapping => { s with nodeTypes := s.nodeTypes.insert (Text.toLower tag) mapping }
  | .nodeOverride node properties =>
    { s with nodeOverrides := s.nodeOverrides.insert node properties }
  | .edgeOverride edge properties =>
    { s with edgeOverrides := s.edgeOverrides.insert edge properties }
  | .margin x => { s with boundsPadding := x }
  | .fieldAlias field key => { s with fieldAliases := s.fieldAliases.insert field key }

/-- **A change writes at its place**, and nowhere else. -/
theorem at?_applyTo (s : Settings) (c : Change) (p : Place) :
    (c.applyTo s).at? p = if p = c.place then some c.value else s.at? p := by
  have htable : ∀ {α : Type} (f : α → Value) (t : Table α) (k j : String) (v : α),
      ((t.insert k v).get? j).map f = if j = k then some (f v) else (t.get? j).map f := by
    intro α f t k j v
    by_cases hj : j = k
    · rw [if_pos hj, hj, Table.get?_insert_self, Option.map_some]
    · rw [if_neg hj, Table.get?_insert_of_ne _ _ hj]
  cases c <;> cases p <;> simp [applyTo, at?, place, value, htable]

theorem fallback_applyTo (s : Settings) (c : Change) : (c.applyTo s).fallback = s.fallback := by
  cases c <;> rfl

end Change

theorem IsSorted.applyTo {s : Settings} (h : s.IsSorted) (c : Change) : (c.applyTo s).IsSorted := by
  cases c with
  | workflowId _ => exact ⟨h.1, h.2, h.3, h.4⟩
  | workflowName _ => exact ⟨h.1, h.2, h.3, h.4⟩
  | namespaceUri _ => exact ⟨h.1, h.2, h.3, h.4⟩
  | nodeType tag mapping => exact { h with nodeTypes := h.nodeTypes.insert _ _ }
  | nodeOverride node properties => exact { h with nodeOverrides := h.nodeOverrides.insert _ _ }
  | edgeOverride edge properties => exact { h with edgeOverrides := h.edgeOverrides.insert _ _ }
  | margin _ => exact ⟨h.1, h.2, h.3, h.4⟩
  | fieldAlias field key => exact { h with fieldAliases := h.fieldAliases.insert _ _ }

/-! ## Lists of changes -/

/-- The settings with some changes, in their order. -/
def writeAll (s : Settings) (cs : List Change) : Settings := cs.foldl Change.applyTo s

/-- What is written last at a place. -/
def last? : List Change → Place → Option Value
  | [], _ => none
  | c :: rest, p => (last? rest p).or (if p = c.place then some c.value else none)

/-- The changes before the first that is rejected. -/
def accepted (cs : List Change) : List Change := cs.takeWhile fun c => c.failure?.isNone

variable {s : Settings} {cs ds : List Change}

/-- **Settings with some changes** have at each place what was written there
last. -/
theorem at?_writeAll (s : Settings) (cs : List Change) (p : Place) :
    (writeAll s cs).at? p = (last? cs p).or (s.at? p) := by
  induction cs generalizing s with
  | nil => rfl
  | cons c rest ih =>
    rw [writeAll, List.foldl_cons, last?, Option.or_assoc]
    refine (ih (c.applyTo s)).trans (congrArg _ ?_)
    rw [Change.at?_applyTo]
    split <;> simp

theorem fallback_writeAll (s : Settings) (cs : List Change) :
    (writeAll s cs).fallback = s.fallback := by
  induction cs generalizing s with
  | nil => rfl
  | cons c rest ih => exact (ih (c.applyTo s)).trans (Change.fallback_applyTo s c)

theorem IsSorted.writeAll (h : s.IsSorted) (cs : List Change) : (Settings.writeAll s cs).IsSorted := by
  induction cs generalizing s with
  | nil => exact h
  | cons c rest ih => exact ih (h.applyTo c)

/-- **Changes leave sorted settings as they are** exactly if the last one at each
place says what stands there. -/
theorem writeAll_eq_self_iff (h : s.IsSorted) :
    writeAll s cs = s ↔ ∀ p v, last? cs p = some v → s.at? p = some v := by
  constructor
  · intro heq p v hlast
    have hat := at?_writeAll s cs p
    rwa [heq, hlast, Option.some_or] at hat
  · intro hrepeats
    refine (h.writeAll cs).ext h (fallback_writeAll s cs) fun p => ?_
    rw [at?_writeAll]
    cases hlast : last? cs p with
    | none => rfl
    | some v => rw [hrepeats p v hlast, Option.some_or]

/-- Applies changes up to the first that is rejected. -/
def run (s : Settings) : List Change → Settings × Option Failure
  | [] => (s, none)
  | c :: rest =>
    match c.failure? with
    | some failure => (s, some failure)
    | none => run (c.applyTo s) rest

/-- **What stands before the first rejected change is written**, and nothing
else. -/
theorem run_fst (s : Settings) (cs : List Change) : (run s cs).1 = writeAll s (accepted cs) := by
  induction cs generalizing s with
  | nil => rfl
  | cons c rest ih =>
    rw [run, accepted]
    cases hc : c.failure? with
    | some failure => rw [List.takeWhile_cons_of_neg (by simp [hc])]; rfl
    | none =>
      rw [List.takeWhile_cons_of_pos (by simp [hc])]
      exact ih (c.applyTo s)

theorem run_append (s : Settings) (cs ds : List Change) : run s (cs ++ ds) =
    match run s cs with
    | (s, none) => run s ds
    | (s, some failure) => (s, some failure) := by
  induction cs generalizing s with
  | nil => rfl
  | cons c rest ih =>
    rw [List.cons_append, run, run]
    cases c.failure? with
    | some failure => rfl
    | none => exact ih (c.applyTo s)

/-! ## Overlays -/

/-- The changes to the identity. -/
def IdentityOverlay.changes (o : IdentityOverlay) : List Change :=
  (o.id?.map .workflowId).toList ++ (o.name?.map .workflowName).toList
    ++ (o.namespaceUri?.map .namespaceUri).toList

/-- **The changes that an overlay lists**, in the order in which they are
applied. -/
def Overlay.changes (o : Overlay) : List Change :=
  (o.identity?.map IdentityOverlay.changes).getD []
    ++ ((o.nodeTypes?.getD []).map (fun e => .nodeType e.1 e.2)
    ++ ((o.nodeOverrides?.getD []).map (fun e => .nodeOverride e.1 e.2)
    ++ ((o.edgeOverrides?.getD []).map (fun e => .edgeOverride e.1 e.2)
    ++ ((o.boundsPadding?.map .margin).toList
    ++ (o.fieldAliases?.getD []).map fun e => .fieldAlias e.1 e.2))))

/-- The settings with the changes of an overlay to the identity. -/
def Overlay.identified (o : Overlay) (s : Settings) : Settings :=
  { s with identity := (o.identity?.map (·.applyTo s.identity)).getD s.identity }

/-- The identity is changed before everything else. -/
theorem apply_eq (s : Settings) (o : Overlay) :
    s.apply o = (o.identified s).apply { o with identity? := none } := by
  obtain ⟨identity?, _, _, _, _, _⟩ := o
  cases identity? <;> rfl

theorem run_identity (s : Settings) (o : Overlay) :
    run s ((o.identity?.map IdentityOverlay.changes).getD []) = (o.identified s, none) := by
  obtain ⟨identity?, _, _, _, _, _⟩ := o
  rcases identity? with _ | ⟨id?, name?, uri?⟩
  · rfl
  · cases id? <;> cases name? <;> cases uri? <;> rfl

theorem run_nodeTypes (s : Settings) (es : List (String × Mapping)) :
    run s (es.map fun e => .nodeType e.1 e.2) =
      ({ s with nodeTypes := (addTypes s.nodeTypes es).1 }, (addTypes s.nodeTypes es).2) := by
  induction es generalizing s with
  | nil => rfl
  | cons e rest ih =>
    rw [List.map_cons, run, addTypes, Change.failure?]
    split
    · next hblank =>
      split at hblank
      · next hnone => rw [if_pos hnone, Option.some.inj hblank]
      · cases hblank
    · next hsome =>
      split at hsome
      · cases hsome
      · next hnot => rw [if_neg hnot]; exact ih _

/-- **Changes to the entries of one table** are all applied to it. -/
theorem run_entries {α : Type} (change : String × α → Change) (within : Table α → Settings)
    (haccepted : ∀ e, (change e).failure? = none)
    (hwithin : ∀ t e, (change e).applyTo (within t) = within (t.insert e.1 e.2))
    (t : Table α) (es : List (String × α)) :
    run (within t) (es.map change) = (within (t.insertAll es), none) := by
  induction es generalizing t with
  | nil => rfl
  | cons e rest ih =>
    rw [List.map_cons, run, haccepted, hwithin]
    exact ih (t.insert e.1 e.2)

theorem run_nodeOverrides (s : Settings) (es : List (String × Table Json)) :
    run s (es.map fun e => .nodeOverride e.1 e.2) =
      ({ s with nodeOverrides := s.nodeOverrides.insertAll es }, none) :=
  run_entries (fun e => .nodeOverride e.1 e.2) (fun t => { s with nodeOverrides := t })
    (fun _ => rfl) (fun _ _ => rfl) s.nodeOverrides es

theorem run_edgeOverrides (s : Settings) (es : List (String × Table Json)) :
    run s (es.map fun e => .edgeOverride e.1 e.2) =
      ({ s with edgeOverrides := s.edgeOverrides.insertAll es }, none) :=
  run_entries (fun e => .edgeOverride e.1 e.2) (fun t => { s with edgeOverrides := t })
    (fun _ => rfl) (fun _ _ => rfl) s.edgeOverrides es

theorem run_fieldAliases (s : Settings) (es : List (String × String)) :
    run s (es.map fun e => .fieldAlias e.1 e.2) =
      ({ s with fieldAliases := s.fieldAliases.insertAll es }, none) :=
  run_entries (fun e => .fieldAlias e.1 e.2) (fun t => { s with fieldAliases := t })
    (fun _ => rfl) (fun _ _ => rfl) s.fieldAliases es

/-- **Applying an overlay** is applying its changes up to the first that is
rejected. -/
theorem apply_eq_run (s : Settings) (o : Overlay) : s.apply o = run s o.changes := by
  rw [apply_eq, Overlay.changes, run_append, run_identity]
  generalize o.identified s = s
  simp only [apply, run_append, run_nodeTypes]
  rcases addTypes s.nodeTypes (o.nodeTypes?.getD []) with ⟨types, _ | failure⟩
  · simp only [run_nodeOverrides, run_edgeOverrides]
    cases o.boundsPadding? with
    | none => simp only [Option.map_none, Option.toList_none, run, run_fieldAliases]
    | some padding =>
      by_cases hmargin : isMargin padding = true
      · simp only [Option.map_some, Option.toList_some, run, Change.failure?, if_pos hmargin,
          run_fieldAliases]
        rfl
      · simp only [Option.map_some, Option.toList_some, run, Change.failure?, if_neg hmargin]
  · rfl

/-- An overlay that is rejected has not come to the margin and to the aliases. -/
theorem rejected_keeps {s : Settings} {o : Overlay} {f : Failure} (h : (s.apply o).2 = some f) :
    (s.apply o).1.boundsPadding = s.boundsPadding ∧
      (s.apply o).1.fieldAliases = s.fieldAliases := by
  have hsame : (o.identified s).boundsPadding = s.boundsPadding ∧
      (o.identified s).fieldAliases = s.fieldAliases := ⟨rfl, rfl⟩
  rw [apply_eq] at h ⊢
  rw [← hsame.1, ← hsame.2]
  generalize o.identified s = s at h ⊢
  simp only [apply] at h ⊢
  cases hadd : (addTypes s.nodeTypes (o.nodeTypes?.getD [])).2 with
  | some failure => exact ⟨rfl, rfl⟩
  | none =>
    simp only [hadd] at h
    cases hpadding : o.boundsPadding? with
    | none =>
      simp only [hpadding] at h
      cases h
    | some padding =>
      by_cases hmargin : isMargin padding = true
      · simp [hpadding, hmargin] at h
      · simp [hmargin]

/-- The changes that a text lists. -/
def changesOf (text : String) : List Change :=
  (((Document.parse? text).bind Overlay.ofDocument?).map Overlay.changes).getD []

/-- **Overlays keep settings sorted**, rejected or not. -/
theorem IsSorted.applyText (h : s.IsSorted) (text : String) : (s.applyText text).1.IsSorted := by
  rw [Settings.applyText]
  split
  · rw [apply_eq_run, run_fst]
    exact h.writeAll _
  · exact h

/-- **When a rejected overlay leaves the settings as they were.** Whatever text is
rejected, each place then has what the changes before the rejected one wrote
there last, and the margin, the aliases and the mapping for other node types
are untouched. The settings are the same as before exactly if these changes say
what stood there anyway. -/
theorem unchanged_iff {s : Settings} (hs : s.IsSorted) {text : String} {f : Failure}
    (hf : (s.applyText text).2 = some f) :
    let after := (s.applyText text).1
    let written := accepted (changesOf text)
    (∀ p, after.at? p = (last? written p).or (s.at? p)) ∧
      (after.boundsPadding = s.boundsPadding ∧ after.fieldAliases = s.fieldAliases ∧
        after.fallback = s.fallback) ∧
      (after = s ↔ ∀ p v, last? written p = some v → s.at? p = some v) := by
  intro after written
  cases hread : (Document.parse? text).bind Overlay.ofDocument? with
  | none =>
    have hafter : after = s := by simp only [after, applyText, hread]
    have hwritten : written = [] := by
      simp only [written, changesOf, hread]
      rfl
    rw [hafter, hwritten]
    exact ⟨fun p => rfl, ⟨rfl, rfl, rfl⟩, ⟨fun _ _ _ h => (nomatch h), fun _ => rfl⟩⟩
  | some o =>
    have happly : s.applyText text = s.apply o := by rw [applyText, hread]
    have hafter : after = writeAll s written := by
      simp only [after, written, changesOf, happly, apply_eq_run, run_fst, hread]
      rfl
    rw [happly] at hf
    have hkept := rejected_keeps hf
    rw [← happly] at hkept
    rw [hafter]
    refine ⟨at?_writeAll s written, ⟨?_, ?_, fallback_writeAll s written⟩, writeAll_eq_self_iff hs⟩
    · exact hafter ▸ hkept.1
    · exact hafter ▸ hkept.2

/-- An overlay with an id for the workflow and a node type without a stencil. -/
def draft (id : String) : Document :=
  .obj [("process", .obj [("id", .str id)]),
    ("nodeTypes", .obj [("x", .obj [("stencil", .str " ")])])]

theorem read_draft (id : String) :
    (Document.parse? (draft id).compact).bind Overlay.ofDocument? =
      some { identity? := some { id? := some id }, nodeTypes? := some [("x", { stencil := " " })] } := by
  have hlegible : (draft id).Legible := by
    refine .obj ?_
    simp only [List.forall_mem_cons]
    refine ⟨.obj ?_, .obj ?_, List.forall_mem_nil _⟩
    · exact List.forall_mem_singleton.2 (.str _)
    · exact List.forall_mem_singleton.2 (.obj (List.forall_mem_singleton.2 (.str _)))
  have hdepth : (draft id).depth = 3 := rfl
  rw [hlegible.parse?_compact (hdepth ▸ by decide)]
  rfl

/-- The node type is rejected, and the id is written by then. -/
theorem applyText_draft (s : Settings) (id : String) : s.applyText (draft id).compact =
    ({ s with identity := { s.identity with id } }, some (.blankStencil "x")) := by
  rw [applyText, read_draft]
  rfl

/-- An overlay that repeats the id before it is rejected changes nothing. -/
theorem repeated_id_unchanged :
    standard.IsSorted ∧
      (standard.applyText (draft standard.identity.id).compact).2 = some (.blankStencil "x") ∧
      (standard.applyText (draft standard.identity.id).compact).1 = standard := by
  have hrejected : (standard.applyText (draft standard.identity.id).compact).2 =
      some (.blankStencil "x") := by rw [applyText_draft]
  have hwritten : accepted (changesOf (draft standard.identity.id).compact) =
      [.workflowId standard.identity.id] := by
    rw [changesOf, read_draft]
    rfl
  refine ⟨isSorted_standard, hrejected,
    (unchanged_iff isSorted_standard hrejected).2.2.2 fun p v hlast => ?_⟩
  rw [hwritten, last?, last?, Option.none_or] at hlast
  split at hlast
  · next hp => rw [hp, ← hlast]; rfl
  · cases hlast

/-- **A rejected overlay leaves its id behind.** -/
theorem half_applied_draft :
    (draft "Draft").compact = "\x7b\"process\":\x7b\"id\":\"Draft\"\x7d," ++
      "\"nodeTypes\":\x7b\"x\":\x7b\"stencil\":\" \"\x7d\x7d\x7d" ∧
    (standard.applyText (draft "Draft").compact).2 = some (.blankStencil "x") ∧
    (standard.applyText (draft "Draft").compact).1.identity.id = "Draft" ∧
    (standard.applyText (draft "Draft").compact).1 ≠ standard := by
  rw [applyText_draft]
  refine ⟨by decide, rfl, rfl, fun heq => ?_⟩
  have hid : "Draft" = standard.identity.id := congrArg (·.identity.id) heq
  exact absurd hid (by decide)

end Settings

end WorkflowCanvas
