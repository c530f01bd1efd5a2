import WorkflowCanvas.Proofs.Settings.Overlay
import Mathlib.Data.List.Induction
/-!
# Overlays that are accepted

An overlay says what is to stand at some places, and an accepted one writes
just that: at every place there is afterwards what the overlay says, or else
what stood there before (`at?_apply`). Among the tags of node types that are the
same in lower case the last one in the order of the keys counts. So an overlay
changes nothing the second time, and overlays that name different places can
be applied in either order (`last_writer_wins`).
-/


namespace WorkflowCanvas

namespace Settings

open Document (asTable? asOption?)

variable {s : Settings} {o : Overlay} {cs ds : List Change} {p : Place} {text : String}

/-! ## Changes that are all accepted -/

/-- Whether changes are rejected, and why, hangs on the changes alone. -/
theorem run_snd (s : Settings) (cs : List Change) :
    (run s cs).2 = cs.findSome? Change.failure? := by
  induction cs generalizing s with
  | nil => rfl
  | cons c rest ih =>
    rw [run, List.findSome?_cons]
    cases c.failure? with
    | some failure => rfl
    | none => exact ih (c.applyTo s)

/-- **Changes that are accepted** are accepted by all settings, and are all
written. -/
theorem run_of_accepted (h : (run s cs).2 = none) (s' : Settings) :
    run s' cs = (writeAll s' cs, none) := by
  rw [run_snd, List.findSome?_eq_none_iff] at h
  have hall : accepted cs = cs := List.takeWhile_eq_self_iff.2 fun c hc => by rw [h c hc]; rfl
  refine Prod.ext ?_ ?_
  · rw [run_fst, hall]
  · rw [run_snd, List.findSome?_eq_none_iff]
    exact h

theorem apply_of_accepted (h : (s.apply o).2 = none) (s' : Settings) :
    s'.apply o = (writeAll s' o.changes, none) := by
  rw [apply_eq_run] at h ⊢
  exact run_of_accepted h s'

/-! ## What changes write last -/

theorem last?_append (cs ds : List Change) (p : Place) :
    last? (cs ++ ds) p = (last? ds p).or (last? cs p) := by
  induction cs with
  | nil => rw [List.nil_append, last?, Option.or_none]
  | cons c rest ih => rw [List.cons_append, last?, last?, ih, Option.or_assoc]

/-- What is written last at a place is the value of the last change there. -/
theorem last?_eq (cs : List Change) (p : Place) :
    last? cs p = (cs.filter fun c => p = c.place).getLast?.map Change.value := by
  induction cs using List.reverseRecOn with
  | nil => rfl
  | append_singleton cs c ih =>
    rw [last?_append, List.filter_append, ih, last?, last?, Option.none_or]
    by_cases hp : p = c.place
    · rw [List.filter_cons_of_pos (by simpa using hp), List.filter_nil, List.getLast?_concat,
        if_pos hp]
      rfl
    · rw [List.filter_cons_of_neg (by simpa using hp), List.filter_nil, List.append_nil, if_neg hp,
        Option.none_or]

/-- Changes elsewhere write nothing at a place. -/
theorem last?_eq_none (h : ∀ c ∈ cs, p ≠ c.place) : last? cs p = none := by
  rw [last?_eq, List.filter_eq_nil_iff.2 fun c hc => by simpa using h c hc]
  rfl

theorem last?_map_of_forall {α : Type} {change : α → Change} (h : ∀ e, p ≠ (change e).place)
    (es : List α) : last? (es.map change) p = none := by
  refine last?_eq_none fun c hc => ?_
  obtain ⟨e, -, rfl⟩ := List.mem_map.1 hc
  exact h e

/-- **Changes to the entries of a sorted table** write what stands in it. -/
theorem last?_entries {α : Type} {es : Table α} (hes : es.Sorted) (change : String × α → Change)
    (place : String → Place) (value : α → Value) (hinj : ∀ j k, place j = place k → j = k)
    (hplace : ∀ e, (change e).place = place e.1) (hvalue : ∀ e, (change e).value = value e.2)
    (k : String) : last? (es.map change) (place k) = (es.get? k).map value := by
  induction es with
  | nil => rfl
  | cons e rest ih =>
    obtain ⟨hhead, hrest⟩ := List.pairwise_cons.1 hes
    rw [List.map_cons, last?, ih hrest, hplace, hvalue]
    by_cases hk : e.1 = k
    · -- the key does not come again
      have hnone : Table.get? rest k = none :=
        Table.get?_eq_none_iff.2 fun a ha => hk ▸ ne_of_gt (hhead a ha)
      have hsome : Table.get? (e :: rest) k = some e.2 := by simp [Table.get?, hk]
      rw [hnone, hsome, if_pos (by rw [hk])]
      rfl
    · have hskip : Table.get? (e :: rest) k = Table.get? rest k := by simp [Table.get?, hk]
      rw [hskip, if_neg fun h => hk (hinj _ _ h).symm, Option.or_none]

/-! ## What an overlay says -/

namespace Overlay

/-- The entry for a tag in lower case: of those whose tags are the same in lower
case, the last one. -/
def nodeType? (o : Overlay) (tag : String) : Option (String × Mapping) :=
  ((o.nodeTypes?.getD []).filter fun e => tag = Text.toLower e.1).getLast?

theorem nodeType?_eq_none_iff {tag : String} :
    o.nodeType? tag = none ↔ ∀ e ∈ o.nodeTypes?.getD [], tag ≠ Text.toLower e.1 := by
  simp [nodeType?]

/-- The entry for a tag is one of the overlay, for the same tag in lower case. -/
theorem nodeType?_spec {tag : String} {e : String × Mapping} (h : o.nodeType? tag = some e) :
    e ∈ o.nodeTypes?.getD [] ∧ tag = Text.toLower e.1 := by
  simpa using List.mem_filter.1 (List.mem_of_getLast? h)

/-- **What an overlay says** is to stand at a place, if it names the place. -/
def says? (o : Overlay) : Place → Option Value
  | .workflowId => (o.identity?.bind (·.id?)).map .text
  | .workflowName => (o.identity?.bind (·.name?)).map .text
  | .namespaceUri => (o.identity?.bind (·.namespaceUri?)).map .text
  | .nodeType tag => (o.nodeType? tag).map fun e => .mapping e.2
  | .nodeOverride node => (Table.get? (o.nodeOverrides?.getD []) node).map .properties
  | .edgeOverride edge => (Table.get? (o.edgeOverrides?.getD []) edge).map .properties
  | .margin => o.boundsPadding?.map .margin
  | .fieldAlias field => (Table.get? (o.fieldAliases?.getD []) field).map .text

/-- The tables of an overlay are sorted by key. -/
structure IsSorted (o : Overlay) : Prop where
  nodeTypes : Table.Sorted (o.nodeTypes?.getD [])
  nodeOverrides : Table.Sorted (o.nodeOverrides?.getD [])
  edgeOverrides : Table.Sorted (o.edgeOverrides?.getD [])
  fieldAliases : Table.Sorted (o.fieldAliases?.getD [])

/-- What only one part of an overlay says. -/
theorem says?_eq (o : Overlay) (p : Place) :
    o.says? p = (says? { fieldAliases? := o.fieldAliases? } p).or
      ((says? { boundsPadding? := o.boundsPadding? } p).or
      ((says? { edgeOverrides? := o.edgeOverrides? } p).or
      ((says? { nodeOverrides? := o.nodeOverrides? } p).or
      ((says? { nodeTypes? := o.nodeTypes? } p).or (says? { identity? := o.identity? } p))))) := by
  cases p <;> simp [says?, nodeType?, Table.get?]

theorem last?_identity (identity? : Option IdentityOverlay) (p : Place) :
    last? ((identity?.map IdentityOverlay.changes).getD []) p = says? { identity? } p := by
  rcases identity? with _ | ⟨id?, name?, uri?⟩
  · cases p <;> rfl
  · cases p <;> cases id? <;> cases name? <;> cases uri? <;> rfl

theorem last?_nodeTypes (types? : Option (Table Mapping)) (p : Place) :
    last? ((types?.getD []).map fun e => .nodeType e.1 e.2) p =
      says? { nodeTypes? := types? } p := by
  cases p with
  | nodeType tag =>
    rw [last?_eq, List.filter_map, List.getLast?_map, Option.map_map, says?, nodeType?]
    refine congrArg _ (congrArg _ (List.filter_congr fun e _ => ?_))
    simp [Change.place]
  | _ => exact last?_map_of_forall (fun _ h => by cases h) _

theorem last?_nodeOverrides {nodes? : Option (Table (Table Json))}
    (h : Table.Sorted (nodes?.getD [])) (p : Place) :
    last? ((nodes?.getD []).map fun e => .nodeOverride e.1 e.2) p =
      says? { nodeOverrides? := nodes? } p := by
  cases p with
  | nodeOverride node =>
    exact last?_entries h _ .nodeOverride .properties (fun _ _ => Place.nodeOverride.inj)
      (fun _ => rfl) (fun _ => rfl) node
  | _ => exact last?_map_of_forall (fun _ h => by cases h) _

theorem last?_edgeOverrides {edges? : Option (Table (Table Json))}
    (h : Table.Sorted (edges?.getD [])) (p : Place) :
    last? ((edges?.getD []).map fun e => .edgeOverride e.1 e.2) p =
      says? { edgeOverrides? := edges? } p := by
  cases p with
  | edgeOverride edge =>
    exact last?_entries h _ .edgeOverride .properties (fun _ _ => Place.edgeOverride.inj)
      (fun _ => rfl) (fun _ => rfl) edge
  | _ => exact last?_map_of_forall (fun _ h => by cases h) _

theorem last?_margin (padding? : Option Float) (p : Place) :
    last? (padding?.map .margin).toList p = says? { boundsPadding? := padding? } p := by
  cases padding? <;> cases p <;> rfl

theorem last?_fieldAliases {aliases? : Option (Table String)}
    (h : Table.Sorted (aliases?.getD [])) (p : Place) :
    last? ((aliases?.getD []).map fun e => .fieldAlias e.1 e.2) p =
      says? { fieldAliases? := aliases? } p := by
  cases p with
  | fieldAlias field =>
    exact last?_entries h _ .fieldAlias .text (fun _ _ => Place.fieldAlias.inj)
      (fun _ => rfl) (fun _ => rfl) field
  | _ => exact last?_map_of_forall (fun _ h => by cases h) _

/-- **The changes of an overlay write what it says.** -/
theorem last?_changes (h : o.IsSorted) (p : Place) : last? o.changes p = o.says? p := by
  simp only [changes, last?_append, last?_identity, last?_nodeTypes,
    last?_nodeOverrides h.nodeOverrides, last?_edgeOverrides h.edgeOverrides, last?_margin,
    last?_fieldAliases h.fieldAliases, Option.or_assoc]
  exact (says?_eq o p).symm

end Overlay

/-! ## Overlays as they are read -/

theorem sorted_of_asTable? {α : Type} {read : Document → Option α} {d : Document} {t : Table α}
    (h : asTable? read d = some t) : t.Sorted := by
  unfold asTable? at h
  split at h
  · obtain ⟨entries, -, rfl⟩ := Option.map_eq_some_iff.1 h
    exact Table.Sorted.insertAll List.Pairwise.nil entries
  · cases h

/-- A table that may be absent is sorted where it is there. -/
theorem sorted_of_optionalDefault {α : Type} {r : Record} {name : String}
    {read : Document → Option α} {t? : Option (Table α)}
    (h : r.optionalDefault name (asTable? read) = some t?) : Table.Sorted (t?.getD []) := by
  unfold Record.optionalDefault Record.default at h
  split at h
  · unfold asOption? at h
    split at h
    · cases h
      exact List.Pairwise.nil
    · obtain ⟨t, ht, rfl⟩ := Option.map_eq_some_iff.1 h
      exact sorted_of_asTable? ht
  · cases h
    exact List.Pairwise.nil

/-- **An overlay is read with its tables sorted.** -/
theorem isSorted_of_ofDocument? {d : Document} (h : Overlay.ofDocument? d = some o) :
    o.IsSorted := by
  simp only [Overlay.ofDocument?, Option.bind_eq_bind, Option.bind_eq_some_iff] at h
  obtain ⟨r, -, identity?, -, types?, htypes, nodes?, hnodes, edges?, hedges, padding?, -,
    aliases?, haliases, ho⟩ := h
  cases ho
  exact ⟨sorted_of_optionalDefault htypes, sorted_of_optionalDefault hnodes,
    sorted_of_optionalDefault hedges, sorted_of_optionalDefault haliases⟩

/-- The overlay that a text holds. -/
def overlayOf? (text : String) : Option Overlay :=
  (Document.parse? text).bind Overlay.ofDocument?

theorem applyText_eq (h : overlayOf? text = some o) (s : Settings) :
    s.applyText text = s.apply o := by
  unfold overlayOf? at h
  rw [applyText, h]

/-- An overlay with stencils for some tags. -/
def stencils (types : List (String × String)) : Document :=
  .obj [("nodeTypes", .obj (types.map fun e => (e.1, .obj [("stencil", .str e.2)])))]

theorem depth_stencils_le (types : List (String × String)) :
    (stencils types).depth ≤ Document.nestingLimit := by
  have htypes : Document.depthOfFields
      (types.map fun e => (e.1, Document.obj [("stencil", .str e.2)])) ≤ 1 :=
    Document.depthOfFields_le_iff.2 (List.forall_mem_map.2 fun _ _ => le_rfl)
  have hdepth : (stencils types).depth ≤ 3 := by
    simp only [stencils, Document.depth, Document.depthOfFields]
    omega
  exact hdepth.trans (by decide)

/-- Such an overlay is read back from its text. -/
theorem overlayOf?_stencils (types : List (String × String)) :
    overlayOf? (stencils types).compact = some
      { nodeTypes? := some (Table.ofList (types.map fun e => (e.1, { stencil := e.2 }))) } := by
  have hlegible : (stencils types).Legible := by
    refine .obj (List.forall_mem_singleton.2 (.obj fun f hf => ?_))
    obtain ⟨e, -, rfl⟩ := List.mem_map.1 hf
    exact .obj (List.forall_mem_singleton.2 (.str _))
  have hnodeTypes : ∀ fields, Overlay.ofDocument? (.obj [("nodeTypes", .obj fields)]) =
      (asTable? Mapping.ofDocument? (.obj fields)).map fun t => { nodeTypes? := some t } := by
    intro fields
    have hrecord : Overlay.ofDocument? (.obj [("nodeTypes", .obj fields)]) =
        ((asTable? Mapping.ofDocument? (.obj fields)).map some).bind fun t? =>
          some { nodeTypes? := t? } := rfl
    rw [hrecord]
    cases asTable? Mapping.ofDocument? (.obj fields) <;> rfl
  have htypes : (types.map fun e => (e.1, Document.obj [("stencil", .str e.2)])).mapM
      (fun f => (Mapping.ofDocument? f.2).map fun m => (f.1, m)) =
      some (types.map fun e => (e.1, { stencil := e.2 })) := by
    refine mapM_eq_some (List.forall₂_map_left_iff.2 (List.forall₂_map_right_iff.2 ?_))
    exact List.forall₂_same.2 fun _ _ => rfl
  rw [overlayOf?, hlegible.parse?_compact (depth_stencils_le types), Option.bind_some, stencils,
    hnodeTypes, asTable?, htypes]
  rfl

/-! ## Overlays that are applied -/

/-- **An accepted overlay writes what it says**, and nothing else. -/
theorem at?_apply (h : (s.apply o).2 = none) (ho : o.IsSorted) (p : Place) :
    (s.apply o).1.at? p = (o.says? p).or (s.at? p) := by
  rw [apply_of_accepted h, at?_writeAll, Overlay.last?_changes ho]

theorem fallback_apply (h : (s.apply o).2 = none) : (s.apply o).1.fallback = s.fallback := by
  rw [apply_of_accepted h]
  exact fallback_writeAll s _

end Settings

end WorkflowCanvas
