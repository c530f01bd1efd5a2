import WorkflowCanvas.Canvas.Codec
import WorkflowCanvas.Proofs.Table
import Mathlib.Data.List.Forall2
import Mathlib.Data.List.Perm.Basic
/-!
# Documents in another order

A text lists the fields of an object in the order in which they were
written, a value in the order of their keys. What is read must not hang on
that order. One document reorders another if they differ in the order of
fields alone (`Reorders`); a well-formed document reorders itself, and the
document of its value reorders it (`WellFormed.exists_toJson?`).
-/


namespace WorkflowCanvas

/-! ## Tables of entries with their keys apart -/

namespace Table

variable {α : Type} {t : Table α} {entries : List (String × α)} {k : String} {v : α}

theorem perm_insert (h : ∀ a ∈ t, a.1 ≠ k) : (insert t k v).Perm ((k, v) :: t) := by
  induction t with
  | nil => exact List.Perm.refl _
  | cons e rest ih =>
    unfold insert
    split
    · exact List.Perm.refl _
    · split
      · next heq => exact absurd heq.symm (h e List.mem_cons_self)
      · have hrest := ih fun a ha => h a (List.mem_cons_of_mem _ ha)
        exact (hrest.cons e).trans (List.Perm.swap _ _ _)

/-- **Entries with their keys apart are all kept.** -/
theorem perm_ofList (h : (entries.map (·.1)).Nodup) : (ofList entries).Perm entries := by
  have hall : ∀ (entries : List (String × α)) (t : Table α), ((t ++ entries).map (·.1)).Nodup →
      (insertAll t entries).Perm (t ++ entries) := by
    intro entries
    induction entries with
    | nil =>
      intro t _
      rw [List.append_nil]
      exact List.Perm.refl _
    | cons e rest ih =>
      intro t hkeys
      have hnew : ∀ a ∈ t, a.1 ≠ e.1 := by
        intro a ha
        rw [List.map_append, List.nodup_append] at hkeys
        exact hkeys.2.2 _ (List.mem_map_of_mem ha) _ (List.mem_cons_self)
      have hstep : (insert t e.1 e.2 ++ rest).Perm (t ++ e :: rest) :=
        ((perm_insert hnew).append_right rest).trans List.perm_middle.symm
      have hrest := ih (insert t e.1 e.2) ((hstep.map _).nodup_iff.2 hkeys)
      exact hrest.trans hstep
  exact hall entries [] h

theorem Sorted.nodup_keys (h : Sorted t) : (List.map (·.1) t).Nodup :=
  List.pairwise_map.2 (h.imp ne_of_lt)

/-- **A sorted table is made of its entries in any order.** -/
theorem Sorted.ofList_of_perm (h : Sorted t) (hperm : entries.Perm t) : ofList entries = t := by
  have hkept : (ofList entries).Perm t :=
    (perm_ofList ((hperm.map _).nodup_iff.2 h.nodup_keys)).trans hperm
  have hsorted : Sorted (ofList entries) := Sorted.insertAll List.Pairwise.nil entries
  refine hsorted.ext h fun k => Option.ext fun v => ?_
  rw [hsorted.get?_eq_some_iff, h.get?_eq_some_iff, hkept.mem_iff]

end Table

/-! ## Readings of lists -/

/-- A list whose items can be read is read item by item. -/
theorem exists_mapM {α β : Type} {R : α → β → Prop} {f : α → Option β} {xs : List α}
    (h : ∀ x ∈ xs, ∃ y, f x = some y ∧ R x y) :
    ∃ ys, xs.mapM f = some ys ∧ List.Forall₂ R xs ys := by
  induction xs with
  | nil => exact ⟨[], rfl, List.Forall₂.nil⟩
  | cons x rest ih =>
    obtain ⟨y, hy, hxy⟩ := h x List.mem_cons_self
    obtain ⟨ys, hys, hall⟩ := ih fun x' hx' => h x' (List.mem_cons_of_mem _ hx')
    refine ⟨y :: ys, ?_, List.Forall₂.cons hxy hall⟩
    rw [List.mapM_cons, hy, hys]
    rfl

/-- A list is read as the list of what its items are read as. -/
theorem mapM_eq_some {α β : Type} {f : α → Option β} {xs : List α} {ys : List β}
    (h : List.Forall₂ (fun x y => f x = some y) xs ys) : xs.mapM f = some ys := by
  induction h with
  | nil => rfl
  | cons hxy _ ih =>
    rw [List.mapM_cons, hxy, ih]
    rfl

/-- The value at a key that no other entry has. -/
theorem eq_of_mem_of_nodup_keys {α : Type} {entries : List (String × α)} {k : String} {v w : α}
    (h : (entries.map (·.1)).Nodup) (hv : (k, v) ∈ entries) (hw : (k, w) ∈ entries) : v = w :=
  (Prod.mk.inj (List.inj_on_of_nodup_map h hv hw rfl)).2

/-- Every item of one list is related to an item of the other. -/
theorem exists_mem_of_forall₂ {α β : Type} {R : α → β → Prop} {xs : List α} {ys : List β}
    (h : List.Forall₂ R xs ys) {y : β} (hy : y ∈ ys) : ∃ x ∈ xs, R x y := by
  induction h with
  | nil => cases hy
  | cons hxy _ ih =>
    rcases List.mem_cons.1 hy with rfl | hy
    · exact ⟨_, List.mem_cons_self, hxy⟩
    · obtain ⟨x, hx, hrel⟩ := ih hy
      exact ⟨x, List.mem_cons_of_mem _ hx, hrel⟩

/-- Entries that have the keys of fields one by one have the same keys. -/
theorem keys_eq_of_forall₂ {α β : Type} {R : String × α → String × β → Prop}
    {fields : List (String × α)} {entries : List (String × β)}
    (h : List.Forall₂ (fun f e => e.1 = f.1 ∧ R f e) fields entries) :
    entries.map (·.1) = fields.map (·.1) := by
  induction h with
  | nil => rfl
  | cons hfe _ ih => rw [List.map_cons, List.map_cons, hfe.1, ih]

/-- The value that is found at a key that no other entry has. -/
theorem lookup_eq_some_iff {α : Type} {entries : List (String × α)} {k : String} {v : α}
    (h : (entries.map (·.1)).Nodup) : entries.lookup k = some v ↔ (k, v) ∈ entries := by
  constructor
  · intro hv
    obtain ⟨before, after, rfl, -⟩ := List.lookup_eq_some_iff.1 hv
    exact List.mem_append_right before List.mem_cons_self
  · intro hv
    rcases hw : entries.lookup k with _ | w
    · exact absurd (List.lookup_eq_none_iff.1 hw _ hv) (by simp)
    · obtain ⟨before, after, rfl, -⟩ := List.lookup_eq_some_iff.1 hw
      rw [eq_of_mem_of_nodup_keys h hv (List.mem_append_right before List.mem_cons_self)]

/-- Entries with the keys of other entries, and all from among them, are the
others in another order. -/
theorem perm_of_perm_keys {α : Type} {entries others : List (String × α)}
    (h : (others.map (·.1)).Nodup) (hkeys : (entries.map (·.1)).Perm (others.map (·.1)))
    (hsub : ∀ e ∈ entries, e ∈ others) : entries.Perm others := by
  have hnodup : entries.Nodup := List.Nodup.of_map _ (hkeys.nodup_iff.2 h)
  have hlength : entries.length = others.length := by
    simpa only [List.length_map] using hkeys.length_eq
  exact (List.subperm_of_subset hnodup hsub).perm_of_length_le hlength.ge

namespace Document

variable {d d' : Document} {fields fields' : List (String × Document)} {k : String}

theorem itemsToJson?_eq (items : List Document) : itemsToJson? items = items.mapM toJson? := by
  induction items with
  | nil => rfl
  | cons d rest ih => rw [itemsToJson?, ih, List.mapM_cons]

theorem fieldsToJson?_eq (fields : List (String × Document)) :
    fieldsToJson? fields = fields.mapM fun f => (toJson? f.2).map fun v => (f.1, v) := by
  induction fields with
  | nil => rfl
  | cons f rest ih =>
    obtain ⟨k, d⟩ := f
    rw [fieldsToJson?, ih, List.mapM_cons]
    cases toJson? d <;> rfl

theorem itemsOfJson_eq (items : List Json) : itemsOfJson items = items.map ofJson := by
  induction items with
  | nil => rfl
  | cons v rest ih => rw [itemsOfJson, ih, List.map_cons]

theorem fieldsOfJson_eq (fields : List (String × Json)) :
    fieldsOfJson fields = fields.map fun f => (f.1, ofJson f.2) := by
  induction fields with
  | nil => rfl
  | cons f rest ih => rw [fieldsOfJson, ih, List.map_cons]

/-! ## Reordering -/

/-- **A document is well formed**: all of it is readable, and no object repeats
a field. -/
inductive WellFormed : Document → Prop
  | null : WellFormed .null
  | bool (b : Bool) : WellFormed (.bool b)
  | int (n : Int) : WellFormed (.int n)
  | float (x : Float) : WellFormed (.float x)
  | str (s : String) : WellFormed (.str s)
  | arr {items : List Document} (h : ∀ d ∈ items, WellFormed d) : WellFormed (.arr items)
  | obj {fields : List (String × Document)} (hkeys : (fields.map (·.1)).Nodup)
      (h : ∀ f ∈ fields, WellFormed f.2) : WellFormed (.obj fields)

/-- **One document reorders another**: objects have the same fields, each once,
in whatever order, and all else is the same. -/
inductive Reorders : Document → Document → Prop
  | null : Reorders .null .null
  | bool (b : Bool) : Reorders (.bool b) (.bool b)
  | int (n : Int) : Reorders (.int n) (.int n)
  | float (x : Float) : Reorders (.float x) (.float x)
  | str (s : String) : Reorders (.str s) (.str s)
  | arr {items items' : List Document} (h : List.Forall₂ Reorders items items') :
      Reorders (.arr items) (.arr items')
  | obj {fields fields' : List (String × Document)} (hkeys : (fields.map (·.1)).Nodup)
      (hperm : (fields'.map (·.1)).Perm (fields.map (·.1)))
      (h : ∀ k d d', (k, d) ∈ fields → (k, d') ∈ fields' → Reorders d d') :
      Reorders (.obj fields) (.obj fields')

/-- A well-formed document reorders itself. -/
theorem WellFormed.reorders_self (h : WellFormed d) : Reorders d d := by
  induction h with
  | null => exact Reorders.null
  | bool b => exact Reorders.bool b
  | int n => exact Reorders.int n
  | float x => exact Reorders.float x
  | str s => exact Reorders.str s
  | arr _ ih => exact Reorders.arr (List.forall₂_same.2 ih)
  | obj hkeys _ ih =>
    refine Reorders.obj hkeys (List.Perm.refl _) fun k d d' hd hd' => ?_
    obtain rfl := eq_of_mem_of_nodup_keys hkeys hd hd'
    exact ih (k, d) hd

/-- **A well-formed document has a value, and the document of the value reorders
it**: a value lists the fields of objects by their keys. -/
theorem WellFormed.exists_toJson? (h : WellFormed d) :
    ∃ j, d.toJson? = some j ∧ Reorders d (ofJson j) := by
  induction h with
  | null => exact ⟨.null, rfl, Reorders.null⟩
  | bool b => exact ⟨.bool b, rfl, Reorders.bool b⟩
  | int n => exact ⟨.int n, rfl, Reorders.int n⟩
  | float x => exact ⟨.float x, rfl, Reorders.float x⟩
  | str s => exact ⟨.str s, rfl, Reorders.str s⟩
  | @arr items _ ih =>
    obtain ⟨values, hvalues, hall⟩ := exists_mapM ih
    refine ⟨.arr values, ?_, ?_⟩
    · rw [toJson?, itemsToJson?_eq, hvalues]
      rfl
    · rw [ofJson, itemsOfJson_eq]
      exact Reorders.arr (List.forall₂_map_right_iff.2 hall)
  | @obj fields hkeys _ ih =>
    have hfield : ∀ f ∈ fields, ∃ e, ((toJson? f.2).map fun v => (f.1, v)) = some e ∧
        (e.1 = f.1 ∧ Reorders f.2 (ofJson e.2)) := by
      intro f hf
      obtain ⟨v, hv, hre⟩ := ih f hf
      exact ⟨(f.1, v), by rw [hv]; rfl, rfl, hre⟩
    obtain ⟨entries, hentries, hall⟩ := exists_mapM hfield
    have hsame := keys_eq_of_forall₂ hall
    have hkept : (Table.ofList entries).Perm entries := Table.perm_ofList (hsame ▸ hkeys)
    refine ⟨.obj (Table.ofList entries), ?_, ?_⟩
    · rw [toJson?, fieldsToJson?_eq, hentries]
      rfl
    · rw [ofJson, fieldsOfJson_eq]
      refine Reorders.obj hkeys ?_ fun k d d' hd hd' => ?_
      · rw [List.map_map]
        exact (hkept.map _).trans (List.Perm.of_eq hsame)
      · obtain ⟨e, he, heq⟩ := List.mem_map.1 hd'
        obtain ⟨rfl, rfl⟩ := Prod.mk.inj heq
        -- the entry comes from the one field with its key
        obtain ⟨f, hf, hkey, hre⟩ := exists_mem_of_forall₂ hall (hkept.mem_iff.1 he)
        obtain rfl : d = f.2 := eq_of_mem_of_nodup_keys hkeys hd (hkey ▸ hf)
        exact hre

/-- The fields of a well-formed object have values. -/
theorem WellFormed.exists_fieldsToJson? (h : WellFormed (.obj fields)) :
    ∃ entries, fieldsToJson? fields = some entries := by
  obtain ⟨j, hj, -⟩ := h.exists_toJson?
  obtain ⟨entries, hentries, -⟩ := Option.map_eq_some_iff.1 hj
  exact ⟨entries, hentries⟩

/-! ## Fields of objects in another order -/

namespace Reorders

theorem exists_left (h : Reorders (.obj fields) (.obj fields')) (hd : (k, d') ∈ fields') :
    ∃ d, (k, d) ∈ fields ∧ Reorders d d' := by
  rcases h with _ | _ | _ | _ | _ | _ | ⟨-, hperm, hre⟩
  obtain ⟨⟨k', d⟩, hmem, rfl⟩ := List.mem_map.1 (hperm.mem_iff.1 (List.mem_map_of_mem hd))
  exact ⟨d, hmem, hre _ _ _ hmem hd⟩

theorem exists_right (h : Reorders (.obj fields) (.obj fields')) (hd : (k, d) ∈ fields) :
    ∃ d', (k, d') ∈ fields' ∧ Reorders d d' := by
  rcases h with _ | _ | _ | _ | _ | _ | ⟨-, hperm, hre⟩
  obtain ⟨⟨k', d'⟩, hmem, rfl⟩ := List.mem_map.1 (hperm.mem_iff.2 (List.mem_map_of_mem hd))
  exact ⟨d', hmem, hre _ _ _ hd hmem⟩

theorem nodup_keys (h : Reorders (.obj fields) (.obj fields')) :
    (fields.map (·.1)).Nodup ∧ (fields'.map (·.1)).Nodup := by
  rcases h with _ | _ | _ | _ | _ | _ | ⟨hkeys, hperm, -⟩
  exact ⟨hkeys, hperm.nodup_iff.2 hkeys⟩

/-- **What stands at a key is reordered**, or absent from both. -/
theorem rel_lookup (h : Reorders (.obj fields) (.obj fields')) (k : String) :
    Option.Rel Reorders (fields.lookup k) (fields'.lookup k) := by
  obtain ⟨hkeys, hkeys'⟩ := h.nodup_keys
  rcases hd : fields.lookup k with _ | d
  · rcases hd' : fields'.lookup k with _ | d'
    · exact Option.Rel.none
    · obtain ⟨d, hmem, -⟩ := h.exists_left ((lookup_eq_some_iff hkeys').1 hd')
      rw [(lookup_eq_some_iff hkeys).2 hmem] at hd
      cases hd
  · obtain ⟨d', hmem, hre⟩ := h.exists_right ((lookup_eq_some_iff hkeys).1 hd)
    rw [(lookup_eq_some_iff hkeys').2 hmem]
    exact Option.Rel.some hre

/-- Fields that are picked by their keys. -/
theorem filter (h : Reorders (.obj fields) (.obj fields')) (p : String → Bool) :
    Reorders (.obj (fields.filter fun f => p f.1)) (.obj (fields'.filter fun f => p f.1)) := by
  rcases h with _ | _ | _ | _ | _ | _ | ⟨hkeys, hperm, hre⟩
  have hpicked : ∀ fields : List (String × Document),
      (fields.filter fun f => p f.1).map (·.1) = (fields.map (·.1)).filter p := by
    intro fields
    rw [List.filter_map]
    rfl
  refine Reorders.obj ?_ ?_ fun k d d' hd hd' =>
    hre k d d' (List.mem_filter.1 hd).1 (List.mem_filter.1 hd').1
  · rw [hpicked]
    exact hkeys.filter p
  · rw [hpicked, hpicked]
    exact hperm.filter p

end Reorders

/-- **What reorders a well-formed document is well formed.** -/
theorem WellFormed.of_reorders (h : WellFormed d) (hre : Reorders d d') : WellFormed d' := by
  induction h generalizing d' with
  | null => cases hre; exact WellFormed.null
  | bool b => cases hre; exact WellFormed.bool b
  | int n => cases hre; exact WellFormed.int n
  | float x => cases hre; exact WellFormed.float x
  | str s => cases hre; exact WellFormed.str s
  | @arr items h ih =>
    rcases hre with _ | _ | _ | _ | _ | @⟨_, items', hall⟩ | _
    refine WellFormed.arr fun d' hd' => ?_
    obtain ⟨d, hd, hdd'⟩ := exists_mem_of_forall₂ hall hd'
    exact ih d hd hdd'
  | @obj fields hkeys h ih =>
    rcases hre with _ | _ | _ | _ | _ | _ | @⟨_, fields', hkeys, hperm, hre⟩
    have hobj := Reorders.obj hkeys hperm hre
    refine WellFormed.obj hobj.nodup_keys.2 fun f hf => ?_
    obtain ⟨d, hd, hdf⟩ := hobj.exists_left hf
    exact ih (f.1, d) hd hdf

/-! ## Depth -/

theorem depthOfItems_le_iff {items : List Document} {n : Nat} :
    depthOfItems items ≤ n ↔ ∀ d ∈ items, d.depth ≤ n := by
  induction items with
  | nil => simp [depthOfItems]
  | cons d rest ih => rw [depthOfItems, max_le_iff, ih, List.forall_mem_cons]

theorem depthOfFields_le_iff {n : Nat} :
    depthOfFields fields ≤ n ↔ ∀ f ∈ fields, f.2.depth ≤ n := by
  induction fields with
  | nil => simp [depthOfFields]
  | cons f rest ih => rw [depthOfFields, max_le_iff, ih, List.forall_mem_cons]

/-- An item is less deep than the array. -/
theorem depth_lt_of_mem_items {items : List Document} (h : d ∈ items) :
    d.depth < (Document.arr items).depth :=
  Nat.lt_succ_of_le (depthOfItems_le_iff.1 le_rfl d h)

/-- What stands in a field is less deep than the object. -/
theorem depth_lt_of_mem_fields (h : (k, d) ∈ fields) : d.depth < (Document.obj fields).depth :=
  Nat.lt_succ_of_le (depthOfFields_le_iff.1 le_rfl (k, d) h)

/-- **Reordering keeps the depth.** -/
theorem WellFormed.depth_eq (h : WellFormed d) (hre : Reorders d d') : d'.depth = d.depth := by
  induction h generalizing d' with
  | null => cases hre; rfl
  | bool b => cases hre; rfl
  | int n => cases hre; rfl
  | float x => cases hre; rfl
  | str s => cases hre; rfl
  | @arr items h ih =>
    rcases hre with _ | _ | _ | _ | _ | @⟨_, items', hall⟩ | _
    have hsame : depthOfItems items' = depthOfItems items := by
      refine Nat.le_antisymm (depthOfItems_le_iff.2 fun d' hd' => ?_)
        (depthOfItems_le_iff.2 fun d hd => ?_)
      · obtain ⟨d, hd, hdd'⟩ := exists_mem_of_forall₂ hall hd'
        exact (ih d hd hdd').trans_le (depthOfItems_le_iff.1 le_rfl d hd)
      · obtain ⟨d', hd', hdd'⟩ := exists_mem_of_forall₂ hall.flip hd
        exact (ih d hd hdd').ge.trans (depthOfItems_le_iff.1 le_rfl d' hd')
    rw [depth, depth, hsame]
  | @obj fields hkeys h ih =>
    rcases hre with _ | _ | _ | _ | _ | _ | @⟨_, fields', hkeys, hperm, hre⟩
    have hobj := Reorders.obj hkeys hperm hre
    have hsame : depthOfFields fields' = depthOfFields fields := by
      refine Nat.le_antisymm (depthOfFields_le_iff.2 fun f' hf' => ?_)
        (depthOfFields_le_iff.2 fun f hf => ?_)
      · obtain ⟨d, hd, hdd'⟩ := hobj.exists_left hf'
        exact (ih (f'.1, d) hd hdd').trans_le (depthOfFields_le_iff.1 le_rfl _ hd)
      · obtain ⟨d', hd', hdd'⟩ := hobj.exists_right hf
        exact (ih f hf hdd').ge.trans (depthOfFields_le_iff.1 le_rfl _ hd')
    rw [depth, depth, hsame]

end Document

end WorkflowCanvas
