import WorkflowCanvas.Table
import Mathlib.Data.List.Nodup
import Mathlib.Data.String.Basic
/-!
# Tables

Taking a key away takes its value away and leaves every other. Writing
keeps a table sorted, and sorted tables with the same value at every key
are the same table (`Sorted.ext`).
-/


namespace WorkflowCanvas

namespace Table

variable {α : Type}

/-- A key that was taken away has no value. -/
theorem get?_erase_self (t : Table α) (k : String) : get? (erase t k) k = none := by
  simp [get?, erase, List.find?_eq_none]

/-- Taking one key away leaves the value at another. -/
theorem get?_erase_of_ne (t : Table α) {k j : String} (h : j ≠ k) :
    get? (erase t k) j = get? t j := by
  simp only [get?, erase]
  induction t with
  | nil => rfl
  | cons e rest ih =>
    by_cases hk : e.1 = k
    · have hj : (e.1 == j) = false := by simpa [hk] using Ne.symm h
      rw [List.filter_cons_of_neg (by simp [hk]), List.find?_cons_of_neg (by simp [hj])]
      exact ih
    · rw [List.filter_cons_of_pos (by simp [hk])]
      by_cases hj : e.1 = j
      · rw [List.find?_cons_of_pos (by simp [hj]), List.find?_cons_of_pos (by simp [hj])]
      · rw [List.find?_cons_of_neg (by simp [hj]), List.find?_cons_of_neg (by simp [hj])]
        exact ih

/-- What an optional value changes. -/
theorem get?_insertSome (t : Table α) (k j : String) (v? : Option α) :
    get? (insertSome t k v?) j = if j = k then v?.or (get? t j) else get? t j := by
  by_cases h : j = k
  · subst h
    rcases v? with _ | v <;> simp [insertSome, get?_insert_self]
  · rcases v? with _ | v <;> simp [insertSome, get?_insert_of_ne _ _ h, h]

/-- A key without a value is that of no entry. -/
theorem get?_eq_none_iff {t : Table α} {k : String} : get? t k = none ↔ ∀ e ∈ t, e.1 ≠ k := by
  simp [get?, List.find?_eq_none]

/-- A value that is found stands in the table. -/
theorem mem_of_get? {t : Table α} {k : String} {v : α} (h : get? t k = some v) : (k, v) ∈ t := by
  obtain ⟨e, he, rfl⟩ := Option.map_eq_some_iff.1 h
  have hk : e.1 = k := by simpa using List.find?_some he
  exact hk ▸ List.mem_of_find?_eq_some he

/-- Entries of other keys leave a key alone. -/
theorem get?_insertAll_of_forall (t : Table α) {entries : List (String × α)} {k : String}
    (h : ∀ e ∈ entries, e.1 ≠ k) : get? (insertAll t entries) k = get? t k := by
  induction entries generalizing t with
  | nil => rfl
  | cons e rest ih =>
    rw [insertAll, List.foldl_cons]
    exact (ih (insert t e.1 e.2) fun a ha => h a (List.mem_cons_of_mem _ ha)).trans
      (get?_insert_of_ne _ _ (h e List.mem_cons_self).symm)

/-- What entries written one after the other change. -/
theorem get?_insertAll (t : Table α) (entries : List (String × α)) (k : String) :
    get? (insertAll t entries) k = (get? (ofList entries) k).or (get? t k) := by
  have hcongr : ∀ (entries : List (String × α)) (t u : Table α) (v? : Option α),
      get? t k = (get? u k).or v? →
        get? (insertAll t entries) k = (get? (insertAll u entries) k).or v? := by
    intro entries
    induction entries with
    | nil => exact fun _ _ _ h => h
    | cons e rest ih =>
      intro t u v? h
      refine ih (insert t e.1 e.2) (insert u e.1 e.2) v? ?_
      by_cases hk : k = e.1
      · subst hk
        rw [get?_insert_self, get?_insert_self]
        rfl
      · rw [get?_insert_of_ne _ _ hk, get?_insert_of_ne _ _ hk]
        exact h
  exact hcongr entries t [] (get? t k) rfl

/-! ## Sorted tables -/

variable {t u : Table α} {k : String} {v : α}

/-- The entries are in the order of their keys, no two of one key. -/
def Sorted (t : Table α) : Prop := List.Pairwise (fun a b => a.1 < b.1) t

theorem mem_insert {a : String × α} (h : a ∈ insert t k v) : a = (k, v) ∨ a ∈ t := by
  induction t with
  | nil => exact Or.inl (List.mem_singleton.1 h)
  | cons e rest ih =>
    unfold insert at h
    split at h
    · exact List.mem_cons.1 h
    · split at h
      · exact (List.mem_cons.1 h).imp_right (List.mem_cons_of_mem _)
      · rcases List.mem_cons.1 h with rfl | h
        · exact Or.inr List.mem_cons_self
        · exact (ih h).imp_right (List.mem_cons_of_mem _)

/-- **Writing keeps a table sorted.** -/
theorem Sorted.insert (h : Sorted t) (k : String) (v : α) : Sorted (Table.insert t k v) := by
  induction t with
  | nil => exact List.pairwise_singleton _ _
  | cons e rest ih =>
    obtain ⟨hhead, hrest⟩ := List.pairwise_cons.1 h
    unfold Table.insert
    split
    · next hlt =>
      refine List.pairwise_cons.2 ⟨fun a ha => ?_, h⟩
      rcases List.mem_cons.1 ha with rfl | ha
      · exact hlt
      · exact lt_trans hlt (hhead a ha)
    · split
      · next heq => exact List.pairwise_cons.2 ⟨heq ▸ hhead, hrest⟩
      · next hnlt hne =>
        refine List.pairwise_cons.2 ⟨fun a ha => ?_, ih hrest⟩
        rcases mem_insert ha with rfl | ha
        · exact lt_of_le_of_ne (not_lt.1 hnlt) (Ne.symm hne)
        · exact hhead a ha

theorem Sorted.insertAll (h : Sorted t) (entries : List (String × α)) :
    Sorted (Table.insertAll t entries) := by
  induction entries generalizing t with
  | nil => exact h
  | cons e rest ih => exact ih (h.insert e.1 e.2)

theorem Sorted.insertSome (h : Sorted t) (k : String) (v? : Option α) :
    Sorted (Table.insertSome t k v?) := by
  cases v? with
  | none => exact h
  | some v => exact h.insert k v

/-- The value at a key is the one that stands there. -/
theorem Sorted.get?_eq_some_iff (h : Sorted t) : get? t k = some v ↔ (k, v) ∈ t := by
  refine ⟨mem_of_get?, fun hmem => ?_⟩
  rcases hget : get? t k with _ | w
  · exact absurd (List.find?_eq_none.1 (Option.map_eq_none_iff.1 hget) _ hmem) (by simp)
  · have hkeys : (t.map (·.1)).Nodup := List.pairwise_map.2 (h.imp ne_of_lt)
    rw [Prod.mk.inj (List.inj_on_of_nodup_map hkeys (mem_of_get? hget) hmem rfl) |>.2]

/-- **Sorted tables with the same values are the same.** -/
theorem Sorted.ext (ht : Sorted t) (hu : Sorted u) (h : ∀ k, get? t k = get? u k) : t = u := by
  have hnodup : ∀ {t : Table α}, Sorted t → t.Nodup := fun ht =>
    ht.imp fun hlt heq => absurd (heq ▸ hlt) (lt_irrefl _)
  have hperm : t.Perm u := by
    refine (List.perm_ext_iff_of_nodup (hnodup ht) (hnodup hu)).2 fun e => ?_
    rw [← ht.get?_eq_some_iff, ← hu.get?_eq_some_iff, h]
  exact hperm.eq_of_pairwise (fun a b _ _ hab hba => absurd hab (lt_asymm hba)) ht hu

end Table

end WorkflowCanvas
