import WorkflowCanvas.Engine.Roster
import Mathlib.Data.List.Nodup
import Mathlib.Data.List.Sort
/-!
# The numbers of a roster

The numbers that instances are enrolled under are apart and below the next one
(`Counted`): a new instance takes the next number, and an instance that is put
in the place of another takes over its number. Where numbers are apart, what a
roster lists is determined by its entries and not by their order
(`Counted.snapshot_of_perm`). So all instances are listed in the order in which
they were enrolled (`Counted.snapshot_enrol`), and those in some states are
listed where they stand among all (`Counted.snapshot_eq_filter`).
-/


namespace WorkflowCanvas

namespace Enrolment

variable {l l' : List Enrolment}

theorem place_eq (s : Enrolment) (l : List Enrolment) :
    place s l = l.orderedInsert (fun s t => s.number ≤ t.number) s := by
  induction l with
  | nil => rfl
  | cons t rest ih => rw [place, List.orderedInsert_cons, ih]

theorem sort_eq (l : List Enrolment) :
    sort l = l.insertionSort fun s t => s.number ≤ t.number := by
  induction l with
  | nil => rfl
  | cons s rest ih => rw [sort, List.insertionSort_cons, ih, place_eq]

theorem perm_sort (l : List Enrolment) : (sort l).Perm l :=
  sort_eq l ▸ List.perm_insertionSort _ l

instance : Std.Total fun s t : Enrolment => s.number ≤ t.number :=
  ⟨fun s t => Nat.le_total s.number t.number⟩

instance : IsTrans Enrolment fun s t => s.number ≤ t.number :=
  ⟨fun _ _ _ => Nat.le_trans⟩

theorem pairwise_sort (l : List Enrolment) :
    (sort l).Pairwise fun s t => s.number ≤ t.number :=
  sort_eq l ▸ List.pairwise_insertionSort _ l

/-- What keeps the numbers keeps the order. -/
theorem sort_map {f : Enrolment → Enrolment} (hf : ∀ s, (f s).number = s.number)
    (l : List Enrolment) : sort (l.map f) = (sort l).map f := by
  rw [sort_eq, sort_eq]
  exact (List.map_insertionSort _ _ f l fun s _ t _ => by rw [hf, hf]).symm

/-- **Where numbers are apart**, there is one order of the numbers. -/
theorem eq_sort (hnodup : (l.map (·.number)).Nodup) (hperm : l'.Perm l)
    (hsorted : l'.Pairwise fun s t => s.number ≤ t.number) : l' = sort l :=
  (hperm.trans (perm_sort l).symm).eq_of_pairwise
    (fun _ _ hs ht hst hts => List.inj_on_of_nodup_map hnodup (hperm.mem_iff.1 hs)
      ((perm_sort l).mem_iff.1 ht) (Nat.le_antisymm hst hts))
    hsorted (pairwise_sort l)

end Enrolment

namespace Roster

open Enrolment (sort perm_sort pairwise_sort eq_sort)

variable {r : Roster} {i : Instance} {id : String} {keep : InstanceState → Bool}
variable {entries : List Enrolment}

/-! ## What is listed -/

theorem mem_snapshot : i ∈ r.snapshot keep ↔ keep i.state = true ∧ ∃ s ∈ r.entries, s.inst = i := by
  simp only [snapshot, List.mem_map, (perm_sort _).mem_iff, List.mem_filter]
  constructor
  · rintro ⟨s, ⟨hs, hkeep⟩, rfl⟩
    exact ⟨hkeep, s, hs, rfl⟩
  · rintro ⟨hkeep, s, hs, rfl⟩
    exact ⟨s, ⟨hs, hkeep⟩, rfl⟩

theorem mem_all : i ∈ r.snapshot (fun _ => true) ↔ ∃ s ∈ r.entries, s.inst = i :=
  mem_snapshot.trans (and_iff_right rfl)

theorem snapshot_all (r : Roster) :
    r.snapshot (fun _ => true) = (sort r.entries).map (·.inst) := by
  rw [snapshot, List.filter_true]

theorem mem_of_find? (h : r.find? id = some i) :
    i ∈ r.snapshot (fun _ => true) ∧ i.id = id := by
  obtain ⟨s, hs, rfl⟩ := Option.map_eq_some_iff.1 h
  exact ⟨mem_all.2 ⟨s, List.mem_of_find?_eq_some hs, rfl⟩, by simpa using List.find?_some hs⟩

theorem find?_eq_none_iff :
    r.find? id = none ↔ ∀ i ∈ r.snapshot (fun _ => true), i.id ≠ id := by
  rw [find?, Option.map_eq_none_iff, List.find?_eq_none]
  simp only [mem_all, beq_iff_eq]
  exact ⟨fun h _ ⟨s, hs, heq⟩ => heq ▸ h s hs, fun h s hs => h s.inst ⟨s, hs, rfl⟩⟩

/-- **An instance is replaced where it stands.** -/
theorem snapshot_replace (r : Roster) (i : Instance) :
    (r.replace i).snapshot (fun _ => true) =
      (r.snapshot fun _ => true).map fun j => if j.id == i.id then i else j := by
  have hnumber : ∀ s : Enrolment,
      (if s.inst.id == i.id then { s with inst := i } else s : Enrolment).number = s.number := by
    intro s
    split <;> rfl
  rw [snapshot_all, snapshot_all, replace, Enrolment.sort_map hnumber, List.map_map, List.map_map]
  refine List.map_congr_left fun s _ => ?_
  rw [Function.comp, Function.comp, apply_ite Enrolment.inst]

/-! ## Numbers -/

/-- The numbers of a roster with the ids that are enrolled under them. -/
def numbering (r : Roster) : List (Nat × String) :=
  r.entries.map fun s => (s.number, s.inst.id)

theorem mem_numbering {n : Nat} :
    (n, id) ∈ r.numbering ↔ ∃ s ∈ r.entries, s.number = n ∧ s.inst.id = id := by
  simp only [numbering, List.mem_map, Prod.mk.injEq]

theorem map_fst_numbering (r : Roster) :
    r.numbering.map Prod.fst = r.entries.map (·.number) := by
  rw [numbering, List.map_map]
  rfl

/-- **An instance that is replaced** leaves its number to one of its id. -/
theorem numbering_replace (r : Roster) (i : Instance) :
    (r.replace i).numbering = r.numbering := by
  rw [numbering, numbering, replace, List.map_map]
  refine List.map_congr_left fun s _ => ?_
  by_cases h : s.inst.id = i.id <;> simp [h]

/-- Nobody but the newest instance has its id. -/
theorem replace_enrol {j : Instance} (hid : j.id = i.id)
    (hnew : ∀ k ∈ r.snapshot (fun _ => true), k.id ≠ i.id) :
    (r.enrol i).replace j = r.enrol j := by
  have hothers : (r.entries.map fun s => if s.inst.id == j.id then { s with inst := j } else s) =
      r.entries := by
    refine (List.map_congr_left fun s hs => ?_).trans (List.map_id _)
    have hne : s.inst.id ≠ j.id := hid ▸ hnew s.inst (mem_all.2 ⟨s, hs, rfl⟩)
    rw [if_neg (by simpa using hne), id]
  rw [replace, enrol, List.map_cons, hothers, if_pos (by simp [hid])]
  rfl

/-- **The numbers are apart** and have all been drawn. -/
structure Counted (r : Roster) : Prop where
  numbers_nodup : (r.entries.map (·.number)).Nodup
  number_lt : ∀ s ∈ r.entries, s.number < r.next

theorem counted_empty : Counted {} := ⟨List.nodup_nil, nofun⟩

namespace Counted

/-- A new instance has a number above all others. -/
theorem enrol (h : r.Counted) (i : Instance) : (r.enrol i).Counted where
  numbers_nodup := by
    refine List.nodup_cons.2 ⟨fun hmem => ?_, h.numbers_nodup⟩
    obtain ⟨s, hs, heq⟩ := List.mem_map.1 hmem
    exact Nat.lt_irrefl _ (heq ▸ h.number_lt s hs)
  number_lt s hs := by
    rcases List.mem_cons.1 hs with rfl | hs
    · exact Nat.lt_succ_self r.next
    · exact Nat.lt_succ_of_lt (h.number_lt s hs)

/-- No number is drawn where an instance is replaced. -/
theorem replace (h : r.Counted) (i : Instance) : (r.replace i).Counted where
  numbers_nodup := by
    rw [← map_fst_numbering, numbering_replace, map_fst_numbering]
    exact h.numbers_nodup
  number_lt s hs := by
    have hmem := mem_numbering.2 ⟨s, hs, rfl, rfl⟩
    rw [numbering_replace] at hmem
    obtain ⟨t, ht, heq, -⟩ := mem_numbering.1 hmem
    exact heq ▸ h.number_lt t ht

theorem of_perm (h : r.Counted) (hperm : entries.Perm r.entries) :
    ({ r with entries } : Roster).Counted where
  numbers_nodup := (hperm.map _).nodup_iff.2 h.numbers_nodup
  number_lt s hs := h.number_lt s (hperm.mem_iff.1 hs)

theorem nodup_filter (h : r.Counted) (p : Enrolment → Bool) :
    ((r.entries.filter p).map (·.number)).Nodup :=
  h.numbers_nodup.sublist (List.filter_sublist.map _)

/-- **A new instance is listed last.** -/
theorem snapshot_enrol (h : r.Counted) (i : Instance) :
    (r.enrol i).snapshot (fun _ => true) = r.snapshot (fun _ => true) ++ [i] := by
  have hlast : sort r.entries ++ [⟨r.next, i⟩] = sort (r.enrol i).entries := by
    refine eq_sort (h.enrol i).numbers_nodup ?_ ?_
    · exact (List.perm_append_singleton _ _).trans ((perm_sort _).cons _)
    · refine List.pairwise_append.2 ⟨pairwise_sort _, List.pairwise_singleton _ _, ?_⟩
      intro s hs t ht
      rw [List.mem_singleton.1 ht]
      exact Nat.le_of_lt (h.number_lt s ((perm_sort _).mem_iff.1 hs))
  rw [snapshot_all, snapshot_all, ← hlast, List.map_append, List.map_singleton]

/-- **The instances in some states** are listed as they are among all. -/
theorem snapshot_eq_filter (h : r.Counted) (keep : InstanceState → Bool) :
    r.snapshot keep = (r.snapshot fun _ => true).filter fun i => keep i.state := by
  have hfilter : (sort r.entries).filter (fun s => keep s.inst.state) =
      sort (r.entries.filter fun s => keep s.inst.state) :=
    eq_sort (h.nodup_filter _) ((perm_sort _).filter _) ((pairwise_sort _).filter _)
  rw [snapshot_all, List.filter_map, snapshot, ← hfilter]
  rfl

/-- Where the numbers are those below some bound, sorting puts them in a row. -/
theorem map_number_sort (h : r.Counted) {n : Nat}
    (hlt : ∀ m, m ∈ r.entries.map (·.number) ↔ m < n) :
    (sort r.entries).map (·.number) = List.range n := by
  have hperm : ((sort r.entries).map (·.number)).Perm (List.range n) := by
    refine ((perm_sort _).map _).trans ?_
    refine (List.perm_ext_iff_of_nodup h.numbers_nodup List.nodup_range).2 fun m => ?_
    rw [hlt, List.mem_range]
  exact hperm.eq_of_pairwise (fun _ _ _ _ => Nat.le_antisymm)
    (List.pairwise_map.2 (pairwise_sort _)) List.pairwise_le_range

/-- **The order in which entries are kept does not show** in what is listed. -/
theorem snapshot_of_perm (h : r.Counted) (hperm : entries.Perm r.entries)
    (keep : InstanceState → Bool) :
    ({ r with entries } : Roster).snapshot keep = r.snapshot keep := by
  have hsort : sort (entries.filter fun s => keep s.inst.state) =
      sort (r.entries.filter fun s => keep s.inst.state) :=
    eq_sort (h.nodup_filter _) ((perm_sort _).trans (hperm.filter _)) (pairwise_sort _)
  rw [snapshot, snapshot, hsort]

end Counted

end Roster

end WorkflowCanvas
