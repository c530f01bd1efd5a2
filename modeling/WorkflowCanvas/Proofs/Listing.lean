import Mathlib.Data.List.Forall2
import Mathlib.Data.List.Induction
import Mathlib.Data.List.Nodup
/-!
# Lists in the order of positions

A list is made in order from things that stand at positions, some of which
are left out, if it has one value for each thing that stays and has them in
the order of the positions. Such a list may be grown at either end, mapped,
and filtered, and the things at the positions determine it as far as they
determine each of its values.

What walks through a list leaves elements behind and has others ahead of it.
Where a list is cut in two like this, the first element ahead stands at the
position after those behind (`cut_succ`).
-/


namespace WorkflowCanvas

variable {α β γ : Type} {A B : Nat → β → Prop} {R : β → α → Prop} {S : β → γ → Prop}
variable {l : List α} {a : α} {k : Nat} {x : β}

/-! ## Where a list is cut -/

section Cut

variable {all before rest : List β} {P : β → Prop}

/-- A list that is cut before an element is cut behind it as well. -/
theorem cut_succ (h : all = before ++ x :: rest) :
    all[before.length]? = some x ∧ all = (before ++ [x]) ++ rest ∧
      (before ++ [x]).length = before.length + 1 := by
  subst h
  exact ⟨by simp, by simp, List.length_append⟩

/-- With nothing ahead, all positions are behind. -/
theorem lt_of_cut_nil (h : all = before ++ []) (hx : all[k]? = some x) : k < before.length := by
  rw [List.append_nil] at h
  obtain ⟨hlt, -⟩ := List.getElem?_eq_some_iff.1 hx
  rwa [h] at hlt

/-- What stands at the positions behind a cut. -/
theorem exists_lt_getElem?_iff (h : all = before ++ rest) :
    (∃ j < before.length, ∃ y, all[j]? = some y ∧ P y) ↔ ∃ y ∈ before, P y := by
  subst h
  constructor
  · rintro ⟨j, hlt, y, hy, hP⟩
    rw [List.getElem?_append_left hlt] at hy
    exact ⟨y, List.mem_of_getElem? hy, hP⟩
  · rintro ⟨y, hy, hP⟩
    obtain ⟨j, hlt, rfl⟩ := List.mem_iff_getElem.1 hy
    exact ⟨j, hlt, _, by rw [List.getElem?_append_left hlt, List.getElem?_eq_getElem hlt], hP⟩

theorem exists_mem_concat_iff : (∃ y ∈ before ++ [x], P y) ↔ (∃ y ∈ before, P y) ∨ P x := by
  simp only [List.mem_append, List.mem_singleton, or_and_right, exists_or, exists_eq_left]

end Cut

/-- The last that is found is found in the rest of a list, or else at its
head. -/
theorem getLast?_filterMap_cons (f : β → Option α) (x : β) (xs : List β) :
    ((x :: xs).filterMap f).getLast? = (xs.filterMap f).getLast?.or (f x) := by
  rw [List.filterMap_cons]
  split
  · next hnone => rw [hnone, Option.or_none]
  · next a hsome =>
    rw [hsome, List.getLast?_cons]
    cases List.getLast? _ <;> rfl

/-! ## Lists of what stays -/

/-- **The list has a value for each thing at a position, in order**: `A`
says what stands where, and `R` relates a thing to its value. -/
def Lists (A : Nat → β → Prop) (R : β → α → Prop) (l : List α) : Prop :=
  ∃ items : List (Nat × β), items.Pairwise (fun i j => i.1 < j.1) ∧
    (∀ k x, (k, x) ∈ items ↔ A k x) ∧ List.Forall₂ (fun i a => R i.2 a) items l

namespace Lists

/-- Where nothing stands, nothing is listed. -/
theorem nil (h : ∀ k x, ¬ A k x) : Lists A R ([] : List α) :=
  ⟨[], List.Pairwise.nil, fun k x => iff_of_false List.not_mem_nil (h k x), List.Forall₂.nil⟩

theorem congr (h : Lists A R l) (hAB : ∀ k x, A k x ↔ B k x) : Lists B R l := by
  obtain ⟨items, hsorted, hmem, hall⟩ := h
  exact ⟨items, hsorted, fun k x => (hmem k x).trans (hAB k x), hall⟩

/-- A thing behind all others is listed last. -/
theorem concat (h : Lists A R l) (hlast : ∀ j y, A j y → j < k) (ha : R x a)
    (hB : ∀ j y, B j y ↔ A j y ∨ j = k ∧ y = x) : Lists B R (l ++ [a]) := by
  obtain ⟨items, hsorted, hmem, hall⟩ := h
  refine ⟨items ++ [(k, x)], List.pairwise_append.2 ⟨hsorted, List.pairwise_singleton _ _, ?_⟩, ?_,
    List.rel_append hall (List.Forall₂.cons ha List.Forall₂.nil)⟩
  · rintro ⟨j, y⟩ hj _ hk
    rw [List.mem_singleton.1 hk]
    exact hlast j y ((hmem j y).1 hj)
  · intro j y
    rw [List.mem_append, hmem, List.mem_singleton, Prod.mk.injEq]
    exact (hB j y).symm

/-- A thing before all others is listed first. -/
theorem cons (h : Lists A R l) (hfirst : ∀ j y, A j y → k < j) (ha : R x a)
    (hB : ∀ j y, B j y ↔ j = k ∧ y = x ∨ A j y) : Lists B R (a :: l) := by
  obtain ⟨items, hsorted, hmem, hall⟩ := h
  refine ⟨(k, x) :: items, List.pairwise_cons.2 ⟨?_, hsorted⟩, ?_, List.Forall₂.cons ha hall⟩
  · rintro ⟨j, y⟩ hj
    exact hfirst j y ((hmem j y).1 hj)
  · intro j y
    rw [List.mem_cons, hmem, Prod.mk.injEq]
    exact (hB j y).symm

/-- What stands at a position is listed before what stands ahead of it. -/
theorem cons_ahead (h : Lists (fun j y => k + 1 ≤ j ∧ B j y) R l) (hx : ∀ y, B k y ↔ y = x)
    (ha : R x a) : Lists (fun j y => k ≤ j ∧ B j y) R (a :: l) := by
  refine h.cons (k := k) (x := x) (fun j y hj => by omega) ha fun j y => ?_
  constructor
  · rintro ⟨hle, hy⟩
    rcases Nat.eq_or_lt_of_le hle with rfl | hlt
    · exact Or.inl ⟨rfl, (hx y).1 hy⟩
    · exact Or.inr ⟨hlt, hy⟩
  · rintro (⟨rfl, rfl⟩ | ⟨hlt, hy⟩)
    · exact ⟨Nat.le_refl j, (hx y).2 rfl⟩
    · exact ⟨Nat.le_of_succ_le hlt, hy⟩

/-- Where nothing stands at a position, what stands ahead of it is all. -/
theorem skip_ahead (h : Lists (fun j y => k + 1 ≤ j ∧ B j y) R l) (hnot : ∀ y, ¬ B k y) :
    Lists (fun j y => k ≤ j ∧ B j y) R l := by
  refine h.congr fun j y => and_congr_left fun hy => ⟨Nat.le_of_succ_le, fun hle => ?_⟩
  rcases Nat.eq_or_lt_of_le hle with rfl | hlt
  · exact absurd hy (hnot y)
  · exact hlt

/-- What is listed stands somewhere. -/
theorem exists_of_mem (h : Lists A R l) (ha : a ∈ l) : ∃ k x, A k x ∧ R x a := by
  obtain ⟨items, -, hmem, hall⟩ := h
  obtain ⟨n, hn, rfl⟩ := List.mem_iff_getElem.1 ha
  have hlen := hall.length_eq
  have hrel := hall.get (hlen ▸ hn) hn
  exact ⟨_, _, (hmem _ _).1 (List.get_mem items ⟨n, hlen ▸ hn⟩), hrel⟩

/-- What stands somewhere is listed. -/
theorem exists_mem (h : Lists A R l) (hx : A k x) : ∃ a ∈ l, R x a := by
  obtain ⟨items, -, hmem, hall⟩ := h
  obtain ⟨n, hn, heq⟩ := List.mem_iff_getElem.1 ((hmem k x).2 hx)
  have hrel := hall.get hn (hall.length_eq ▸ hn)
  refine ⟨_, List.get_mem l ⟨n, hall.length_eq ▸ hn⟩, ?_⟩
  rwa [List.get_eq_getElem, heq] at hrel

/-- What is listed last stands behind all others. -/
theorem exists_of_getLast? (h : Lists A R l) (ha : l.getLast? = some a) :
    ∃ k x, A k x ∧ R x a ∧ ∀ j y, A j y → j ≤ k := by
  obtain ⟨items, hsorted, hmem, hall⟩ := h
  obtain ⟨before, rfl⟩ := List.getLast?_eq_some_iff.1 ha
  -- what stands last is what remains when the values before the last one are taken away
  obtain ⟨⟨k, x⟩, rest, hx, hrest, hdrop⟩ :=
    List.forall₂_cons_right_iff.1 (List.forall₂_drop_append _ _ _ hall)
  obtain rfl := List.forall₂_nil_right_iff.1 hrest
  have hcut := List.take_append_drop before.length items
  rw [hdrop] at hcut
  generalize items.take before.length = front at hcut
  subst hcut
  refine ⟨k, x, (hmem k x).1 (List.mem_append_right _ (List.mem_singleton_self _)), hx,
    fun j y hj => ?_⟩
  rcases List.mem_append.1 ((hmem j y).2 hj) with hj | hj
  · exact Nat.le_of_lt ((List.pairwise_append.1 hsorted).2.2 _ hj _ (List.mem_singleton_self _))
  · exact Nat.le_of_eq (Prod.mk.inj (List.mem_singleton.1 hj)).1

/-- Every list has its own elements at its positions. -/
theorem of_list (xs : List β) : Lists (fun k x => xs[k]? = some x) Eq xs := by
  induction xs using List.reverseRecOn with
  | nil => exact nil fun _ _ h => nomatch h
  | append_singleton xs x ih =>
    refine ih.concat (k := xs.length) (fun j y hy => (List.getElem?_eq_some_iff.1 hy).1) rfl
      fun j y => ?_
    rcases Nat.lt_trichotomy j xs.length with hlt | rfl | hlt
    · rw [List.getElem?_append_left hlt]
      exact (or_iff_left fun h => absurd h.1 (Nat.ne_of_lt hlt)).symm
    · rw [List.getElem?_concat_length, Option.some_inj, List.getElem?_eq_none (Nat.le_refl _)]
      simp [eq_comm]
    · rw [List.getElem?_eq_none (by simp; omega), List.getElem?_eq_none (Nat.le_of_lt hlt)]
      simp [Nat.ne_of_gt hlt]

/-- The positions of what is listed: as many as there are values. -/
theorem exists_positions (h : Lists A R l) :
    ∃ ks : List Nat, ks.Nodup ∧ (∀ k, k ∈ ks ↔ ∃ x, A k x) ∧ ks.length = l.length := by
  obtain ⟨items, hsorted, hmem, hall⟩ := h
  refine ⟨items.map (·.1), List.pairwise_map.2 (hsorted.imp Nat.ne_of_lt), fun k => ?_, ?_⟩
  · rw [List.mem_map]
    constructor
    · rintro ⟨⟨k, x⟩, hi, rfl⟩
      exact ⟨x, (hmem k x).1 hi⟩
    · rintro ⟨x, hx⟩
      exact ⟨(k, x), (hmem k x).2 hx, rfl⟩
  · rw [List.length_map, hall.length_eq]

/-! ## Lists made of lists -/

/-- Some of what is listed is listed as well. -/
theorem exists_restrict (h : Lists A R l) (Q : Nat → β → Prop) :
    ∃ l', Lists (fun k x => A k x ∧ Q k x) R l' := by
  classical
  obtain ⟨items, hsorted, hmem, hall⟩ := h
  have hrest : ∃ l', List.Forall₂ (fun i a => R i.2 a)
      (items.filter fun i => decide (Q i.1 i.2)) l' := by
    clear hsorted hmem
    induction hall with
    | nil => exact ⟨[], List.Forall₂.nil⟩
    | @cons i a items l ha _ ih =>
      obtain ⟨l', hl'⟩ := ih
      by_cases hi : Q i.1 i.2
      · rw [List.filter_cons_of_pos (by simpa using hi)]
        exact ⟨a :: l', List.Forall₂.cons ha hl'⟩
      · rw [List.filter_cons_of_neg (by simpa using hi)]
        exact ⟨l', hl'⟩
  obtain ⟨l', hl'⟩ := hrest
  refine ⟨l', _, hsorted.filter _, fun k x => ?_, hl'⟩
  rw [List.mem_filter, hmem, decide_eq_true_iff]

/-- **Where positions are shared out between two lists**, the lengths of the two
add up. -/
theorem length_eq_add {β' β'' γ' γ'' : Type} {B' : Nat → β' → Prop} {C : Nat → β'' → Prop}
    {R' : β' → γ' → Prop} {T : β'' → γ'' → Prop} {m : List γ'} {q : List γ''}
    (hl : Lists A R l) (hm : Lists B' R' m) (hq : Lists C T q)
    (hapart : ∀ k x y, A k x → ¬ B' k y)
    (hall : ∀ k, (∃ z, C k z) ↔ (∃ x, A k x) ∨ ∃ y, B' k y) : q.length = l.length + m.length := by
  obtain ⟨ks, hks, hmemks, hlenks⟩ := hl.exists_positions
  obtain ⟨ms, hms, hmemms, hlenms⟩ := hm.exists_positions
  obtain ⟨qs, hqs, hmemqs, hlenqs⟩ := hq.exists_positions
  have hdisjoint : List.Disjoint ks ms := by
    intro k hk hk'
    obtain ⟨x, hx⟩ := (hmemks k).1 hk
    obtain ⟨y, hy⟩ := (hmemms k).1 hk'
    exact hapart k x y hx hy
  have hperm : qs.Perm (ks ++ ms) := by
    refine (List.perm_ext_iff_of_nodup hqs (hks.append hms hdisjoint)).2 fun k => ?_
    rw [List.mem_append, hmemqs, hmemks, hmemms, hall]
  rw [← hlenks, ← hlenms, ← hlenqs, hperm.length_eq, List.length_append]

/-- Related lists stay related where both are thinned out alike. -/
theorem forall₂_filterMap {items : List β} {Q : β → Prop} [DecidablePred Q] {f : α → Option γ}
    (h : List.Forall₂ R items l)
    (hkeep : ∀ x ∈ items, ∀ a, R x a → Q x → ∃ b, f a = some b ∧ S x b)
    (hdrop : ∀ x ∈ items, ∀ a, R x a → ¬ Q x → f a = none) :
    List.Forall₂ S (items.filter fun x => decide (Q x)) (l.filterMap f) := by
  induction h with
  | nil => exact List.Forall₂.nil
  | @cons x a items l ha _ ih =>
    have ih := ih (fun y hy => hkeep y (List.mem_cons_of_mem _ hy))
      fun y hy => hdrop y (List.mem_cons_of_mem _ hy)
    by_cases hx : Q x
    · obtain ⟨b, hb, hxb⟩ := hkeep x List.mem_cons_self a ha hx
      rw [List.filter_cons_of_pos (by simpa using hx), List.filterMap_cons_some hb]
      exact List.Forall₂.cons hxb ih
    · rw [List.filter_cons_of_neg (by simpa using hx),
        List.filterMap_cons_none (hdrop x List.mem_cons_self a ha hx)]
      exact ih

/-- **What stays of a list** goes with the things that stay. -/
theorem filterMap {Q : β → Prop} {f : α → Option γ} (h : Lists A R l)
    (hkeep : ∀ k x a, A k x → R x a → Q x → ∃ b, f a = some b ∧ S x b)
    (hdrop : ∀ k x a, A k x → R x a → ¬ Q x → f a = none) :
    Lists (fun k x => A k x ∧ Q x) S (l.filterMap f) := by
  classical
  obtain ⟨items, hsorted, hmem, hall⟩ := h
  refine ⟨items.filter fun i => decide (Q i.2), hsorted.filter _, fun k x => ?_, ?_⟩
  · rw [List.mem_filter, hmem, decide_eq_true_iff]
  · refine forall₂_filterMap hall ?_ ?_
    · rintro ⟨k, x⟩ hi a
      exact hkeep k x a ((hmem k x).1 hi)
    · rintro ⟨k, x⟩ hi a
      exact hdrop k x a ((hmem k x).1 hi)

theorem filter {Q : β → Prop} {p : α → Bool} (h : Lists A R l)
    (hp : ∀ k x a, A k x → R x a → (p a = true ↔ Q x)) :
    Lists (fun k x => A k x ∧ Q x) R (l.filter p) := by
  rw [← List.filterMap_eq_filter]
  refine h.filterMap (fun k x a hx ha hQ => ⟨a, ?_, ha⟩) fun k x a hx ha hQ => ?_
  · rw [Option.guard_eq_some_iff]
    exact ⟨rfl, (hp k x a hx ha).2 hQ⟩
  · rw [Option.guard_eq_none_iff, ← Bool.not_eq_true, hp k x a hx ha]
    exact hQ

theorem map {f : α → γ} (h : Lists A R l) (hf : ∀ k x a, A k x → R x a → S x (f a)) :
    Lists A S (l.map f) := by
  rw [← List.filterMap_eq_map]
  refine (h.filterMap (Q := fun _ => True) (fun k x a hx ha _ => ⟨f a, rfl, hf k x a hx ha⟩)
    fun k x a hx ha hQ => absurd trivial hQ).congr fun k x => and_iff_left trivial

theorem imp {R' : β → α → Prop} (h : Lists A R l) (hR : ∀ k x a, A k x → R x a → R' x a) :
    Lists A R' l := by
  rw [← List.map_id l]
  exact h.map hR

/-! ## Values apart -/

/-- What is listed, by the things at the positions. -/
theorem map_eq {f : α → γ} {g : β → γ} (h : Lists A R l)
    (hfg : ∀ k x a, A k x → R x a → f a = g x) :
    ∃ items : List (Nat × β), items.Nodup ∧ (∀ k x, (k, x) ∈ items ↔ A k x) ∧
      l.map f = items.map fun i => g i.2 := by
  obtain ⟨items, hsorted, hmem, hall⟩ := h.map (S := fun x c => c = g x) hfg
  refine ⟨items, hsorted.imp fun hlt heq => absurd (heq ▸ hlt) (Nat.lt_irrefl _), hmem, ?_⟩
  rw [← List.forall₂_eq_eq_eq, List.forall₂_map_right_iff]
  exact hall.flip.imp fun _ _ h => h

/-- **Values are apart** exactly if things at different positions have
different values. -/
theorem nodup_map_iff {f : α → γ} {g : β → γ} (h : Lists A R l)
    (hfg : ∀ k x a, A k x → R x a → f a = g x) :
    (l.map f).Nodup ↔ ∀ j x k y, A j x → A k y → g x = g y → (j, x) = (k, y) := by
  obtain ⟨items, hnodup, hmem, heq⟩ := h.map_eq hfg
  rw [heq, List.nodup_map_iff_inj_on hnodup]
  constructor
  · intro hinj j x k y hx hy
    exact hinj (j, x) ((hmem j x).2 hx) (k, y) ((hmem k y).2 hy)
  · rintro hinj ⟨j, x⟩ hx ⟨k, y⟩ hy
    exact hinj j x k y ((hmem j x).1 hx) ((hmem k y).1 hy)

end Lists

end WorkflowCanvas
