import WorkflowCanvas.Canvas.OfSketch
import WorkflowCanvas.Proofs.Text
import Mathlib.Data.Finset.Card
import Mathlib.Order.Bounds.Basic
import Mathlib.Order.Interval.Finset.Nat
/-!
# Shape ids

A shape id is a text that is not empty, of ASCII letters and digits, `_` and
`-`. None of these characters is blank, so that a shape id stays what it is
when it is trimmed. An edge claims the id it was given, if that is free, or
else the first free one of its candidates; among the candidates up to one
more than the ids in use there is a free one (`edge_id_claimed`).
-/


namespace WorkflowCanvas

namespace Canvas

open Sketch (Edge)

variable {id base : String} {taken : List String}

/-- **A shape id**: a text that is not empty, of the characters that an id
may hold. -/
def IsShapeId (id : String) : Prop := id ≠ "" ∧ ∀ c ∈ id.toList, isIdChar c = true

/-! ## Ids and blanks -/

/-- No character of an id is blank. -/
theorem isBlank_of_isIdChar {c : Char} (h : isIdChar c = true) : Text.isBlank c = false := by
  have hclass : (decide (c.val ≥ 'A'.val ∧ c.val ≤ 'Z'.val) ||
      (decide (c.val ≥ 'a'.val) && decide (c.val ≤ 'z'.val)) ||
      (decide (c.val ≥ '0'.val) && decide (c.val ≤ '9'.val)) || c == '_' || c == '-') = true := h
  simp only [Bool.or_eq_true, Bool.and_eq_true, decide_eq_true_eq, beq_iff_eq, ge_iff_le,
    UInt32.le_iff_toNat_le] at hclass
  change ((((65 ≤ c.toNat ∧ c.toNat ≤ 90) ∨ (97 ≤ c.toNat ∧ c.toNat ≤ 122)) ∨
    (48 ≤ c.toNat ∧ c.toNat ≤ 57)) ∨ c = '_') ∨ c = '-' at hclass
  have hcode : c.toNat = 45 ∨ 48 ≤ c.toNat ∧ c.toNat ≤ 57 ∨ 65 ≤ c.toNat ∧ c.toNat ≤ 90 ∨
      c.toNat = 95 ∨ 97 ≤ c.toNat ∧ c.toNat ≤ 122 := by
    rcases hclass with (hclass | rfl) | rfl
    · omega
    · decide
    · decide
  simp only [Text.isBlank, Text.inRanges, Text.blankRanges, List.any_cons, List.any_nil,
    Bool.or_false, Bool.or_eq_false_iff, Bool.and_eq_false_iff, decide_eq_false_iff_not]
  omega

/-- A text without blanks is trimmed to itself. -/
theorem trim_eq_self (h : ∀ c ∈ id.toList, Text.isBlank c = false) : Text.trim id = id := by
  refine Text.trim_eq_self_iff.2 (Text.trimChars_eq_self_iff.2 ⟨fun c hc => ?_, fun c hc => ?_⟩)
  · exact h c (List.mem_of_mem_head? hc)
  · exact h c (List.mem_of_mem_getLast? hc)

/-- A shape id is not blank, and is its own trimmed text. -/
theorem IsShapeId.nonBlank?_eq (h : IsShapeId id) : Text.nonBlank? id = some id := by
  rw [Text.nonBlank?, trim_eq_self fun c hc => isBlank_of_isIdChar (h.2 c hc)]
  exact if_neg h.1

theorem ne_empty_of_nonBlank (h : (Text.nonBlank? id).isSome = true) : id ≠ "" := by
  rintro rfl
  exact absurd h (by decide)

/-! ## Sanitized ids -/

theorem isIdChar_of_mem_sanitizeId {c : Char} (h : c ∈ (sanitizeId id).toList) :
    isIdChar c = true := by
  rw [sanitizeId, String.toList_ofList] at h
  obtain ⟨b, -, rfl⟩ := List.mem_map.1 h
  split
  · assumption
  · rfl

theorem sanitizeId_ne_empty (h : id ≠ "") : sanitizeId id ≠ "" := by
  intro hempty
  have hlen := congrArg (fun s => s.toList.length) hempty
  simp only [sanitizeId, String.toList_ofList, List.length_map] at hlen
  exact h (String.toList_inj.1 (List.eq_nil_of_length_eq_zero hlen))

/-- **What is not empty is sanitized to a shape id.** -/
theorem isShapeId_sanitizeId (h : id ≠ "") : IsShapeId (sanitizeId id) :=
  ⟨sanitizeId_ne_empty h, fun _ hc => isIdChar_of_mem_sanitizeId hc⟩

/-! ## Candidates -/

theorem isShapeId_flowBase (e : Edge) : IsShapeId (flowBase e) := by
  refine isShapeId_sanitizeId fun hempty => ?_
  have hlen := congrArg (fun s => s.toList.length) hempty
  simp at hlen

/-- The characters of a candidate: those of the base, and from two on a
number. -/
theorem toList_candidate (base : String) (n : Nat) :
    (candidate base n).toList =
      base.toList ++ if n = 1 then [] else '_' :: Nat.toDigits 10 n := by
  rw [candidate]
  split <;> simp [Nat.toString_eq_repr, Nat.toList_repr]

/-- A number added to the base adds characters of an id only. -/
theorem IsShapeId.candidate (h : IsShapeId base) (n : Nat) : IsShapeId (candidate base n) := by
  refine ⟨fun hempty => ?_, fun c hc => ?_⟩
  · have hnil := congrArg String.toList hempty
    rw [toList_candidate, String.toList_empty, List.append_eq_nil_iff] at hnil
    exact h.1 (String.toList_inj.1 hnil.1)
  · rw [toList_candidate, List.mem_append] at hc
    rcases hc with hc | hc
    · exact h.2 c hc
    · split at hc
      · cases hc
      · rcases List.mem_cons.1 hc with rfl | hc
        · rfl
        · simp [isIdChar, Char.isAlphanum, Nat.isDigit_of_mem_toDigits (by omega) (by omega) hc]

/-- **The candidates are apart**, as their numbers can be read off them. -/
theorem candidate_injective (base : String) : Function.Injective (candidate base) := by
  intro m n h
  have hsuffix := congrArg String.toList h
  rw [toList_candidate, toList_candidate] at hsuffix
  have hsuffix := List.append_cancel_left hsuffix
  split at hsuffix <;> split at hsuffix
  · omega
  · cases hsuffix
  · cases hsuffix
  · have hread := congrArg (fun digits => Nat.ofDigitChars 10 digits 0) (List.cons.inj hsuffix).2
    simpa using hread

/-- **One of the candidates is free**: there is a first one, and its number is at
most one more than that of the ids in use. -/
theorem exists_isLeast_free (taken : List String) (base : String) :
    ∃ n, IsLeast {m | 1 ≤ m ∧ candidate base m ∉ taken} n ∧ n ≤ taken.toFinset.card + 1 := by
  -- so many candidates are apart, and they are one too many to be in use
  have hcard : taken.toFinset.card <
      ((Finset.Icc 1 (taken.toFinset.card + 1)).image (candidate base)).card := by
    rw [Finset.card_image_of_injective _ (candidate_injective base), Nat.card_Icc]
    omega
  obtain ⟨id, hid, hfree⟩ := Finset.exists_mem_notMem_of_card_lt_card hcard
  obtain ⟨m, hm, rfl⟩ := Finset.mem_image.1 hid
  rw [Finset.mem_Icc] at hm
  rw [List.mem_toFinset] at hfree
  have hsome : ∃ m, 1 ≤ m ∧ candidate base m ∉ taken := ⟨m, hm.1, hfree⟩
  refine ⟨Nat.find hsome, ⟨Nat.find_spec hsome, fun j hj => Nat.find_min' hsome hj⟩, ?_⟩
  exact (Nat.find_min' hsome ⟨hm.1, hfree⟩).trans hm.2

/-- **The search comes to the first candidate that is free**, once it has the
tries for the candidates up to it. -/
theorem freeCandidate?_eq {n m : Nat} (hle : n ≤ m) (hfree : candidate base m ∉ taken)
    (hbefore : ∀ j, n ≤ j → j < m → candidate base j ∈ taken) (tries : Nat) :
    freeCandidate? taken base tries n =
      if m < n + tries then some (candidate base m) else none := by
  induction tries generalizing n with
  | zero => rw [if_neg (by omega), freeCandidate?]
  | succ tries ih =>
    rw [freeCandidate?]
    rcases Nat.eq_or_lt_of_le hle with rfl | hlt
    · rw [if_neg (mt List.contains_iff_mem.1 hfree), if_pos (by omega)]
    · rw [if_pos (List.contains_iff_mem.2 (hbefore n (Nat.le_refl n) hlt)),
        ih hlt fun j hj => hbefore j (by omega)]
      simp only [Nat.add_right_comm n 1 tries, Nat.add_assoc n tries 1]

/-- The search from the first candidate on. -/
theorem freeCandidate?_of_isLeast {n : Nat}
    (h : IsLeast {m | 1 ≤ m ∧ candidate base m ∉ taken} n) (tries : Nat) :
    freeCandidate? taken base tries 1 = if n ≤ tries then some (candidate base n) else none := by
  obtain ⟨⟨hle, hfree⟩, hleast⟩ := h
  have hbefore : ∀ j, 1 ≤ j → j < n → candidate base j ∈ taken := by
    intro j hj hlt
    by_contra hnot
    exact absurd (hleast ⟨hj, hnot⟩) (Nat.not_le.2 hlt)
  rw [freeCandidate?_eq hle hfree hbefore]
  simp only [Nat.lt_add_one_iff, Nat.add_comm 1 tries]

/-! ## Claims -/

/-- **The edge claims a free id**: the one it was given, sanitized, or the
first of its candidates that is not in use. -/
def ClaimsId (inUse : String → Prop) (e : Edge) (id : String) : Prop :=
  ¬ inUse id ∧
    if (Text.nonBlank? e.id).isSome then id = sanitizeId e.id
    else ∃ n, 1 ≤ n ∧ id = candidate (flowBase e) n ∧
      ∀ m, 1 ≤ m → m < n → inUse (candidate (flowBase e) m)

/-- An edge claims one id at most. -/
theorem ClaimsId.eq {inUse : String → Prop} {e : Edge} {id' : String} (h : ClaimsId inUse e id)
    (h' : ClaimsId inUse e id') : id = id' := by
  obtain ⟨hfree, hid⟩ := h
  obtain ⟨hfree', hid'⟩ := h'
  split at hid
  · rw [if_pos ‹_›] at hid'
    rw [hid, hid']
  · rw [if_neg ‹_›] at hid'
    obtain ⟨n, hn, rfl, hbefore⟩ := hid
    obtain ⟨m, hm, rfl, hbefore'⟩ := hid'
    rcases Nat.lt_trichotomy n m with hlt | rfl | hlt
    · exact absurd (hbefore' n hn hlt) hfree
    · rfl
    · exact absurd (hbefore m hm hlt) hfree'

/-- What is claimed is a shape id. -/
theorem ClaimsId.isShapeId {inUse : String → Prop} {e : Edge} (h : ClaimsId inUse e id) :
    IsShapeId id := by
  obtain ⟨-, hid⟩ := h
  split at hid
  · rw [hid]
    exact isShapeId_sanitizeId (ne_empty_of_nonBlank ‹_›)
  · obtain ⟨n, -, rfl, -⟩ := hid
    exact (isShapeId_flowBase e).candidate n

/-- An edge with an id gets it, if it is free. -/
theorem claimId_of_given {e : Edge} (hid : (Text.nonBlank? e.id).isSome = true) :
    claimId taken e =
      if sanitizeId e.id ∈ taken then (none, taken)
      else (some (sanitizeId e.id), sanitizeId e.id :: taken) := by
  rw [claimId, if_pos hid]
  simp only [List.contains_iff_mem]

/-- An edge without an id gets the first candidate that is free. -/
theorem claimId_of_blank {e : Edge} {n : Nat} (hid : ¬ (Text.nonBlank? e.id).isSome = true)
    (hn : IsLeast {m | 1 ≤ m ∧ candidate (flowBase e) m ∉ taken} n) :
    claimId taken e = (some (candidate (flowBase e) n), candidate (flowBase e) n :: taken) := by
  obtain ⟨least, hleast, hbound⟩ := exists_isLeast_free taken (flowBase e)
  obtain rfl := hleast.unique hn
  have hcard : taken.toFinset.card ≤ taken.length := List.toFinset_card_le taken
  rw [claimId, if_neg hid, freeCandidate?_of_isLeast hn, if_pos (by omega)]

/-- The id that an edge gets is taken, and else no other. -/
theorem claimId_snd (taken : List String) (e : Edge) :
    (claimId taken e).2 = (claimId taken e).1.toList ++ taken := by
  by_cases hid : (Text.nonBlank? e.id).isSome = true
  · rw [claimId_of_given hid]
    split <;> rfl
  · obtain ⟨n, hn, -⟩ := exists_isLeast_free taken (flowBase e)
    rw [claimId_of_blank hid hn]
    rfl

/-- **An edge gets the id it claims.** -/
theorem claimId_fst_eq_some_iff {e : Edge} :
    (claimId taken e).1 = some id ↔ ClaimsId (· ∈ taken) e id := by
  by_cases hid : (Text.nonBlank? e.id).isSome = true
  · rw [claimId_of_given hid, ClaimsId, if_pos hid]
    by_cases hmem : sanitizeId e.id ∈ taken
    · rw [if_pos hmem]
      exact iff_of_false (by simp) fun h => h.1 (h.2 ▸ hmem)
    · rw [if_neg hmem, Option.some_inj]
      exact ⟨fun h => ⟨h ▸ hmem, h.symm⟩, fun h => h.2.symm⟩
  · obtain ⟨n, hn, -⟩ := exists_isLeast_free taken (flowBase e)
    have hclaim : ClaimsId (· ∈ taken) e (candidate (flowBase e) n) := by
      refine ⟨hn.1.2, ?_⟩
      rw [if_neg hid]
      refine ⟨n, hn.1.1, rfl, fun m hm hlt => ?_⟩
      by_contra hfree
      exact absurd (hn.2 ⟨hm, hfree⟩) (Nat.not_le.2 hlt)
    rw [claimId_of_blank hid hn, Option.some_inj]
    exact ⟨fun h => h ▸ hclaim, fun h => hclaim.eq h⟩

/-- **The ids of edges.** An edge with an id gets it, sanitized, if it is free,
and then it is taken; if it is not, nothing changes. For an edge without one the
search ends, with one more try than ids in use at the latest, at an id that is
free and then taken: the base, or the base with the least number from two on
that makes it free. -/
theorem edge_id_claimed (taken : List String) (e : Edge) :
    ((Text.nonBlank? e.id).isSome = true →
      claimId taken e =
        if sanitizeId e.id ∈ taken then (none, taken)
        else (some (sanitizeId e.id), sanitizeId e.id :: taken)) ∧
    (Text.nonBlank? e.id = none →
      ∃ n id, n ≤ taken.toFinset.card + 1 ∧
        (∀ tries, freeCandidate? taken (flowBase e) tries 1 = if n ≤ tries then some id else none) ∧
        claimId taken e = (some id, id :: taken) ∧ id ∉ taken ∧
        (n = 1 ∧ id = flowBase e ∨
          flowBase e ∈ taken ∧ id = flowBase e ++ "_" ++ toString n ∧
            IsLeast {m | 2 ≤ m ∧ flowBase e ++ "_" ++ toString m ∉ taken} n)) := by
  refine ⟨claimId_of_given, fun hblank => ?_⟩
  have hid : ¬ (Text.nonBlank? e.id).isSome = true := by simp [hblank]
  obtain ⟨n, hn, hbound⟩ := exists_isLeast_free taken (flowBase e)
  refine ⟨n, candidate (flowBase e) n, hbound, freeCandidate?_of_isLeast hn,
    claimId_of_blank hid hn, hn.1.2, ?_⟩
  have hnumbered : ∀ m, 2 ≤ m → candidate (flowBase e) m = flowBase e ++ "_" ++ toString m :=
    fun m hm => if_neg (by omega)
  rcases Nat.eq_or_lt_of_le hn.1.1 with rfl | hlt
  · exact Or.inl ⟨rfl, rfl⟩
  · refine Or.inr ⟨?_, hnumbered n hlt, ⟨hlt, ?_⟩, fun m hm => hn.2 ⟨by have := hm.1; omega, ?_⟩⟩
    · by_contra hfree
      have hle : n ≤ 1 := hn.2 ⟨Nat.le_refl 1, hfree⟩
      omega
    · rw [← hnumbered n hlt]
      exact hn.1.2
    · rw [hnumbered m hm.1]
      exact hm.2

/-- Where the base and the base with a two are in use, an edge without an id gets
the base with a three. -/
theorem third_edge_numbered :
    claimId ["flow_a__b", "c", "flow_a__b_2"] { id := " ", source := "a", target := "b" } =
        (some "flow_a__b_3", ["flow_a__b_3", "flow_a__b", "c", "flow_a__b_2"]) ∧
      "flow_a__b_3" ∉ ["flow_a__b", "c", "flow_a__b_2"] := by
  obtain ⟨n, id, -, -, hclaim, hfree, -⟩ :=
    (edge_id_claimed ["flow_a__b", "c", "flow_a__b_2"]
      { id := " ", source := "a", target := "b" }).2 (by decide)
  have hthird : some id = some "flow_a__b_3" :=
    (congrArg Prod.fst hclaim).symm.trans (by decide +kernel)
  obtain rfl := Option.some.inj hthird
  exact ⟨hclaim, hfree⟩

end Canvas

end WorkflowCanvas
