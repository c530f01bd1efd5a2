import Mathlib.Algebra.GroupWithZero.Nat
import WorkflowCanvas.Operation.Registry
import WorkflowCanvas.Proofs.Listing
import WorkflowCanvas.Proofs.Table
import WorkflowCanvas.Proofs.Text
/-!
# Registered operations

The index of a registry leads to exactly one position for each id that is
registered, so a lookup through it finds what a search of the descriptors
finds (`find?_eq`). A call to register is answered in one of four ways, by
the id and what is registered (`answers_register`). Of a sequence of calls
those are accepted whose id is plain and comes for the first time; all
listings, lookups and counts answer from the descriptors of these calls, in
their order (`registered_in_order`).
-/


namespace WorkflowCanvas

namespace Table

/-- What writing a number changes about the sum. -/
theorem Sorted.sum_insert {t : Table Nat} (h : Sorted t) (k : String) (n : Nat) :
    ((t.insert k n).map (·.2)).sum + (t.get? k).getD 0 = (t.map (·.2)).sum + n := by
  induction t with
  | nil => simp [Table.insert, get?]
  | cons e rest ih =>
    obtain ⟨hhead, hrest⟩ := List.pairwise_cons.1 h
    unfold Table.insert
    split
    · next hlt =>
      -- the key stands before all others, so it is none of them
      have hnone : get? (e :: rest) k = none := by
        refine get?_eq_none_iff.2 fun a ha => ?_
        rcases List.mem_cons.1 ha with rfl | ha
        · exact ne_of_gt hlt
        · exact ne_of_gt (lt_trans hlt (hhead a ha))
      rw [hnone, Option.getD_none]
      simp only [List.map_cons, List.sum_cons]
      omega
    · split
      · next heq =>
        have hsome : get? (e :: rest) k = some e.2 := by simp [get?, heq]
        rw [hsome, Option.getD_some]
        simp only [List.map_cons, List.sum_cons]
        omega
      · next hne =>
        have hskip : get? (e :: rest) k = get? rest k := by simp [get?, Ne.symm hne]
        have hsum := ih hrest
        rw [hskip]
        simp only [List.map_cons, List.sum_cons]
        omega

end Table

namespace Registry

open Operation (Descriptor Kind)

variable {r : Registry} {d : Descriptor} {ds : List Descriptor} {id : String}

/-! ## Lookups -/

/-- No two descriptors have the same id: the index leads to one position. -/
theorem nodup_ids (r : Registry) : (r.entries.map (·.id)).Nodup := by
  refine List.nodup_iff_getElem?_ne_getElem?.2 fun i j hij hj heq => ?_
  rw [List.length_map] at hj
  rw [List.getElem?_map, List.getElem?_map, List.getElem?_eq_getElem hj] at heq
  have hi := (r.indexed _ i).2 heq
  have hj := (r.indexed _ j).2 (by rw [List.getElem?_eq_getElem hj, Option.map_some])
  exact Nat.ne_of_lt hij (Option.some.inj (hi.symm.trans hj))

/-- **A descriptor is found exactly by its id.** -/
theorem find?_eq_some_iff : r.find? id = some d ↔ d ∈ r.entries ∧ d.id = id := by
  rw [find?, Option.bind_eq_some_iff]
  constructor
  · rintro ⟨i, hi, hd⟩
    have hid := (r.indexed id i).1 hi
    rw [hd, Option.map_some] at hid
    exact ⟨List.mem_of_getElem? hd, Option.some.inj hid⟩
  · rintro ⟨hmem, rfl⟩
    obtain ⟨i, hi⟩ := List.mem_iff_getElem?.1 hmem
    exact ⟨i, (r.indexed _ i).2 (by rw [hi, Option.map_some]), hi⟩

/-- **The index finds what a search finds.** -/
theorem find?_eq (r : Registry) (id : String) :
    r.find? id = r.entries.find? fun d => d.id == id := by
  cases hfind : r.entries.find? fun d => d.id == id with
  | none =>
    refine Option.eq_none_iff_forall_ne_some.2 fun d hd => ?_
    obtain ⟨hmem, hid⟩ := find?_eq_some_iff.1 hd
    exact List.find?_eq_none.1 hfind d hmem (beq_iff_eq.2 hid)
  | some d =>
    exact find?_eq_some_iff.2
      ⟨List.mem_of_find?_eq_some hfind, beq_iff_eq.1 (List.find?_some hfind :)⟩

/-- An id is registered if there is a descriptor with it. -/
theorem contains_eq (r : Registry) (id : String) : r.contains id = (r.find? id).isSome := by
  show (r.index.get? id).isSome = _
  rcases hi : r.index.get? id with _ | i
  · rw [find?, hi]
    rfl
  · -- the index leads to a descriptor
    obtain ⟨d, hd, -⟩ := Option.map_eq_some_iff.1 ((r.indexed id i).1 hi)
    rw [find?, hi, Option.bind_some, hd]
    rfl

theorem contains_iff : r.contains id = true ↔ ∃ d ∈ r.entries, d.id = id := by
  simp only [contains_eq, Option.isSome_iff_exists, find?_eq_some_iff]

/-- One more descriptor takes one more id. -/
theorem contains_concat_iff {r' : Registry} (h : r'.entries = r.entries ++ [d]) :
    r'.contains id = true ↔ r.contains id = true ∨ d.id = id := by
  rw [contains_iff, h, exists_mem_concat_iff, ← contains_iff]

/-! ## Calls -/

/-- **What a call is answered**, by its id and what is registered. -/
inductive Answers (r : Registry) (d : Descriptor) : Except Failure Registry → Prop
  /-- The id is blank. -/
  | blank : Text.trim d.id = "" → Answers r d (.error .blankOperationId)
  /-- There are blanks around the id. -/
  | padded : (Text.nonBlank? d.id).isSome = true → ¬ Text.IsPlain d.id →
      Answers r d (.error (.paddedOperationId d.id))
  /-- The id is taken. -/
  | duplicate : Text.IsPlain d.id → r.contains d.id = true →
      Answers r d (.error (.duplicateOperation d.id))
  /-- The descriptor stands behind all others. -/
  | accepted {r' : Registry} : Text.IsPlain d.id → r.contains d.id = false →
      r'.entries = r.entries ++ [d] → Answers r d (.ok r')

theorem answers_register (r : Registry) (d : Descriptor) : Answers r d (r.register d) := by
  simp only [register]
  split
  · next hblank => exact .blank hblank
  next hblank =>
  split
  · next hne =>
    refine .padded ?_ fun hplain => hne (Text.isPlain_iff.1 hplain).1
    rw [Text.nonBlank?, if_neg hblank]
    rfl
  next heq =>
  have htrim : Text.trim d.id = d.id := Decidable.not_not.1 heq
  have hplain : Text.IsPlain d.id := Text.isPlain_iff.2 ⟨htrim, htrim ▸ hblank⟩
  split
  · next hcontains => exact .duplicate hplain hcontains
  · next hnew => exact .accepted hplain (Bool.eq_false_iff.2 hnew) rfl

/-- **A call with its outcome**: the descriptor stands behind all others, if its
id is plain and new, and otherwise nothing has changed. -/
inductive Call (before : Registry) (d : Descriptor) : Registry → Prop
  | accepted {after : Registry} : Text.IsPlain d.id → before.contains d.id = false →
      before.register d = .ok after → after.entries = before.entries ++ [d] → Call before d after
  | rejected (f : Failure) : ¬ (Text.IsPlain d.id ∧ before.contains d.id = false) →
      before.register d = .error f → Call before d before

theorem registerAll_append (r : Registry) (ds es : List Descriptor) :
    r.registerAll (ds ++ es) = (r.registerAll ds).registerAll es := by
  induction ds generalizing r with
  | nil => rfl
  | cons d rest ih =>
    rw [List.cons_append, registerAll, registerAll]
    split <;> exact ih _

/-- **Each call is accepted or rejected.** -/
theorem call (r : Registry) (ds : List Descriptor) (d : Descriptor) :
    Call (r.registerAll ds) d (r.registerAll (ds ++ [d])) := by
  rw [registerAll_append]
  generalize r.registerAll ds = before
  rw [registerAll]
  have hanswer := answers_register before d
  rcases hregister : before.register d with f | after <;> rw [hregister] at hanswer
  · refine .rejected f (fun ⟨hplain, hnew⟩ => ?_) hregister
    cases hanswer with
    | blank hblank => exact hplain.trim_ne_empty hblank
    | padded _ hpadded => exact hpadded hplain
    | duplicate _ htaken => exact Bool.false_ne_true (hnew.symm.trans htaken)
  · cases hanswer with
    | accepted hplain hnew hentries => exact .accepted hplain hnew hregister hentries

/-! ## Sequences of calls -/

/-- The registry after some calls, of which any may be rejected. -/
def ofCalls (ds : List Descriptor) : Registry := registerAll {} ds

theorem call_ofCalls (ds : List Descriptor) (d : Descriptor) :
    Call (ofCalls ds) d (ofCalls (ds ++ [d])) :=
  call {} ds d

/-- **A call among others is to be accepted**: its id is plain, and no call
before it has the same. -/
def Admits (ds : List Descriptor) (k : Nat) (d : Descriptor) : Prop :=
  ds[k]? = some d ∧ Text.IsPlain d.id ∧ ∀ j < k, ∀ e, ds[j]? = some e → e.id ≠ d.id

/-- The ids that are registered are the plain ones among the calls. -/
theorem contains_ofCalls (ds : List Descriptor) (id : String) :
    (ofCalls ds).contains id = true ↔ Text.IsPlain id ∧ ∃ d ∈ ds, d.id = id := by
  induction ds using List.reverseRecOn with
  | nil => exact iff_of_false (fun h => nomatch h) fun ⟨_, _, hd, _⟩ => nomatch hd
  | append_singleton ds d ih =>
    have hcall := call_ofCalls ds d
    generalize ofCalls (ds ++ [d]) = after at hcall ⊢
    rw [exists_mem_concat_iff, and_or_left, ← ih]
    cases hcall with
    | accepted hplain _ _ hentries =>
      rw [contains_concat_iff hentries]
      exact or_congr_right ⟨fun h => ⟨h ▸ hplain, h⟩, fun h => h.2⟩
    | rejected _ hnot _ =>
      refine ⟨Or.inl, fun h => h.elim (fun h => h) ?_⟩
      rintro ⟨hplain, rfl⟩
      by_contra hnew
      exact hnot ⟨hplain, Bool.eq_false_iff.2 hnew⟩

theorem Admits.lt_length {j : Nat} {e : Descriptor} (h : Admits ds j e) : j < ds.length :=
  (List.getElem?_eq_some_iff.1 h.1).1

/-- One more call leaves those before it as they are. -/
theorem admits_concat_of_lt {j : Nat} (hj : j < ds.length) (d e : Descriptor) :
    Admits (ds ++ [d]) j e ↔ Admits ds j e := by
  have hold : ∀ i ≤ j, (ds ++ [d])[i]? = ds[i]? := fun i hi =>
    List.getElem?_append_left (hi.trans_lt hj)
  rw [Admits, Admits, hold j (Nat.le_refl j)]
  refine and_congr_right' (and_congr_right' (forall₂_congr fun i hi => ?_))
  rw [hold i (Nat.le_of_lt hi)]

/-- The last call is to be accepted if its id is plain and not registered by
then. -/
theorem admits_concat_length (ds : List Descriptor) (d e : Descriptor) :
    Admits (ds ++ [d]) ds.length e ↔
      (Text.IsPlain d.id ∧ (ofCalls ds).contains d.id = false) ∧ e = d := by
  have hbefore : ∀ id : String,
      (∀ j < ds.length, ∀ e, (ds ++ [d])[j]? = some e → e.id ≠ id) ↔ ∀ e ∈ ds, e.id ≠ id := by
    intro id
    have hexists := exists_lt_getElem?_iff (P := fun e : Descriptor => e.id = id)
      (rfl : ds ++ [d] = ds ++ [d])
    rw [← not_iff_not]
    push Not
    simpa only [exists_prop] using hexists
  rw [Admits, List.getElem?_concat_length, hbefore, Option.some_inj, ← Bool.not_eq_true,
    contains_ofCalls]
  constructor
  · rintro ⟨rfl, hplain, hfirst⟩
    exact ⟨⟨hplain, fun ⟨_, e, he, hid⟩ => hfirst e he hid⟩, rfl⟩
  · rintro ⟨⟨hplain, hnew⟩, rfl⟩
    exact ⟨rfl, hplain, fun e he hid => hnew ⟨hplain, e, he, hid⟩⟩

theorem admits_concat (ds : List Descriptor) (d : Descriptor) (j : Nat) (e : Descriptor) :
    Admits (ds ++ [d]) j e ↔ Admits ds j e ∨
      (Text.IsPlain d.id ∧ (ofCalls ds).contains d.id = false) ∧ j = ds.length ∧ e = d := by
  rcases Nat.lt_trichotomy j ds.length with hlt | rfl | hgt
  · rw [admits_concat_of_lt hlt, or_iff_left fun h => Nat.ne_of_lt hlt h.2.1]
  · rw [admits_concat_length, or_iff_right fun h => Nat.lt_irrefl _ h.lt_length]
    exact and_congr_right' (and_iff_right rfl).symm
  · refine iff_of_false (fun h => ?_) fun h => ?_
    · have hlt := h.lt_length
      rw [List.length_append] at hlt
      exact Nat.not_le_of_lt hlt hgt
    · exact h.elim (fun h => Nat.lt_asymm hgt h.lt_length) fun h => Nat.ne_of_gt hgt h.2.1

/-- **A registry lists the accepted calls in their order.** -/
theorem lists_ofCalls (ds : List Descriptor) :
    Lists (Admits ds) (fun d e => e = d) (ofCalls ds).entries := by
  induction ds using List.reverseRecOn with
  | nil => exact Lists.nil fun k d h => nomatch h.1
  | append_singleton ds d ih =>
    have hcall := call_ofCalls ds d
    generalize ofCalls (ds ++ [d]) = after at hcall ⊢
    cases hcall with
    | accepted hplain hnew _ hentries =>
      rw [hentries]
      refine ih.concat (k := ds.length) (x := d) (fun j e hj => ?_) rfl fun j e => ?_
      · exact (List.getElem?_eq_some_iff.1 hj.1).1
      · rw [admits_concat, and_iff_right ⟨hplain, hnew⟩]
    | rejected _ hnot _ =>
      exact ih.congr fun j e => by rw [admits_concat, or_iff_left fun h => hnot h.1]

/-! ## Counts -/

/-- **A table counts descriptors by a property**: each value that occurs has an
entry with its number, and the numbers come to that of all descriptors. -/
structure Counts (property : Descriptor → String) (ds : List Descriptor) (t : Table Nat) :
    Prop where
  entry : ∀ key n, (key, n) ∈ t ↔ n = (ds.filter fun d => property d == key).length ∧ n ≠ 0
  sum : (t.map (·.2)).sum = ds.length

section Counts

variable {property : Descriptor → String}

theorem tally_concat (ds : List Descriptor) (d : Descriptor) :
    tally (ds ++ [d]) property = (tally ds property).insert (property d)
      (((tally ds property).get? (property d)).getD 0 + 1) := by
  rw [tally, List.foldl_append]
  rfl

theorem sorted_tally (ds : List Descriptor) : (tally ds property).Sorted := by
  induction ds using List.reverseRecOn with
  | nil => exact List.Pairwise.nil
  | append_singleton ds d ih =>
    rw [tally_concat]
    exact ih.insert _ _

theorem getD_get?_tally (ds : List Descriptor) (key : String) :
    ((tally ds property).get? key).getD 0 = (ds.filter fun d => property d == key).length := by
  induction ds using List.reverseRecOn with
  | nil => rfl
  | append_singleton ds d ih =>
    rw [tally_concat, List.filter_append, List.length_append, ← ih]
    by_cases hkey : key = property d
    · simp [hkey, Table.get?_insert_self]
    · simp [Table.get?_insert_of_ne _ _ hkey, Ne.symm hkey]

theorem pos_of_get?_tally {key : String} {n : Nat} (h : (tally ds property).get? key = some n) :
    n ≠ 0 := by
  induction ds using List.reverseRecOn generalizing n with
  | nil => cases h
  | append_singleton ds d ih =>
    rw [tally_concat] at h
    by_cases hkey : key = property d
    · rw [hkey, Table.get?_insert_self, Option.some_inj] at h
      exact h ▸ Nat.succ_ne_zero _
    · rw [Table.get?_insert_of_ne _ _ hkey] at h
      exact ih h

theorem counts_tally (ds : List Descriptor) : Counts property ds (tally ds property) where
  entry key n := by
    rw [← (sorted_tally ds).get?_eq_some_iff, ← getD_get?_tally]
    constructor
    · intro h
      exact ⟨by rw [h, Option.getD_some], pos_of_get?_tally h⟩
    · rintro ⟨rfl, hpos⟩
      rcases h : (tally ds property).get? key with _ | n
      · rw [h] at hpos
        exact absurd rfl hpos
      · rfl
  sum := by
    induction ds using List.reverseRecOn with
    | nil => rfl
    | append_singleton ds d ih =>
      have hsorted : (tally ds property).Sorted := sorted_tally ds
      have hsum := hsorted.sum_insert (property d)
        (((tally ds property).get? (property d)).getD 0 + 1)
      rw [tally_concat, List.length_append, List.length_singleton]
      omega

/-- Kinds are told apart by their labels. -/
theorem label_beq (k l : Kind) : (k.label == l.label) = (k == l) := by
  cases k <;> cases l <;> decide

end Counts

/-! ## Readers -/

/-- **All readers of a registry answer from a list of descriptors**: lookups find
the first one with an id, listings leave out what does not belong there, and
counts are the lengths of listings. -/
structure Shows (r : Registry) (ds : List Descriptor) : Prop where
  listed : r.entries = ds
  found : ∀ id, r.find? id = ds.find? fun d => d.id == id
  got : ∀ id, r.get id = ((ds.find? fun d => d.id == id).map Except.ok).getD
    (.error (.operationNotFound id))
  contained : ∀ id, r.contains id = true ↔ ∃ d ∈ ds, d.id = id
  category : ∀ category, r.inCategory category = ds.filter fun d => d.category == category
  kind : ∀ kind, r.ofKind kind = ds.filter fun d => d.kind == kind
  size : r.size = ds.length
  total : r.stats.total = ds.length
  byCategory : Counts (·.category) ds r.stats.byCategory
  byKind : Counts (·.kind.label) ds r.stats.byKind
  /-- The entry of a category counts its listing. -/
  categories : ∀ entry ∈ r.stats.byCategory, entry.2 = (r.inCategory entry.1).length
  /-- The entry of a kind counts its listing. -/
  kinds : ∀ entry ∈ r.stats.byKind, ∃ kind : Kind,
    entry.1 = kind.label ∧ entry.2 = (r.ofKind kind).length

theorem shows_entries (r : Registry) : Shows r r.entries where
  listed := rfl
  found := r.find?_eq
  got id := by
    rw [get, ← find?_eq]
    cases r.find? id <;> rfl
  contained _ := contains_iff
  category _ := rfl
  kind _ := rfl
  size := rfl
  total := rfl
  byCategory := counts_tally r.entries
  byKind := counts_tally r.entries
  categories entry hentry := (((counts_tally r.entries).entry _ _).1 hentry).1
  kinds entry hentry := by
    obtain ⟨hcount, hpos⟩ := ((counts_tally r.entries).entry _ _).1 hentry
    -- what is counted occurs, so the key is the label of a kind
    obtain ⟨d, hd⟩ := List.exists_mem_of_length_pos (Nat.pos_of_ne_zero (hcount ▸ hpos))
    have hlabel : d.kind.label = entry.1 := beq_iff_eq.1 (List.mem_filter.1 hd).2
    refine ⟨d.kind, hlabel.symm, hcount.trans (congrArg List.length ?_)⟩
    refine List.filter_congr fun e _ => ?_
    rw [← hlabel, label_beq]

/-- **A registry is the list of accepted calls, in their order.** Whatever has
been called, the next call is accepted if its id is plain and new, and then
stands last; otherwise it changes nothing. The accepted calls are those with
a plain id that no call before had. They have their ids apart, and all
readers answer from them. -/
theorem registered_in_order (ds : List Descriptor) :
    (∀ d, Call (ofCalls ds) d (ofCalls (ds ++ [d]))) ∧
      ∃ kept, Lists (Admits ds) (fun d e => e = d) kept ∧ (kept.map (·.id)).Nodup ∧
        Shows (ofCalls ds) kept :=
  ⟨call_ofCalls ds, (ofCalls ds).entries, lists_ofCalls ds, nodup_ids _, shows_entries _⟩

/-- A blank id, one with a blank in front and one that is taken are left out. -/
example :
    let described (id : String) : Descriptor :=
      { id, description := "", category := "Test", kind := .service }
    (ofCalls (["Score", " Grade", "", "Grade", "Score"].map described)).entries =
      ["Score", "Grade"].map described := by
  decide

end Registry

end WorkflowCanvas
