import WorkflowCanvas.Workflow.Extensions
import Mathlib.Data.Finset.Card
import Mathlib.Data.List.Induction
import Mathlib.Data.List.Nodup
/-!
# Metadata that is set key by key

Setting a value that is not blank writes one key and leaves the others
(`get?_set`): the key keeps its place, or else it gets the one behind all
others (`map_fst_write`). So after any calls metadata is a map, listed by
when its keys were first written: a key has the value that was written to it
last, and blank values might as well not have been set (`set_key_by_key`).
-/


namespace WorkflowCanvas

namespace Extensions

variable {x : Extensions} {k v : String} {entries calls : List (String × String)}

/-! ## One value -/

/-- **What a value that is set changes**: what is under its key, unless it is
blank. -/
theorem get?_set (k key text : String) : (x.set k text).get? key =
    if k = key ∧ (Text.nonBlank? text).isSome = true then some text else x.get? key := by
  have hwrite : ∀ entries : List (String × String),
      ((write k text entries).find? fun e => e.1 == key).map (·.2) =
        if k = key then some text else (entries.find? fun e => e.1 == key).map (·.2) := by
    intro entries
    induction entries with
    | nil => by_cases hk : k = key <;> simp [write, hk]
    | cons entry rest ih =>
      unfold write
      by_cases hentry : entry.1 = k
      · by_cases hk : k = key <;> simp [hentry, hk]
      · rw [if_neg hentry]
        by_cases hkey : entry.1 = key
        · have hk : k ≠ key := fun hk => hentry (hkey.trans hk.symm)
          simp [hkey, hk]
        · simp only [List.find?_cons, beq_eq_false_iff_ne.2 hkey]
          exact ih
  unfold set
  by_cases htext : (Text.nonBlank? text).isSome = true
  · rw [if_pos htext]
    simp only [and_iff_left htext]
    exact hwrite x.entries
  · rw [if_neg htext, if_neg fun h => htext h.2]

/-- **The metadata is in good order**: each key has one entry, and no value is
blank. -/
structure Tidy (x : Extensions) : Prop where
  once : (x.entries.map (·.1)).Nodup
  filled : ∀ entry ∈ x.entries, (Text.nonBlank? entry.2).isSome = true

theorem mem_write {entry : String × String} (h : entry ∈ write k v entries) :
    entry = (k, v) ∨ entry ∈ entries := by
  induction entries with
  | nil => exact Or.inl (List.mem_singleton.1 h)
  | cons first rest ih =>
    rw [write] at h
    split at h
    · exact (List.mem_cons.1 h).imp_right (List.mem_cons_of_mem first)
    · rcases List.mem_cons.1 h with rfl | h
      · exact Or.inr List.mem_cons_self
      · exact (ih h).imp_right (List.mem_cons_of_mem first)

/-- A value is written where its key stands, or else at the end. -/
theorem map_fst_write (k v : String) (entries : List (String × String)) :
    (write k v entries).map (·.1) = if k ∈ entries.map (·.1) then entries.map (·.1)
      else entries.map (·.1) ++ [k] := by
  induction entries with
  | nil => rfl
  | cons first rest ih =>
    rw [write]
    by_cases hk : first.1 = k
    · simp [hk]
    · rw [if_neg hk, List.map_cons, List.map_cons, ih]
      by_cases hrest : k ∈ rest.map (·.1)
      · rw [if_pos hrest, if_pos (List.mem_cons_of_mem _ hrest)]
      · rw [if_neg hrest, if_neg fun h => (List.mem_cons.1 h).elim (Ne.symm hk) hrest]
        rfl

/-- **Setting a value keeps metadata in good order.** -/
theorem Tidy.set (h : x.Tidy) (k v : String) : (x.set k v).Tidy := by
  unfold Extensions.set
  split
  · next hfilled =>
    constructor
    · show ((write k v x.entries).map (·.1)).Nodup
      rw [map_fst_write]
      split
      · exact h.once
      · next hnew =>
        rw [← List.concat_eq_append]
        exact h.once.concat hnew
    · intro entry hentry
      rcases mem_write hentry with rfl | hentry
      · exact hfilled
      · exact h.filled entry hentry
  · exact h

/-- A blank value changes nothing. -/
theorem set_of_blank (h : Text.nonBlank? v = none) (k : String) : x.set k v = x :=
  if_neg (by simp [h])

/-! ## Values one after the other -/

/-- The metadata that comes of setting values, of which the calls have the keys. -/
def ofCalls (calls : List (String × String)) : Extensions :=
  calls.foldl (fun x call => x.set call.1 call.2) {}

/-- The calls that write: those with a value that is not blank. -/
def writes (calls : List (String × String)) : List (String × String) :=
  calls.filter fun call => (Text.nonBlank? call.2).isSome

/-- The keys of metadata, in its order. -/
def keys (x : Extensions) : List String := x.entries.map (·.1)

theorem ofCalls_concat (calls : List (String × String)) (call : String × String) :
    ofCalls (calls ++ [call]) = (ofCalls calls).set call.1 call.2 :=
  List.foldl_concat ..

/-- One more call writes, or it is blank. -/
theorem writes_concat (calls : List (String × String)) (call : String × String) :
    writes (calls ++ [call]) =
      if (Text.nonBlank? call.2).isSome = true then writes calls ++ [call] else writes calls := by
  rw [writes, writes, List.filter_append]
  by_cases hfilled : (Text.nonBlank? call.2).isSome = true
  · simp only [hfilled, List.filter_cons_of_pos, List.filter_nil, if_true]
  · simp [hfilled]

/-- **Keys in the order in which they were first written.** -/
structure FirstWritten (written keys : List String) : Prop where
  mem_iff : ∀ key, key ∈ keys ↔ key ∈ written
  inOrder : keys.Pairwise fun a b => written.idxOf a < written.idxOf b

namespace FirstWritten

variable {written keys : List String} {key : String}

/-- No key is there twice. -/
theorem nodup (h : FirstWritten written keys) : keys.Nodup :=
  h.inOrder.imp fun hlt heq => Nat.ne_of_lt hlt (congrArg written.idxOf heq)

/-- There are as many keys as different ones were written. -/
theorem length_eq (h : FirstWritten written keys) : keys.length = written.toFinset.card := by
  rw [← List.toFinset_card_of_nodup h.nodup]
  congr 1
  ext key
  rw [List.mem_toFinset, List.mem_toFinset, h.mem_iff]

/-- Those that were there have their order from before. -/
theorem pairwise_concat (h : FirstWritten written keys) (key : String) :
    keys.Pairwise fun a b => (written ++ [key]).idxOf a < (written ++ [key]).idxOf b := by
  refine h.inOrder.imp_of_mem fun {a b} ha hb hlt => ?_
  rw [List.idxOf_append_of_mem ((h.mem_iff a).1 ha), List.idxOf_append_of_mem ((h.mem_iff b).1 hb)]
  exact hlt

/-- **A key that is written again keeps its place.** -/
theorem again (h : FirstWritten written keys) (hkey : key ∈ keys) :
    FirstWritten (written ++ [key]) keys := by
  refine ⟨fun other => ?_, h.pairwise_concat key⟩
  rw [List.mem_append, List.mem_singleton, ← h.mem_iff]
  exact (or_iff_left_of_imp fun heq => heq ▸ hkey).symm

/-- **A key that is new comes last.** -/
theorem concat (h : FirstWritten written keys) (hkey : key ∉ keys) :
    FirstWritten (written ++ [key]) (keys ++ [key]) := by
  constructor
  · intro other
    rw [List.mem_append, List.mem_append, h.mem_iff]
  · refine List.pairwise_append.2 ⟨h.pairwise_concat key, List.pairwise_singleton _ _, ?_⟩
    intro a ha b hb
    obtain rfl := List.mem_singleton.1 hb
    have hnew : b ∉ written := fun hb => hkey ((h.mem_iff b).2 hb)
    have hlast : (written ++ [b]).idxOf b = written.length := by
      rw [List.idxOf_append_of_notMem hnew, List.idxOf_cons_self, Nat.add_zero]
    rw [hlast, List.idxOf_append_of_mem ((h.mem_iff a).1 ha)]
    exact List.idxOf_lt_length_iff.2 ((h.mem_iff a).1 ha)

end FirstWritten

/-- **The keys of metadata are in the order in which they were first written.** -/
theorem firstWritten_ofCalls (calls : List (String × String)) :
    FirstWritten ((writes calls).map (·.1)) (ofCalls calls).keys := by
  induction calls using List.reverseRecOn with
  | nil => exact ⟨fun key => Iff.rfl, List.Pairwise.nil⟩
  | append_singleton calls call ih =>
    rw [ofCalls_concat, writes_concat]
    by_cases hfilled : (Text.nonBlank? call.2).isSome = true
    · have hkeys : ((ofCalls calls).set call.1 call.2).keys =
          (write call.1 call.2 (ofCalls calls).entries).map (·.1) := by
        rw [keys, Extensions.set, if_pos hfilled]
      rw [if_pos hfilled, hkeys, map_fst_write, List.map_append]
      split
      · next hkey => exact ih.again hkey
      · next hkey => exact ih.concat hkey
    · rw [if_neg hfilled, Extensions.set, if_neg hfilled]
      exact ih

/-- **A key has the value that was written to it last.** -/
theorem get?_ofCalls (calls : List (String × String)) (key : String) :
    (ofCalls calls).get? key =
      ((writes calls).filter fun call => call.1 == key).getLast?.map (·.2) := by
  induction calls using List.reverseRecOn with
  | nil => rfl
  | append_singleton calls call ih =>
    rw [ofCalls_concat, get?_set, writes_concat]
    by_cases hfilled : (Text.nonBlank? call.2).isSome = true
    · rw [if_pos hfilled, List.filter_append]
      by_cases hkey : call.1 = key
      · have hlast : [call].filter (fun call => call.1 == key) = [call] := by simp [hkey]
        rw [if_pos ⟨hkey, hfilled⟩, hlast, List.getLast?_concat, Option.map_some]
      · have hlast : [call].filter (fun call => call.1 == key) = [] := by simp [hkey]
        rw [if_neg fun h => hkey h.1, hlast, List.append_nil, ih]
    · rw [if_neg hfilled, if_neg fun h => hfilled h.2, ih]

/-- A key is there exactly if it has a value. -/
theorem contains_iff (x : Extensions) (key : String) :
    x.contains key = true ↔ key ∈ x.keys := by
  rw [contains, get?, Option.isSome_map, List.find?_isSome, keys, List.mem_map]
  simp only [beq_iff_eq]

/-- **Metadata is a map in the order of its first writes.** After any calls its keys
are apart and in the order in which they were first given a value that is not
blank; each has the last such value that it was given, and no other key has
one. Its size is the number of different keys that were given one, and a call
with a blank value changes nothing, be the key new or not. -/
theorem set_key_by_key (calls : List (String × String)) :
    (ofCalls calls).keys.Nodup ∧
    FirstWritten ((writes calls).map (·.1)) (ofCalls calls).keys ∧
    (∀ key, (ofCalls calls).get? key =
      ((writes calls).filter fun call => call.1 == key).getLast?.map (·.2)) ∧
    (∀ key, ((ofCalls calls).contains key = true ↔ ∃ value, (ofCalls calls).get? key = some value) ∧
      ((ofCalls calls).contains key = true ↔ key ∈ (ofCalls calls).keys)) ∧
    (ofCalls calls).size = ((writes calls).map (·.1)).toFinset.card ∧
    ∀ key value, Text.nonBlank? value = none →
      ofCalls (calls ++ [(key, value)]) = ofCalls calls := by
  have hfirst := firstWritten_ofCalls calls
  refine ⟨hfirst.nodup, hfirst, get?_ofCalls calls, fun key => ⟨?_, contains_iff _ key⟩, ?_,
    fun key value hblank => ?_⟩
  · rw [contains, Option.isSome_iff_exists]
  · rw [size, ← hfirst.length_eq, keys, List.length_map]
  · rw [ofCalls_concat]
    exact set_of_blank hblank key

/-- A value that is replaced keeps its place, and a blank one replaces nothing. -/
theorem role_replaced_in_place :
    (ofCalls [("role", "clerk"), ("team", " "), ("desk", "3"), ("role", "auditor")]).entries =
        [("role", "auditor"), ("desk", "3")] ∧
      ofCalls ([("role", "clerk"), ("team", " "), ("desk", "3"), ("role", "auditor")] ++
          [("role", "\t")]) =
        ofCalls [("role", "clerk"), ("team", " "), ("desk", "3"), ("role", "auditor")] := by
  obtain ⟨-, -, -, -, -, hblank⟩ :=
    set_key_by_key [("role", "clerk"), ("team", " "), ("desk", "3"), ("role", "auditor")]
  exact ⟨by decide, hblank "role" "\t" (by decide)⟩

end Extensions

end WorkflowCanvas
