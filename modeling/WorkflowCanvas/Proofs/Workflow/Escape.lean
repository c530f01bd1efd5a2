import WorkflowCanvas.Workflow.Markup
import Mathlib.Data.List.Basic
import Mathlib.Logic.Function.Basic
/-!
# Escaped texts

The special characters of a text are replaced one after the other, each of
them in what the replacements before have left of the text. What stands for a
character holds none that is replaced later, so no replacement touches what
another one has put in, and all of them together put, for each character of
the text, what stands for it (`toList_escape`). In the outcome each `&` begins
an entity. Read from left to right, the entities give the text back
(`decode_escape`), also one that had the looks of an entity from the start.
-/


namespace WorkflowCanvas

namespace Workflow

namespace Markup

variable {s : String} {c : Char} {cs rest : List Char}

/-! ## Replacements -/

section Replacements

variable {passes : List (Char × List Char)}

/-- What holds no character that is replaced is left as it is. -/
theorem flatMap_lookup_eq_self (h : ∀ pass ∈ passes, pass.1 ∉ cs) :
    (cs.flatMap fun c => (passes.lookup c).getD [c]) = cs := by
  have hnone : ∀ c ∈ cs, passes.lookup c = none := by
    intro c hc
    rw [List.lookup_eq_none_iff]
    intro pass hpass
    rw [bne_iff_ne]
    rintro rfl
    exact h pass hpass hc
  rw [List.flatMap_congr fun c hc => by rw [hnone c hc, Option.getD_none]]
  exact List.flatMap_singleton' cs

/-- **Replacements do not meet** if none puts in what a later one replaces: all
together they put, for each character, what stands for it. -/
theorem foldl_replaceAll (h : passes.Pairwise fun pass later => later.1 ∉ pass.2)
    (cs : List Char) :
    passes.foldl (fun cs pass => replaceAll pass.1 pass.2 cs) cs =
      cs.flatMap fun c => (passes.lookup c).getD [c] := by
  induction passes generalizing cs with
  | nil => exact (List.flatMap_singleton' cs).symm
  | cons pass passes ih =>
    obtain ⟨hpass, hrest⟩ := List.pairwise_cons.1 h
    rw [List.foldl_cons, ih hrest, replaceAll, List.flatMap_assoc]
    refine List.flatMap_congr fun c _ => ?_
    by_cases hc : c = pass.1
    · rw [if_pos hc, hc, List.lookup_cons_self, Option.getD_some]
      exact flatMap_lookup_eq_self hpass
    · rw [if_neg hc, List.flatMap_singleton, List.lookup_cons, beq_eq_false_iff_ne.2 hc]

end Replacements

/-- What stands for a character in text and in attributes. -/
def escapeChar : Char → List Char
  | '&' => ['&', 'a', 'm', 'p', ';']
  | '<' => ['&', 'l', 't', ';']
  | '>' => ['&', 'g', 't', ';']
  | '"' => ['&', 'q', 'u', 'o', 't', ';']
  | c => [c]

theorem lookup_entities (c : Char) : (entities.lookup c).getD [c] = escapeChar c := by
  unfold escapeChar
  split
  · rfl
  · rfl
  · rfl
  · rfl
  · next hamp hlt hgt hquot =>
    have hnone : entities.lookup c = none := by
      simp [entities, List.lookup_cons, beq_eq_false_iff_ne.2 hamp, beq_eq_false_iff_ne.2 hlt,
        beq_eq_false_iff_ne.2 hgt, beq_eq_false_iff_ne.2 hquot]
    rw [hnone, Option.getD_none]

/-- **A text is escaped character by character.** -/
theorem toList_escape (s : String) : (escape s).toList = s.toList.flatMap escapeChar := by
  have hapart : entities.Pairwise fun entity later => later.1 ∉ entity.2 := by decide
  rw [escape, String.toList_ofList, foldl_replaceAll hapart]
  exact List.flatMap_congr fun c _ => lookup_entities c

/-! ## Delimiters -/

/-- A character that ends an escaped text. -/
def IsDelimiter (c : Char) : Prop := c = '<' ∨ c = '>' ∨ c = '"'

/-- **No delimiter is left in an escaped text.** -/
theorem not_isDelimiter_of_mem (h : c ∈ (escape s).toList) : ¬ IsDelimiter c := by
  rw [toList_escape] at h
  obtain ⟨d, -, h⟩ := List.mem_flatMap.1 h
  rintro (rfl | rfl | rfl) <;>
    (unfold escapeChar at h; split at h <;> grind)

/-! ## Entities -/

/-- Only the first character of what stands for a character can be an `&`, and
then it begins an entity. -/
theorem escapeChar_eq_cons {first : Char} {others : List Char}
    (h : escapeChar c = first :: others) :
    '&' ∉ others ∧ (first = '&' → ∃ entity ∈ entities, entity.2 = first :: others) := by
  unfold escapeChar at h
  split at h
  · cases h
    decide
  · cases h
    decide
  · cases h
    decide
  · cases h
    decide
  · next hamp _ _ _ =>
    cases h
    exact ⟨List.not_mem_nil, fun hfirst => absurd hfirst hamp⟩

/-- **Each `&` in an escaped text begins an entity.** -/
theorem exists_entity_of_flatMap {before after : List Char}
    (h : cs.flatMap escapeChar = before ++ '&' :: after) :
    ∃ entity ∈ entities, entity.2 <+: '&' :: after := by
  induction cs generalizing before with
  | nil => simp at h
  | cons c cs ih =>
    rw [List.flatMap_cons, List.append_eq_append_iff] at h
    obtain ⟨middle, -, hrest⟩ | ⟨middle, hchar, hafter⟩ := h
    · exact ih hrest
    · cases middle with
      | nil => exact @ih [] hafter.symm
      | cons first others =>
        obtain ⟨rfl, rfl⟩ := List.cons.inj hafter
        -- the `&` lies in what stands for one character, so it is the first of it
        cases before with
        | nil =>
          obtain ⟨entity, hentity, heq⟩ := (escapeChar_eq_cons hchar).2 rfl
          exact ⟨entity, hentity, _, congrArg (· ++ _) heq⟩
        | cons start before =>
          exact absurd (List.mem_append_right before List.mem_cons_self)
            (escapeChar_eq_cons hchar).1

/-- The characters of a text with its entities decoded, from left to right. -/
def decodeChars : List Char → List Char
  | '&' :: 'a' :: 'm' :: 'p' :: ';' :: cs => '&' :: decodeChars cs
  | '&' :: 'l' :: 't' :: ';' :: cs => '<' :: decodeChars cs
  | '&' :: 'g' :: 't' :: ';' :: cs => '>' :: decodeChars cs
  | '&' :: 'q' :: 'u' :: 'o' :: 't' :: ';' :: cs => '"' :: decodeChars cs
  | c :: cs => c :: decodeChars cs
  | [] => []

/-- A text with its entities decoded, from left to right. -/
def decode (s : String) : String := String.ofList (decodeChars s.toList)

/-- What begins no entity stands for itself. -/
theorem decodeChars_cons (h : c ≠ '&') (rest : List Char) :
    decodeChars (c :: rest) = c :: decodeChars rest := by
  conv_lhs => unfold decodeChars
  split <;> simp_all

/-- **What stands for a character is decoded to it.** -/
theorem decodeChars_escapeChar (c : Char) (rest : List Char) :
    decodeChars (escapeChar c ++ rest) = c :: decodeChars rest := by
  unfold escapeChar
  split
  · rfl
  · rfl
  · rfl
  · rfl
  · next hamp _ _ _ => exact decodeChars_cons hamp rest

/-- **Decoding takes escaping back.** -/
theorem decode_escape (s : String) : decode (escape s) = s := by
  have hchars : ∀ cs : List Char, decodeChars (cs.flatMap escapeChar) = cs := by
    intro cs
    induction cs with
    | nil => rfl
    | cons c cs ih => rw [List.flatMap_cons, decodeChars_escapeChar, ih]
  rw [decode, toList_escape, hchars, String.ofList_toList]

/-- **Escaping loses nothing.** -/
theorem escape_injective : Function.Injective escape :=
  Function.LeftInverse.injective decode_escape

/-- **What escaping comes to.** The replacements, one after the other, put for each
character what stands for it. No delimiter is left, each `&` begins an entity,
and decoding the entities from left to right gives the text back, so no two
texts are escaped to the same. -/
theorem escaped_and_decoded :
    (∀ s, escape s = String.ofList (s.toList.flatMap escapeChar) ∧
      (∀ c ∈ (escape s).toList, c ≠ '<' ∧ c ≠ '>' ∧ c ≠ '"') ∧
      (∀ before after, (escape s).toList = before ++ '&' :: after →
        ∃ entity ∈ entities, entity.2 <+: '&' :: after) ∧
      decode (escape s) = s) ∧
    Function.Injective escape := by
  refine ⟨fun s => ⟨?_, fun c hc => ?_, fun before after h => ?_, decode_escape s⟩,
    escape_injective⟩
  · exact String.toList_inj.1 (by rw [toList_escape, String.toList_ofList])
  · have hdelimiter := not_isDelimiter_of_mem hc
    rwa [IsDelimiter, not_or, not_or] at hdelimiter
  · rw [toList_escape] at h
    exact exists_entity_of_flatMap h

/-- What has the looks of an entity is escaped like anything else, and comes back
as it was. -/
theorem entity_in_text_kept :
    escape "R&amp;D <1>" = "R&amp;amp;D &lt;1&gt;" ∧ '<' ∉ (escape "R&amp;D <1>").toList ∧
      (∃ entity ∈ entities, entity.2 <+: "&lt;1&gt;".toList) ∧
      decode (escape "R&amp;D <1>") = "R&amp;D <1>" := by
  obtain ⟨hall, -⟩ := escaped_and_decoded
  obtain ⟨-, hdelimiters, hentities, hdecoded⟩ := hall "R&amp;D <1>"
  refine ⟨by decide, fun hmem => (hdelimiters '<' hmem).1 rfl, ?_, hdecoded⟩
  exact hentities "R&amp;amp;D ".toList "lt;1&gt;".toList (by decide)

end Markup

end Workflow

end WorkflowCanvas
