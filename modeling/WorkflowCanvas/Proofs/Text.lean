import WorkflowCanvas.Text.LetterCase
import WorkflowCanvas.Text.Split
import Mathlib.Data.List.DropRight
/-!
# Trimmed texts and cut texts

What a blank at either end does not change, trimming does not change
(`eq_trimChars`). So a trimmed text is trimmed to itself, and a text that is
its own trimmed text, without being empty, is one that begins and ends with
characters that are not blank (`isPlain_iff`). Nothing is left of a text exactly
if all its characters are blank (`isSome_nonBlank?_iff`). Lower case keeps blanks
at the ends of a text as they are (`trim_toLower_eq_self_iff`).

A text is cut at a character as a list is. More behind its end goes to its
last piece, as long as it is not cut there (`exists_splitChars_append`). It is
cut once at the first separator in it (`splitOnce?_append`).
-/


namespace WorkflowCanvas

namespace Text

variable {b : Char} {cs : List Char} {s : String}

/-! ## Trimming -/

theorem trimChars_cons (hb : isBlank b = true) (cs : List Char) :
    trimChars (b :: cs) = trimChars cs := by
  rw [trimChars, trimStart, List.dropWhile_cons_of_pos hb]
  rfl

theorem trimChars_concat (cs : List Char) (hb : isBlank b = true) :
    trimChars (cs ++ [b]) = trimChars cs := by
  rw [trimChars, trimStart, List.dropWhile_append]
  split
  · next hempty =>
    rw [List.dropWhile_cons_of_pos hb, trimChars, trimStart, List.isEmpty_iff.1 hempty]
    rfl
  · exact List.rdropWhile_concat_pos isBlank _ b hb

/-- Blanks in front are trimmed. -/
theorem trimChars_append_left {gap : List Char} (hgap : ∀ c ∈ gap, isBlank c = true)
    (cs : List Char) : trimChars (gap ++ cs) = trimChars cs := by
  induction gap with
  | nil => rfl
  | cons b gap ih =>
    rw [List.cons_append, trimChars_cons (hgap b List.mem_cons_self)]
    exact ih fun c hc => hgap c (List.mem_cons_of_mem b hc)

/-- Blanks behind are trimmed. -/
theorem trimChars_append_right {gap : List Char} (hgap : ∀ c ∈ gap, isBlank c = true)
    (cs : List Char) : trimChars (cs ++ gap) = trimChars cs := by
  induction gap generalizing cs with
  | nil => rw [List.append_nil]
  | cons b gap ih =>
    rw [List.append_cons, ih (fun c hc => hgap c (List.mem_cons_of_mem b hc)),
      trimChars_concat cs (hgap b List.mem_cons_self)]

/-- **Trimming changes nothing that does not depend on blanks at the ends.** -/
theorem eq_trimChars {α : Type} (f : List Char → α)
    (hfront : ∀ b cs, isBlank b = true → f (b :: cs) = f cs)
    (hback : ∀ cs b, isBlank b = true → f (cs ++ [b]) = f cs) (cs : List Char) :
    f (trimChars cs) = f cs := by
  have hstart : ∀ cs, f (trimStart cs) = f cs := by
    intro cs
    induction cs with
    | nil => rfl
    | cons c cs ih =>
      by_cases hc : isBlank c = true
      · rw [trimStart, List.dropWhile_cons_of_pos hc, hfront c cs hc]
        exact ih
      · rw [trimStart, List.dropWhile_cons_of_neg hc]
  have hend : ∀ cs, f (trimEnd cs) = f cs := by
    intro cs
    induction cs using List.reverseRecOn with
    | nil => rfl
    | append_singleton cs c ih =>
      show f (List.rdropWhile isBlank (cs ++ [c])) = _
      by_cases hc : isBlank c = true
      · rw [List.rdropWhile_concat_pos _ _ _ hc, hback cs c hc]
        exact ih
      · rw [List.rdropWhile_concat_neg _ _ _ hc]
  rw [trimChars, hend, hstart]

/-- **Trimming a trimmed text** changes nothing. -/
theorem trim_trim (text : String) : trim (trim text) = trim text := by
  rw [trim, trim, String.toList_ofList,
    eq_trimChars trimChars (fun b cs hb => trimChars_cons hb cs) fun cs b hb =>
      trimChars_concat cs hb]

theorem nonBlank?_of_nonBlank? {text trimmed : String} (h : nonBlank? text = some trimmed) :
    nonBlank? trimmed = some trimmed := by
  by_cases hne : trim text = ""
  · rw [nonBlank?, if_pos hne] at h
    cases h
  · rw [nonBlank?, if_neg hne, Option.some_inj] at h
    subst h
    rw [nonBlank?, trim_trim, if_neg hne]

theorem trim_eq_empty_iff : trim s = "" ↔ ∀ c ∈ s.toList, isBlank c = true := by
  rw [trim, ← String.toList_inj, String.toList_ofList]
  show List.rdropWhile isBlank (s.toList.dropWhile isBlank) = [] ↔ _
  rw [List.rdropWhile_eq_nil_iff]
  constructor
  · intro h c hc
    rw [← List.takeWhile_append_dropWhile (p := isBlank) (l := s.toList)] at hc
    rcases List.mem_append.1 hc with hc | hc
    · exact List.mem_takeWhile_imp hc
    · exact h c hc
  · exact fun h c hc => h c ((List.dropWhile_sublist _).mem hc)

/-- **A text is not blank** exactly if one of its characters is not. -/
theorem isSome_nonBlank?_iff :
    (nonBlank? s).isSome = true ↔ ∃ c ∈ s.toList, isBlank c = false := by
  rw [nonBlank?]
  split
  · next h =>
    refine iff_of_false Bool.false_ne_true ?_
    rintro ⟨c, hc, hnot⟩
    rw [trim_eq_empty_iff.1 h c hc] at hnot
    cases hnot
  · next h =>
    refine iff_of_true rfl ?_
    rw [trim_eq_empty_iff] at h
    simpa using h

theorem isBlank_of_isDigit {c : Char} (h : c.isDigit = true) : isBlank c = false := by
  have hbounds : 48 ≤ c.toNat ∧ c.toNat ≤ 57 := Char.isDigit_iff_toNat.1 h
  simp only [isBlank, inRanges, blankRanges, List.any_cons, List.any_nil, Bool.or_false,
    Bool.or_eq_false_iff, Bool.and_eq_false_iff, decide_eq_false_iff_not]
  omega

/-! ## Plain texts -/

/-- **A text is plain**: it begins and ends with characters that are not blank.
So it is not blank itself, and has no blanks around it. -/
def IsPlain (s : String) : Prop :=
  (∃ c ∈ s.toList.head?, isBlank c = false) ∧ ∃ c ∈ s.toList.getLast?, isBlank c = false

instance (s : String) : Decidable (IsPlain s) := inferInstanceAs (Decidable (_ ∧ _))

theorem length_trimChars_le (cs : List Char) : (trimChars cs).length ≤ cs.length :=
  ((List.rdropWhile_prefix isBlank _).length_le).trans (List.dropWhile_suffix isBlank).length_le

/-- A text with a blank at one of its ends is not its own trimmed text. -/
theorem trimChars_eq_self_iff : trimChars cs = cs ↔
    (∀ c ∈ cs.head?, isBlank c = false) ∧ ∀ c ∈ cs.getLast?, isBlank c = false := by
  constructor
  · intro h
    constructor
    · intro c hc
      obtain ⟨rest, rfl⟩ := List.head?_eq_some_iff.1 hc
      by_contra hb
      rw [trimChars_cons (by simpa using hb)] at h
      have hle := length_trimChars_le rest
      rw [h] at hle
      exact Nat.not_succ_le_self _ hle
    · intro c hc
      obtain ⟨front, rfl⟩ := List.getLast?_eq_some_iff.1 hc
      by_contra hb
      rw [trimChars_concat front (by simpa using hb)] at h
      have hle := length_trimChars_le front
      rw [h, List.length_append] at hle
      exact Nat.not_succ_le_self _ hle
  · rintro ⟨hfirst, hlast⟩
    have hstart : trimStart cs = cs := by
      cases cs with
      | nil => rfl
      | cons c cs => exact List.dropWhile_cons_of_neg (by simp [hfirst c rfl])
    rw [trimChars, hstart]
    refine List.rdropWhile_eq_self_iff.2 fun hne => ?_
    rw [hlast _ (List.getLast?_eq_getLast_of_ne_nil hne)]
    exact Bool.false_ne_true

/-- Between two characters that are not blank nothing is trimmed. -/
theorem trimChars_enclosed {first last : Char} (hfirst : isBlank first = false)
    (hlast : isBlank last = false) (cs : List Char) :
    trimChars (first :: (cs ++ [last])) = first :: (cs ++ [last]) := by
  refine trimChars_eq_self_iff.2 ⟨?_, fun c hc => ?_⟩
  · rintro _ ⟨⟩
    exact hfirst
  · rw [← List.cons_append, List.getLast?_concat] at hc
    cases hc
    exact hlast

theorem trim_eq_self_iff : trim s = s ↔ trimChars s.toList = s.toList := by
  rw [trim, ← String.toList_inj, String.toList_ofList]

/-- **A text is its own text that is not blank** exactly if it is plain. -/
theorem isPlain_iff : IsPlain s ↔ trim s = s ∧ s ≠ "" := by
  rw [trim_eq_self_iff, trimChars_eq_self_iff, IsPlain]
  constructor
  · rintro ⟨⟨c, hc, hfirst⟩, ⟨d, hd, hlast⟩⟩
    refine ⟨⟨fun c' hc' => ?_, fun d' hd' => ?_⟩, ?_⟩
    · rwa [Option.mem_unique hc' hc]
    · rwa [Option.mem_unique hd' hd]
    · rintro rfl
      cases hc
  · rintro ⟨⟨hfirst, hlast⟩, hne⟩
    have hcs : s.toList ≠ [] := fun h => hne (String.toList_eq_nil_iff.1 h)
    have hhead := List.head?_eq_some_head hcs
    have hend := List.getLast?_eq_getLast_of_ne_nil hcs
    exact ⟨⟨_, hhead, hfirst _ hhead⟩, ⟨_, hend, hlast _ hend⟩⟩

theorem IsPlain.trim_ne_empty (h : IsPlain s) : trim s ≠ "" := by
  obtain ⟨heq, hne⟩ := isPlain_iff.1 h
  rwa [heq]

/-! ## Lower case -/

/-- A code point outside the ranges of blanks is none, nor is one that stands for
no character. -/
theorem isBlank_ofNat {n : Nat} (h : ∀ gap ∈ blankRanges, n < gap.1 ∨ gap.2 < n) :
    isBlank (Char.ofNat n) = false := by
  have hblank : inRanges blankRanges n = false := by
    refine List.any_eq_false.2 fun gap hgap => ?_
    have := h gap hgap
    simp only [Bool.and_eq_true, decide_eq_true_eq]
    omega
  by_cases hvalid : n.isValidChar
  · rw [Char.ofNat, dif_pos hvalid]
    exact hblank
  · rw [Char.ofNat, dif_neg hvalid]
    decide

/-- A run neither starts from blanks nor leads to them. -/
def CaseRun.AvoidsBlanks (r : CaseRun) : Prop :=
  ∀ gap ∈ blankRanges, (r.last < gap.1 ∨ gap.2 < r.first) ∧
    (r.last + r.distance < gap.1 ∨ gap.2 < r.first + r.distance)

instance (r : CaseRun) : Decidable r.AvoidsBlanks := inferInstanceAs (Decidable (∀ _ ∈ _, _))

theorem avoidsBlanks_of_mem_lowerRuns : ∀ r ∈ lowerRuns, r.AvoidsBlanks := by
  decide +kernel

/-- **A character that is mapped by runs** which avoid blanks is blank if it was. -/
theorem isBlank_mapRuns {runs : List CaseRun} (h : ∀ r ∈ runs, r.AvoidsBlanks) (c : Char) :
    isBlank (mapRuns runs c) = isBlank c := by
  rw [mapRuns]
  split
  · next r hr =>
    have havoids := h r (List.mem_of_find?_eq_some hr)
    have hcovers : r.first ≤ c.toNat ∧ c.toNat ≤ r.last := by
      have hfound := List.find?_some hr
      simp only [CaseRun.covers, Bool.and_eq_true, decide_eq_true_eq] at hfound
      exact hfound.1
    have hpos : ∀ gap ∈ blankRanges, 0 < gap.1 := by decide
    have hbefore : isBlank c = false := by
      rw [← Char.ofNat_toNat c]
      refine isBlank_ofNat fun gap hgap => ?_
      have := (havoids gap hgap).1
      omega
    rw [hbefore]
    refine isBlank_ofNat fun gap hgap => ?_
    have := (havoids gap hgap).2
    have := hpos gap hgap
    omega
  · rfl

/-- What a character becomes is something, and blank exactly if the character is. -/
structure KeepsBlank (c : Char) (image : List Char) : Prop where
  ne_nil : image ≠ []
  isBlank_eq : ∀ d ∈ image, isBlank d = isBlank c

/-- The character with a code point that is not blank becomes others that are not. -/
theorem keepsBlank_of_toNat {n : Nat} {c : Char} {image : List Char} (hc : c.toNat = n)
    (hn : inRanges blankRanges n = false) (hne : image ≠ [])
    (himage : ∀ d ∈ image, isBlank d = false) : KeepsBlank c image where
  ne_nil := hne
  isBlank_eq d hd := by rw [himage d hd, isBlank, hc, hn]

theorem keepsBlank_lowerChar (c : Char) : KeepsBlank c (lowerChar c) := by
  rw [lowerChar]
  split
  · next hc =>
    refine keepsBlank_of_toNat hc (by decide) (List.cons_ne_nil _ _) ?_
    exact List.forall_mem_cons.2
      ⟨by decide, List.forall_mem_singleton.2 (isBlank_ofNat (by decide))⟩
  · exact ⟨List.cons_ne_nil _ _, List.forall_mem_singleton.2
      (isBlank_mapRuns avoidsBlanks_of_mem_lowerRuns c)⟩

/-- **Each character of a text** becomes some others in lower case. -/
theorem exists_lowerFrom_cons (passed : List Char) (c : Char) (cs : List Char) :
    ∃ image, lowerFrom passed (c :: cs) = image ++ lowerFrom (c :: passed) cs ∧
      KeepsBlank c image := by
  rw [lowerFrom]
  refine ⟨_, rfl, ?_⟩
  split
  · next hc =>
    refine keepsBlank_of_toNat hc (by decide) ?_ ?_
    · split <;> exact List.cons_ne_nil _ _
    · split <;> exact List.forall_mem_singleton.2 (isBlank_ofNat (by decide))
  · exact keepsBlank_lowerChar c

/-- **The first character of a text** is blank in lower case if it was. -/
theorem head?_lowerFrom (passed cs : List Char) :
    (lowerFrom passed cs).head?.map isBlank = cs.head?.map isBlank := by
  cases cs with
  | nil => rfl
  | cons c cs =>
    obtain ⟨image, heq, hkeeps⟩ := exists_lowerFrom_cons passed c cs
    obtain ⟨d, rest, rfl⟩ := List.exists_cons_of_ne_nil hkeeps.ne_nil
    rw [heq]
    exact congrArg some (hkeeps.isBlank_eq d List.mem_cons_self)

/-- **The last character of a text** is blank in lower case if it was. -/
theorem getLast?_lowerFrom (passed cs : List Char) :
    (lowerFrom passed cs).getLast?.map isBlank = cs.getLast?.map isBlank := by
  induction cs generalizing passed with
  | nil => rfl
  | cons c cs ih =>
    obtain ⟨image, heq, hkeeps⟩ := exists_lowerFrom_cons passed c cs
    have hlast : image.getLast?.map isBlank = some (isBlank c) := by
      rw [List.getLast?_eq_getLast_of_ne_nil hkeeps.ne_nil]
      exact congrArg some (hkeeps.isBlank_eq _ (List.getLast_mem hkeeps.ne_nil))
    rw [heq, List.getLast?_append, Option.map_or, ih, hlast, List.getLast?_cons]
    cases cs.getLast? <;> rfl

theorem trim_toLower_eq_self_iff : trim (toLower s) = toLower s ↔ trim s = s := by
  have hends : ∀ cs : List Char, trimChars cs = cs ↔
      cs.head?.map isBlank ≠ some true ∧ cs.getLast?.map isBlank ≠ some true := by
    intro cs
    rw [trimChars_eq_self_iff]
    simp
  rw [trim_eq_self_iff, trim_eq_self_iff, hends, hends, toLower, String.toList_ofList,
    head?_lowerFrom, getLast?_lowerFrom]

theorem toLower_eq_empty_iff : toLower s = "" ↔ s = "" := by
  rw [← String.toList_eq_nil_iff, ← String.toList_eq_nil_iff, toLower, String.toList_ofList,
    ← List.head?_eq_none_iff, ← List.head?_eq_none_iff, ← Option.map_eq_none_iff (f := isBlank),
    head?_lowerFrom, Option.map_eq_none_iff]

/-! ## Cutting -/

theorem splitChars_eq_splitOn (sep : Char) (cs : List Char) :
    splitChars sep cs = cs.splitOn sep := by
  induction cs with
  | nil => rfl
  | cons c cs ih =>
    rw [splitChars, List.splitOn_cons_eq_if_modifyHead, ← ih]
    by_cases hc : c = sep
    · rw [if_pos hc, if_pos (beq_iff_eq.2 hc)]
    · rw [if_neg hc, if_neg fun h => hc (beq_iff_eq.1 h)]
      split
      · next hnil => exact absurd hnil (splitChars_ne_nil sep cs)
      · next hcons => rw [hcons]; rfl

/-- **More behind the end of a text goes to its last piece.** -/
theorem exists_splitChars_append {sep : Char} {tail : List Char} (htail : sep ∉ tail)
    (cs : List Char) : ∃ pieces last, splitChars sep cs = pieces ++ [last] ∧
      splitChars sep (cs ++ tail) = pieces ++ [last ++ tail] := by
  induction cs with
  | nil =>
    refine ⟨[], [], rfl, ?_⟩
    rw [List.nil_append, splitChars_eq_splitOn]
    exact List.splitOn_eq_singleton htail
  | cons c cs ih =>
    obtain ⟨pieces, last, hcs, hmore⟩ := ih
    rw [List.cons_append, splitChars, splitChars, hcs, hmore]
    by_cases hc : c = sep
    · exact ⟨[] :: pieces, last, by rw [if_pos hc]; rfl, by rw [if_pos hc]; rfl⟩
    · rw [if_neg hc, if_neg hc]
      cases pieces with
      | nil => exact ⟨[], c :: last, rfl, rfl⟩
      | cons piece pieces => exact ⟨(c :: piece) :: pieces, last, rfl, rfl⟩

/-- A text without the first character of a separator has no separator. -/
theorem splitOnce?_eq_none {first : Char} {sep : List Char} (h : first ∉ cs) :
    splitOnce? (first :: sep) cs = none := by
  induction cs with
  | nil => rfl
  | cons c cs ih =>
    obtain ⟨hc, hcs⟩ := List.ne_and_not_mem_of_not_mem_cons h
    rw [splitOnce?, dropStart?, if_neg hc, ih hcs]
    rfl

/-- What a text begins with can be taken off it. -/
theorem dropStart?_append (start cs : List Char) : dropStart? start (start ++ cs) = some cs := by
  induction start with
  | nil => rfl
  | cons c start ih => rw [List.cons_append, dropStart?, if_pos rfl, ih]

/-- Only what a text begins with can be taken off it. -/
theorem dropStart?_eq_none {start : List Char} (h : ¬ start <+: cs) :
    dropStart? start cs = none := by
  induction start generalizing cs with
  | nil => exact absurd List.nil_prefix h
  | cons c start ih =>
    cases cs with
    | nil => rfl
    | cons d cs =>
      rw [dropStart?]
      split
      · next heq => exact ih fun hstart => h (heq ▸ List.cons_prefix_cons.2 ⟨rfl, hstart⟩)
      · rfl

/-- What a text ends with can be taken off it. -/
theorem dropEnd?_append (ending cs : List Char) : dropEnd? ending (cs ++ ending) = some cs := by
  rw [dropEnd?, List.reverse_append, dropStart?_append, Option.map_some, List.reverse_reverse]

/-- **A text is cut at its first separator**, the one that the first character of
separators comes up with. -/
theorem splitOnce?_append {first : Char} {left : List Char} (h : first ∉ left)
    (sep right : List Char) :
    splitOnce? (first :: sep) (left ++ (first :: sep ++ right)) = some (left, right) := by
  induction left with
  | nil =>
    rw [List.nil_append, List.cons_append, splitOnce?, ← List.cons_append, dropStart?_append]
  | cons c left ih =>
    obtain ⟨hc, hleft⟩ := List.ne_and_not_mem_of_not_mem_cons h
    rw [List.cons_append, splitOnce?, dropStart?, if_neg hc, ih hleft]
    rfl

end Text

end WorkflowCanvas
