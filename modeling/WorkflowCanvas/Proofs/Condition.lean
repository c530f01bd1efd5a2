import WorkflowCanvas.Condition
import WorkflowCanvas.Proofs.Decimal.Exact
import WorkflowCanvas.Proofs.Text
/-!
# What conditions mean

A condition is the writing of a test (`Writes`): of a variable that must be
true, of one that must not be, or of one that must have a given text. Blanks
may stand between the parts, around them, and around the braces. A name has no
`=` in it, so a test for a text is cut between its two parts wherever else `==`
comes up behind the name; a text has no quotes at its ends, so that taking off
the quotes leaves just the text. A condition holds exactly if the test that it
writes does (`holds_iff`), with the braces and without them.
-/


namespace WorkflowCanvas

namespace Condition

open Decimal (finite value?)

/-! ## Tests -/

/-- The letters of `true` in either case. -/
def trueLetters : List (List Char) := [['t', 'T'], ['r', 'R'], ['u', 'U'], ['e', 'E']]

/-- **A value counts as true.** -/
inductive Truthy : Json → Prop
  | bool : Truthy (.bool true)
  | str {s : String} (h : List.Forall₂ (· ∈ ·) s.toList trueLetters) : Truthy (.str s)
  | int {n : ℤ} (h : n ≠ 0) : Truthy (.int n)
  | float {x : Float} (h : value? x ≠ some (finite 0)) : Truthy (.float x)
  | arr (items : List Json) : Truthy (.arr items)
  | obj (fields : Table Json) : Truthy (.obj fields)

/-- **A value has a text**: a string is its own, any other value has that of its
compact JSON. -/
inductive HasText : Json → String → Prop
  | str (s : String) : HasText (.str s) s
  | other {v : Json} (h : ∀ s, v ≠ .str s) : HasText v v.text

/-- What can be asked of the variables. -/
inductive Test where
  | isTrue (name : String)
  | isNot (name : String)
  | equals (name literal : String)

/-- **A test holds of the variables.** -/
def Test.Holds (vars : Table Json) : Test → Prop
  | isTrue name => ∃ v, vars.get? name = some v ∧ Truthy v
  | isNot name => ¬ ∃ v, vars.get? name = some v ∧ Truthy v
  | equals name literal => ∃ v, vars.get? name = some v ∧ HasText v literal

/-! ## Writings -/

/-- Blanks only, or nothing. -/
def IsGap (cs : List Char) : Prop := ∀ c ∈ cs, Text.isBlank c = true

instance (cs : List Char) : Decidable (IsGap cs) :=
  List.decidableBAll (fun c => Text.isBlank c = true) cs

/-- A name that a condition can ask for: no blanks around it, no `=` in it, and
no start that would be read as something else. -/
structure IsName (name : String) : Prop where
  plain : Text.IsPlain name
  noEquals : '=' ∉ name.toList
  noBang : name.toList.head? ≠ some '!'
  noBrace : ¬ ['$', '{'] <+: name.toList

/-- A text that a condition can compare with: no quotes at its ends. -/
structure IsLiteral (literal : String) : Prop where
  first : ∀ c ∈ literal.toList.head?, isQuote c = false
  last : ∀ c ∈ literal.toList.getLast?, isQuote c = false

/-- **The body of a condition spells a test.** -/
inductive Spells : Test → List Char → Prop
  | isTrue {name : String} (hname : IsName name) : Spells (.isTrue name) name.toList
  | isNot {name : String} {gap : List Char} (hname : IsName name) (hgap : IsGap gap) :
      Spells (.isNot name) ('!' :: (gap ++ name.toList))
  | equals {name literal : String} {before after : List Char} {opening closing : Char}
      (hname : IsName name) (hliteral : IsLiteral literal) (hbefore : IsGap before)
      (hafter : IsGap after) (hopening : isQuote opening = true)
      (hclosing : isQuote closing = true) :
      Spells (.equals name literal) (name.toList ++ before ++
        (['=', '='] ++ (after ++ (opening :: (literal.toList ++ [closing])))))

/-- **A condition writes a test**, with braces around its body or without, and
with blanks around either. -/
inductive Writes : Test → String → Prop
  | braced {t : Test} {cs left right before after : List Char} (hcs : Spells t cs)
      (hleft : IsGap left) (hright : IsGap right) (hbefore : IsGap before)
      (hafter : IsGap after) :
      Writes t (String.ofList
        (before ++ (['$', '{'] ++ (left ++ cs ++ right) ++ ['}']) ++ after))
  | bare {t : Test} {cs before after : List Char} (hcs : Spells t cs) (hbefore : IsGap before)
      (hafter : IsGap after) : Writes t (String.ofList (before ++ cs ++ after))

variable {vars : Table Json} {t : Test} {cs : List Char} {name literal : String} {v : Json}

/-! ## Values -/

/-- The characters with a given lower case in ASCII. -/
theorem lowerAscii_eq_iff {c lower upper : Char} (hlower : 97 ≤ lower.toNat)
    (hlower' : lower.toNat ≤ 122) (hupper : upper.toNat + 32 = lower.toNat) :
    Text.lowerAscii c = lower ↔ c ∈ [lower, upper] := by
  have hcapital : 'A' ≤ c ∧ c ≤ 'Z' ↔ 65 ≤ c.toNat ∧ c.toNat ≤ 90 := by
    rw [Char.le_def, Char.le_def, UInt32.le_iff_toNat_le, UInt32.le_iff_toNat_le]
    rfl
  have hmoved : c.toNat ≤ 90 → (Char.ofNat (c.toNat + 32)).toNat = c.toNat + 32 := by
    intro h
    rw [Char.ofNat, dif_pos (Or.inl (by omega))]
    rfl
  rw [List.mem_cons, List.mem_singleton, Text.lowerAscii, ← Char.toNat_inj, ← Char.toNat_inj,
    ← Char.toNat_inj]
  split
  · next h =>
    rw [hcapital] at h
    rw [hmoved h.2]
    omega
  · next h =>
    rw [hcapital] at h
    omega

theorem map_lowerAscii_eq_iff (cs : List Char) :
    cs.map Text.lowerAscii = ['t', 'r', 'u', 'e'] ↔ List.Forall₂ (· ∈ ·) cs trueLetters := by
  have ht : ∀ c, Text.lowerAscii c = 't' ↔ c ∈ ['t', 'T'] := fun c =>
    lowerAscii_eq_iff (by decide) (by decide) (by decide)
  have hr : ∀ c, Text.lowerAscii c = 'r' ↔ c ∈ ['r', 'R'] := fun c =>
    lowerAscii_eq_iff (by decide) (by decide) (by decide)
  have hu : ∀ c, Text.lowerAscii c = 'u' ↔ c ∈ ['u', 'U'] := fun c =>
    lowerAscii_eq_iff (by decide) (by decide) (by decide)
  have he : ∀ c, Text.lowerAscii c = 'e' ↔ c ∈ ['e', 'E'] := fun c =>
    lowerAscii_eq_iff (by decide) (by decide) (by decide)
  rcases cs with _ | ⟨a, _ | ⟨b, _ | ⟨c, _ | ⟨d, _ | ⟨e, rest⟩⟩⟩⟩⟩ <;>
    simp only [List.map_cons, List.map_nil, List.cons.injEq, ht, hr, hu, he, trueLetters,
      List.forall₂_cons, List.forall₂_nil_left_iff, List.forall₂_nil_right_iff, reduceCtorEq,
      and_false, and_true]

/-- **What counts as true.** -/
theorem truthy_iff : truthy v = true ↔ Truthy v := by
  have hfloat : ∀ x : Float, (x != 0) = true ↔ value? x ≠ some (finite 0) := by
    intro x
    have hzero : value? 0 = some (finite 0) := by decide +kernel
    rw [bne, Bool.not_eq_true', ← Bool.not_eq_true, Decimal.beq_iff, hzero]
    simp
  constructor
  · intro h
    cases v with
    | null => cases h
    | bool b =>
      cases b with
      | false => cases h
      | true => exact .bool
    | str s => exact .str ((map_lowerAscii_eq_iff _).1 (beq_iff_eq.1 h))
    | int n => exact .int (bne_iff_ne.1 h)
    | float x => exact .float ((hfloat x).1 h)
    | arr items => exact .arr items
    | obj fields => exact .obj fields
  · intro h
    cases h with
    | bool => rfl
    | str h => exact beq_iff_eq.2 ((map_lowerAscii_eq_iff _).2 h)
    | int h => exact bne_iff_ne.2 h
    | float h => exact (hfloat _).2 h
    | arr items => rfl
    | obj fields => rfl

theorem valueText_eq_iff : v.valueText = literal ↔ HasText v literal := by
  constructor
  · rintro rfl
    cases v with
    | str s => exact .str s
    | _ => exact .other nofun
  · intro h
    cases h with
    | str s => rfl
    | other h =>
      cases v with
      | str s => exact absurd rfl (h s)
      | _ => rfl

theorem truthyAt_iff :
    truthyAt vars name.toList = true ↔ ∃ v, vars.get? name = some v ∧ Truthy v := by
  rw [truthyAt, String.ofList_toList]
  rcases vars.get? name with _ | v
  · simp
  · simp [truthy_iff]

/-! ## Bodies -/

theorem not_isBlank_of_isQuote {c : Char} (h : isQuote c = true) : Text.isBlank c = false := by
  rw [isQuote, Bool.or_eq_true, beq_iff_eq, beq_iff_eq] at h
  rcases h with rfl | rfl <;> decide

theorem IsGap.not_mem_equals (h : IsGap cs) : '=' ∉ cs := fun hmem =>
  absurd (h '=' hmem) (by decide)

/-- **The quotes come off, and nothing else.** -/
theorem unquote_quoted (h : IsLiteral literal) {opening closing : Char}
    (hopening : isQuote opening = true) (hclosing : isQuote closing = true) :
    unquote (opening :: (literal.toList ++ [closing])) = literal.toList := by
  show List.rdropWhile isQuote (List.dropWhile isQuote (opening :: _)) = _
  rw [List.dropWhile_cons_of_pos hopening]
  rcases hcs : literal.toList with _ | ⟨c, cs⟩
  · rw [List.nil_append, List.dropWhile_cons_of_pos hclosing]
    rfl
  · have hfirst : ¬ isQuote c = true := by simp [h.first c (by rw [hcs]; rfl)]
    rw [List.cons_append, List.dropWhile_cons_of_neg hfirst, ← List.cons_append,
      List.rdropWhile_concat_pos _ _ _ hclosing, List.rdropWhile_eq_self_iff]
    intro hne
    rw [Bool.not_eq_true]
    exact h.last _ (by rw [hcs]; exact List.getLast?_eq_getLast_of_ne_nil hne)

theorem IsName.trimChars_eq (h : IsName name) : Text.trimChars name.toList = name.toList :=
  Text.trim_eq_self_iff.1 (Text.isPlain_iff.1 h.plain).1

theorem IsName.ne_nil (h : IsName name) : name.toList ≠ [] := fun hnil =>
  (Text.isPlain_iff.1 h.plain).2 (String.toList_eq_nil_iff.1 hnil)

/-- **A spelling begins and ends with characters that are not blank.** -/
theorem Spells.trimChars_eq (h : Spells t cs) : Text.trimChars cs = cs := by
  cases h with
  | isTrue hname => exact hname.trimChars_eq
  | isNot hname hgap =>
    obtain ⟨-, hlast⟩ := Text.trimChars_eq_self_iff.1 hname.trimChars_eq
    refine Text.trimChars_eq_self_iff.2 ⟨?_, ?_⟩
    · rintro _ ⟨⟩
      decide
    · rwa [← List.cons_append, List.getLast?_append_of_ne_nil _ hname.ne_nil]
  | @equals name literal before after opening closing hname hliteral hbefore hafter hopening
      hclosing =>
    obtain ⟨hfirst, -⟩ := Text.trimChars_eq_self_iff.1 hname.trimChars_eq
    refine Text.trimChars_eq_self_iff.2 ⟨?_, fun c hc => ?_⟩
    · rwa [List.append_assoc, List.head?_append_of_ne_nil _ hname.ne_nil]
    · have hend : name.toList ++ before ++
          (['=', '='] ++ (after ++ (opening :: (literal.toList ++ [closing])))) =
          name.toList ++ before ++ (['=', '='] ++ (after ++ (opening :: literal.toList))) ++
            [closing] := by simp
      rw [hend, List.getLast?_concat] at hc
      cases hc
      exact not_isBlank_of_isQuote hclosing

/-- **A body holds exactly if the test that it spells does.** -/
theorem Spells.bodyHolds_iff (h : Spells t cs) : bodyHolds vars cs = true ↔ t.Holds vars := by
  cases h with
  | isTrue hname =>
    unfold bodyHolds
    rw [Text.splitOnce?_eq_none hname.noEquals]
    dsimp only
    split
    · next rest hrest => exact absurd (by rw [hrest]; rfl) hname.noBang
    · exact truthyAt_iff
  | @isNot name gap hname hgap =>
    have hnone : '=' ∉ '!' :: (gap ++ name.toList) := by
      simp [hgap.not_mem_equals, hname.noEquals]
    unfold bodyHolds
    rw [Text.splitOnce?_eq_none hnone]
    show (!truthyAt vars (Text.trimChars (gap ++ name.toList))) = true ↔ _
    rw [Text.trimChars_append_left hgap, hname.trimChars_eq, Bool.not_eq_true', ← Bool.not_eq_true,
      truthyAt_iff]
    rfl
  | @equals name literal before after opening closing hname hliteral hbefore hafter hopening
      hclosing =>
    -- the first `==` is the one behind the name
    have hnone : '=' ∉ name.toList ++ before := by
      simp [hbefore.not_mem_equals, hname.noEquals]
    have hquoted := Text.trimChars_enclosed (not_isBlank_of_isQuote hopening)
      (not_isBlank_of_isQuote hclosing) literal.toList
    unfold bodyHolds
    rw [Text.splitOnce?_append hnone]
    dsimp only
    rw [Text.trimChars_append_right hbefore, hname.trimChars_eq,
      Text.trimChars_append_left hafter, hquoted, unquote_quoted hliteral hopening hclosing,
      String.ofList_toList, String.ofList_toList, Test.Holds]
    rcases vars.get? name with _ | v
    · simp
    · simp [valueText_eq_iff]

/-! ## Conditions -/

/-- A name does not become the beginning of a brace by what is written behind it. -/
theorem IsName.not_brace_append (h : IsName name) {rest : List Char}
    (hrest : rest.head? ≠ some '{') : ¬ ['$', '{'] <+: name.toList ++ rest := by
  have hbrace := h.noBrace
  rcases hcs : name.toList with _ | ⟨c, _ | ⟨d, cs⟩⟩
  · exact absurd hcs h.ne_nil
  · rcases rest with _ | ⟨d, rest⟩
    · simp
    · have hd : d ≠ '{' := fun heq => hrest (congrArg some heq)
      simp [List.cons_prefix_cons, hd.symm]
  · rw [hcs] at hbrace
    simpa [List.cons_prefix_cons] using hbrace

/-- No spelling begins like a brace. -/
theorem Spells.dropStart?_eq_none (h : Spells t cs) : Text.dropStart? ['$', '{'] cs = none := by
  cases h with
  | isTrue hname => exact Text.dropStart?_eq_none hname.noBrace
  | isNot hname hgap => rfl
  | @equals name literal before after opening closing hname hliteral hbefore hafter hopening
      hclosing =>
    -- what stands behind the name is a blank or a `=`
    have hbehind : (before ++
        (['=', '='] ++ (after ++ (opening :: (literal.toList ++ [closing]))))).head? ≠
        some '{' := by
      rcases before with _ | ⟨c, before⟩
      · simp
      · rintro ⟨⟩
        exact absurd (hbefore '{' List.mem_cons_self) (by decide)
    rw [List.append_assoc]
    exact Text.dropStart?_eq_none (hname.not_brace_append hbehind)

/-- **The body of a condition is a spelling of its test.** -/
theorem Writes.exists_spells {condition : String} (h : Writes t condition) :
    ∃ cs, Spells t cs ∧ body condition.toList = cs := by
  cases h with
  | @braced cs left right before after hcs hleft hright hbefore hafter =>
    have hbraces : Text.trimChars (['$', '{'] ++ (left ++ cs ++ right) ++ ['}']) =
        ['$', '{'] ++ (left ++ cs ++ right) ++ ['}'] :=
      Text.trimChars_enclosed (by decide) (by decide) ('{' :: (left ++ cs ++ right))
    refine ⟨cs, hcs, ?_⟩
    rw [body, String.toList_ofList, Text.trimChars_append_right hafter,
      Text.trimChars_append_left hbefore, hbraces, List.append_assoc, Text.dropStart?_append,
      Option.bind_some, Text.dropEnd?_append, Option.getD_some,
      Text.trimChars_append_right hright, Text.trimChars_append_left hleft, hcs.trimChars_eq]
  | @bare cs before after hcs hbefore hafter =>
    refine ⟨cs, hcs, ?_⟩
    rw [body, String.toList_ofList, Text.trimChars_append_right hafter,
      Text.trimChars_append_left hbefore, hcs.trimChars_eq, hcs.dropStart?_eq_none,
      Option.bind_none, Option.getD_none, hcs.trimChars_eq]

/-- **A condition holds exactly if the test that it writes does**: a variable
counts as true, or does not, or has the text that it is compared with. Braces
and blanks make no difference. -/
theorem holds_iff {t : Test} {condition : String} (h : Writes t condition) (vars : Table Json) :
    holds condition vars = true ↔ t.Holds vars := by
  obtain ⟨cs, hcs, hbody⟩ := h.exists_spells
  rw [holds, hbody, hcs.bodyHolds_iff]

/-- A text with a brace, with quotes inside and with a second `==`. -/
theorem nested_text_compared :
    Writes (.equals "tier" "a\x7d=='b' c ") "\t$\x7b tier  ==\"a\x7d=='b' c \" \x7d\n" ∧
      holds "\t$\x7b tier  ==\"a\x7d=='b' c \" \x7d\n" [("tier", .str "a\x7d=='b' c ")] = true ∧
      holds "\t$\x7b tier  ==\"a\x7d=='b' c \" \x7d\n" [("tier", .str "a\x7d=='b' c")] =
        false := by
  have hname : IsName "tier" :=
    ⟨Text.isPlain_iff.2 ⟨by decide, by decide⟩, by decide, by decide, by decide⟩
  have hliteral : IsLiteral "a\x7d=='b' c " := by
    constructor <;> rintro _ ⟨⟩ <;> rfl
  have hspells : Spells (.equals "tier" "a\x7d=='b' c ")
      ("tier".toList ++ [' ', ' '] ++
        (['=', '='] ++ ([] ++ ('"' :: ("a\x7d=='b' c ".toList ++ ['"']))))) :=
    .equals hname hliteral (by decide) (by decide) (by decide) (by decide)
  have hblank : IsGap [' '] ∧ IsGap ['\t'] ∧ IsGap ['\n'] := by decide
  have hwrites : Writes (.equals "tier" "a\x7d=='b' c ")
      "\t$\x7b tier  ==\"a\x7d=='b' c \" \x7d\n" :=
    .braced hspells hblank.1 hblank.1 hblank.2.1 hblank.2.2
  refine ⟨hwrites, (holds_iff hwrites _).2 ⟨_, rfl, .str _⟩, ?_⟩
  rw [← Bool.not_eq_true, holds_iff hwrites]
  rintro ⟨v, hv, htext⟩
  cases hv
  exact absurd (valueText_eq_iff.2 htext) (by decide)

end Condition

end WorkflowCanvas
