import WorkflowCanvas.Json.Printer
import WorkflowCanvas.Json.Reader
import Mathlib.Data.List.Basic
import Mathlib.Data.List.TakeWhile
/-!
# Strings and numerals are read back

Both are read in front of whatever stands behind them. The characters of a
string are escaped one by one, and one by one they are read
(`stringPart?_escapeChar`). A numeral ends where the value ends, so its
digits, its fraction and its exponent are the same in front of the end, a
comma or a closing bracket (`Ends`, `numeral?_append`). Integers of 64 bits
are read back from their numerals (`numeral?_toString`). Of floats this is
not so in general, and whoever writes one has to answer for it.
-/


namespace WorkflowCanvas

namespace Document

variable {rest cs : List Char} {c : Char} {d : Document}

/-! ## Strings -/

theorem hexValue?_hexDigit {n : Nat} (h : n < 16) : hexValue? (hexDigit n) = some n := by
  have hall : ∀ n < 16, hexValue? (hexDigit n) = some n := by decide
  exact hall n h

/-- A character that is not escaped stands for itself. -/
theorem stringPart?_cons (hquote : c ≠ '"') (hslash : c ≠ '\\') (hcontrol : ¬ c.toNat < 0x20) :
    stringPart? (c :: rest) = some (.char c, rest) := by
  rw [stringPart?, if_neg (not_or.2 ⟨hcontrol, hslash⟩)]
  · exact fun h => hquote h
  · exact fun _ h => absurd h hslash
  · exact fun _ _ h => absurd h hslash

/-- **An escaped character is read as the character.** -/
theorem stringPart?_escapeChar (c : Char) (rest : List Char) :
    stringPart? (escapeChar c ++ rest) = some (.char c, rest) := by
  unfold escapeChar
  split
  · next letter hletter =>
    unfold escapeLetter? at hletter
    split at hletter <;> cases hletter <;> rfl
  · next hnone =>
    split
    · next hcontrol =>
      -- the code of a control character, which is no surrogate
      have hunit : hexUnit? ('0' :: '0' :: hexDigit (c.toNat / 16) :: hexDigit (c.toNat % 16) ::
          rest) = some (c.toNat, rest) := by
        have hzero : hexValue? '0' = some 0 := by decide
        have hsum : ((0 * 16 + 0) * 16 + c.toNat / 16) * 16 + c.toNat % 16 = c.toNat := by omega
        rw [hexUnit?, hzero, hexValue?_hexDigit (by omega), hexValue?_hexDigit (by omega)]
        simp only [Option.bind_eq_bind, Option.bind_some, Option.pure_def, hsum]
      have hlow : ¬ (0xDC00 ≤ c.toNat ∧ c.toNat ≤ 0xDFFF) := by omega
      have hhigh : ¬ (0xD800 ≤ c.toNat ∧ c.toNat ≤ 0xDBFF) := by omega
      simp only [List.cons_append, List.nil_append, stringPart?, hunit, Option.bind_eq_bind,
        Option.bind_some, if_neg hlow, if_neg hhigh, Char.ofNat_toNat, Option.pure_def]
    · next hcontrol =>
      refine stringPart?_cons ?_ ?_ hcontrol
      · rintro rfl
        cases hnone
      · rintro rfl
        cases hnone

/-- An escaped character is written with a character at least. -/
theorem one_le_length_escapeChar (c : Char) : 1 ≤ (escapeChar c).length := by
  unfold escapeChar
  split
  · exact Nat.le_add_left 1 _
  · split <;> exact Nat.le_add_left 1 _

/-- Escaping makes no text shorter. -/
theorem length_le_length_escaped (cs : List Char) :
    cs.length ≤ (cs.flatMap escapeChar).length := by
  induction cs with
  | nil => exact le_rfl
  | cons c cs ih =>
    have hchar := one_le_length_escapeChar c
    rw [List.flatMap_cons, List.length_append, List.length_cons]
    omega

/-- The characters of a string are read one by one. -/
theorem stringFrom?_escaped {fuel : Nat} (hfuel : cs.length < fuel) (passed : List Char) :
    stringFrom? fuel (some passed) (cs.flatMap escapeChar ++ '"' :: rest) =
      some (some (String.ofList (passed.reverse ++ cs)), rest) := by
  induction cs generalizing fuel passed with
  | nil =>
    cases fuel with
    | zero => cases hfuel
    | succ fuel =>
      rw [List.append_nil]
      rfl
  | cons c cs ih =>
    cases fuel with
    | zero => cases hfuel
    | succ fuel =>
      have hnext := ih (Nat.lt_of_succ_lt_succ hfuel) (c :: passed)
      rw [List.reverse_cons, List.append_assoc] at hnext
      rw [List.flatMap_cons, List.append_assoc, stringFrom?, stringPart?_escapeChar]
      exact hnext

/-- **A string in quotes is read back**, behind its opening quote. -/
theorem string?_escaped {fuel : Nat} (s : String) (hfuel : s.toList.length < fuel) :
    string? fuel (s.toList.flatMap escapeChar ++ '"' :: rest) = some (some s, rest) := by
  rw [string?, stringFrom?_escaped hfuel, List.reverse_nil, List.nil_append, String.ofList_toList]

theorem toList_quoted (s : String) :
    (quoted s).toList = '"' :: (s.toList.flatMap escapeChar ++ ['"']) := by
  rw [quoted, String.toList_ofList]
  rfl

/-! ## Numerals -/

/-- **What stands behind a value**: nothing, a comma, or a closing bracket. -/
def Ends (rest : List Char) : Prop := ∀ c ∈ rest.head?, c = ',' ∨ c = ']' ∨ c = '}'

theorem Ends.eq_nil_or_cons (h : Ends rest) :
    rest = [] ∨ ∃ c cs, rest = c :: cs ∧ (c = ',' ∨ c = ']' ∨ c = '}') := by
  cases rest with
  | nil => exact Or.inl rfl
  | cons c cs => exact Or.inr ⟨c, cs, rfl, h c rfl⟩

/-- Digits end where the value ends. -/
theorem digits_append (h : Ends rest) (cs : List Char) :
    digits (cs ++ rest) = ((digits cs).1, (digits cs).2 ++ rest) := by
  induction cs with
  | nil =>
    rcases h.eq_nil_or_cons with rfl | ⟨c, cs, rfl, rfl | rfl | rfl⟩ <;> rfl
  | cons c cs ih =>
    unfold digits at ih ⊢
    obtain ⟨hdigits, hbehind⟩ := Prod.mk.inj ih
    cases hc : c.isDigit with
    | true => simp [hc, hdigits, hbehind]
    | false => simp [hc]

theorem wholeDigits?_append (h : Ends rest) (cs : List Char) :
    wholeDigits? (cs ++ rest) = (wholeDigits? cs).map fun found => (found.1, found.2 ++ rest) := by
  unfold wholeDigits?
  rw [digits_append h]
  rcases digits cs with ⟨_ | ⟨_ | d, _ | ⟨d', ds⟩⟩, behind⟩ <;> rfl

theorem fraction?_append (h : Ends rest) (cs : List Char) :
    fraction? (cs ++ rest) = (fraction? cs).map fun found => (found.1, found.2 ++ rest) := by
  cases cs with
  | nil => rcases h.eq_nil_or_cons with rfl | ⟨c, cs, rfl, rfl | rfl | rfl⟩ <;> rfl
  | cons c cs =>
    by_cases hc : c = '.'
    · subst hc
      simp only [List.cons_append, fraction?, digits_append h]
      rcases digits cs with ⟨_ | ⟨d, ds⟩, behind⟩ <;> rfl
    · have hplain : ∀ cs, fraction? (c :: cs) = some (none, c :: cs) := by
        intro cs
        rw [fraction?]
        exact fun _ h => absurd (List.cons.inj h).1 hc
      rw [List.cons_append, hplain, hplain]
      rfl

/-- The exponent of a numeral behind its sign. -/
def unsignedExponent? (negative : Bool) (cs : List Char) : Option (Option Int × List Char) :=
  match digits cs with
  | ([], _) => none
  | (ds, behind) =>
    let n : Nat := ds.foldl (fun n d => n * 10 + d) 0
    some (some (if negative then -(n : Int) else n), behind)

theorem exponent?_plus (hc : c = 'e' ∨ c = 'E') (cs : List Char) :
    exponent? (c :: '+' :: cs) = unsignedExponent? false cs := by
  rw [exponent?, if_pos hc]
  rfl

theorem exponent?_minus (hc : c = 'e' ∨ c = 'E') (cs : List Char) :
    exponent? (c :: '-' :: cs) = unsignedExponent? true cs := by
  rw [exponent?, if_pos hc]
  rfl

theorem exponent?_of_unsigned {sign : Char} (hc : c = 'e' ∨ c = 'E') (hplus : sign ≠ '+')
    (hminus : sign ≠ '-') (cs : List Char) :
    exponent? (c :: sign :: cs) = unsignedExponent? false (sign :: cs) := by
  rw [exponent?, if_pos hc]
  · rfl
  · exact fun _ heq => hplus (List.cons.inj heq).1
  · exact fun _ heq => hminus (List.cons.inj heq).1

theorem unsignedExponent?_append (h : Ends rest) (negative : Bool) (cs : List Char) :
    unsignedExponent? negative (cs ++ rest) =
      (unsignedExponent? negative cs).map fun found => (found.1, found.2 ++ rest) := by
  rw [unsignedExponent?, unsignedExponent?, digits_append h]
  rcases digits cs with ⟨_ | ⟨d, ds⟩, behind⟩ <;> rfl

theorem exponent?_append (h : Ends rest) (cs : List Char) :
    exponent? (cs ++ rest) = (exponent? cs).map fun found => (found.1, found.2 ++ rest) := by
  rcases cs with _ | ⟨c, cs⟩
  · rcases h.eq_nil_or_cons with rfl | ⟨c, cs, rfl, rfl | rfl | rfl⟩ <;> rfl
  by_cases hc : c = 'e' ∨ c = 'E'
  · rcases cs with _ | ⟨sign, cs⟩
    · simp only [List.cons_append, exponent?, if_pos hc]
      rcases h.eq_nil_or_cons with rfl | ⟨c, cs, rfl, rfl | rfl | rfl⟩ <;> rfl
    -- past the letter and the sign only digits are left to read
    simp only [List.cons_append]
    by_cases hplus : sign = '+'
    · subst hplus
      rw [exponent?_plus hc, exponent?_plus hc, unsignedExponent?_append h]
    by_cases hminus : sign = '-'
    · subst hminus
      rw [exponent?_minus hc, exponent?_minus hc, unsignedExponent?_append h]
    · rw [exponent?_of_unsigned hc hplus hminus, exponent?_of_unsigned hc hplus hminus,
        ← List.cons_append, unsignedExponent?_append h]
  · simp only [List.cons_append, exponent?, if_neg hc]
    rfl

/-- A numeral behind its sign. -/
def unsigned? (negative : Bool) (cs : List Char) : Option (Document × List Char) := do
  let (whole, cs) ← wholeDigits? cs
  let (fraction, cs) ← fraction? cs
  let (exponent, cs) ← exponent? cs
  return (Numeral.read ⟨negative, whole, fraction, exponent⟩, cs)

theorem numeral?_minus (cs : List Char) : numeral? ('-' :: cs) = unsigned? true cs := rfl

theorem numeral?_of_ne_minus (hc : c ≠ '-') (cs : List Char) :
    numeral? (c :: cs) = unsigned? false (c :: cs) := by
  rw [numeral?]
  · rfl
  · exact fun _ heq => hc (List.cons.inj heq).1

theorem unsigned?_append (h : Ends rest) (negative : Bool) (cs : List Char) :
    unsigned? negative (cs ++ rest) =
      (unsigned? negative cs).map fun found => (found.1, found.2 ++ rest) := by
  rw [unsigned?, unsigned?, wholeDigits?_append h]
  rcases wholeDigits? cs with _ | ⟨whole, cs⟩
  · rfl
  simp only [Option.map_some, Option.bind_eq_bind, Option.bind_some, fraction?_append h]
  rcases fraction? cs with _ | ⟨fraction, cs⟩
  · rfl
  simp only [Option.map_some, Option.bind_some, exponent?_append h]
  rcases exponent? cs with _ | ⟨exponent, cs⟩ <;> rfl

/-- **A numeral is read in front of anything that ends a value.** -/
theorem numeral?_append (h : Ends rest) (hd : numeral? cs = some (d, [])) :
    numeral? (cs ++ rest) = some (d, rest) := by
  rcases cs with _ | ⟨c, cs⟩
  · cases hd
  by_cases hc : c = '-'
  · subst hc
    rw [numeral?_minus] at hd
    rw [List.cons_append, numeral?_minus, unsigned?_append h, hd]
    rfl
  · rw [numeral?_of_ne_minus hc] at hd
    rw [List.cons_append, numeral?_of_ne_minus hc, ← List.cons_append, unsigned?_append h, hd]
    rfl

/-- A numeral starts with a sign or a digit. -/
theorem exists_cons_of_numeral? (hd : numeral? cs = some (d, rest)) :
    ∃ c cs', cs = c :: cs' ∧ (c = '-' ∨ c.isDigit = true) := by
  rcases cs with _ | ⟨c, cs⟩
  · cases hd
  refine ⟨c, cs, rfl, ?_⟩
  by_cases hc : c = '-'
  · exact Or.inl hc
  · refine Or.inr ?_
    rw [numeral?_of_ne_minus hc, unsigned?, wholeDigits?, digits] at hd
    by_contra hdigit
    rw [List.takeWhile_cons_of_neg (by simpa using hdigit)] at hd
    cases hd

/-- A sign or a digit is no blank. -/
theorem isTokenBlank_of_sign_or_digit (hc : c = '-' ∨ c.isDigit = true) :
    isTokenBlank c = false := by
  by_contra hblank
  simp only [isTokenBlank, Bool.not_eq_false, Bool.or_eq_true, beq_iff_eq] at hblank
  rcases hblank with ((rfl | rfl) | rfl) | rfl <;> simp [Char.isDigit] at hc

/-- A sign or a digit is no other character. -/
theorem ne_of_sign_or_digit {a : Char} (hc : c = '-' ∨ c.isDigit = true)
    (ha : ¬ (a = '-' ∨ a.isDigit = true)) : c ≠ a := by
  rintro rfl
  exact ha hc

/-! ## Integers -/

/-- Digits that make up a word are read as the word. -/
theorem appendDigits_eq {word : Nat} {ds : List Nat}
    (h : ds.foldl (fun n d => n * 10 + d) word < 0x10000000000000000) :
    appendDigits word ds = (ds.foldl (fun n d => n * 10 + d) word, []) := by
  induction ds generalizing word with
  | nil => rfl
  | cons d ds ih =>
    have hle : ∀ (ds : List Nat) (n : Nat), n ≤ ds.foldl (fun n d => n * 10 + d) n := by
      intro ds
      induction ds with
      | nil => exact fun n => le_rfl
      | cons d ds ih => exact fun n => le_trans (by omega) (ih (n * 10 + d))
    have hword : word * 10 + d < 0x10000000000000000 := lt_of_le_of_lt (hle ds _) h
    rw [appendDigits, if_pos hword]
    exact ih h

/-- A number has no leading zero. -/
theorem head?_toDigits_ne {n : Nat} (h : 0 < n) : (Nat.toDigits 10 n).head? ≠ some '0' := by
  induction n using Nat.strongRecOn with
  | ind n ih =>
    by_cases hn : n < 10
    · rw [Nat.toDigits_of_lt_base hn, List.head?_cons]
      intro heq
      have hzero := Nat.digitChar_eq_zero.1 (Option.some.inj heq)
      omega
    · -- the first digit is that of the number without its last digit
      rw [Nat.toDigits_of_base_le (by omega) (by omega),
        List.head?_append_of_ne_nil _ Nat.toDigits_ne_nil]
      exact ih (n / 10) (by omega) (by omega)

/-- The values of the digits of a number. -/
def digitValues (n : Nat) : List Nat := (Nat.toDigits 10 n).map fun c => c.toNat - 48

theorem foldl_digitValues (n : Nat) : (digitValues n).foldl (fun n d => n * 10 + d) 0 = n := by
  have hvalue := Nat.ofDigitChars_toDigits (b := 10) (n := n) (by omega) le_rfl
  rw [Nat.ofDigitChars] at hvalue
  rw [digitValues, List.foldl_map]
  simp only [Nat.mul_comm 10] at hvalue
  exact hvalue

/-- The digits of a number are read as such: a zero stands alone. -/
theorem wholeDigits?_toDigits (n : Nat) :
    wholeDigits? (Nat.toDigits 10 n) = some (digitValues n, []) := by
  have hall : ∀ c ∈ Nat.toDigits 10 n, c.isDigit = true :=
    fun c hc => Nat.isDigit_of_mem_toDigits (by omega) le_rfl hc
  have hdigits : digits (Nat.toDigits 10 n) = (digitValues n, []) := by
    rw [digits, List.dropWhile_eq_nil_iff.2 hall, List.takeWhile_eq_self_iff.2 hall, digitValues]
  rw [wholeDigits?, hdigits]
  rcases Nat.eq_zero_or_pos n with rfl | hn
  · rfl
  · split
    · next heq =>
      have hnil := List.map_eq_nil_iff.1 (Prod.mk.inj heq).1
      exact absurd hnil Nat.toDigits_ne_nil
    · next heq =>
      -- a zero in front of another digit would be a leading zero
      obtain ⟨c, cs, hc, hzero, -⟩ := List.map_eq_cons_iff.1 (Prod.mk.inj heq).1
      have hdigit := hall c (hc ▸ List.mem_cons_self)
      have hchar : c = '0' := by
        have hbounds := Char.isDigit_iff_toNat.1 hdigit
        refine Char.toNat_inj.1 (show c.toNat = 48 from ?_)
        change 48 ≤ c.toNat ∧ _ at hbounds
        omega
      exact absurd (by rw [hc, hchar]; rfl) (head?_toDigits_ne hn)
    · rfl

/-- A numeral of digits alone. -/
theorem unsigned?_toDigits (n : Nat) (negative : Bool) :
    unsigned? negative (Nat.toDigits 10 n) =
      some (Numeral.read ⟨negative, digitValues n, none, none⟩, []) := by
  rw [unsigned?, wholeDigits?_toDigits]
  rfl

/-- **An integer is read back.** -/
theorem numeral?_toString {n : Int} (h : -Json.signedLimit ≤ n ∧ n < Json.wordLimit) :
    numeral? (toString n).toList = some (.int n, []) := by
  have hword : ∀ m : Nat, m < 0x10000000000000000 → appendDigits 0 (digitValues m) = (m, []) := by
    intro m hm
    rw [appendDigits_eq (by rw [foldl_digitValues]; exact hm), foldl_digitValues]
  rw [Json.signedLimit, Json.wordLimit] at h
  rw [Int.toString_eq_repr, Int.repr_eq_if]
  split
  · next hn =>
    obtain ⟨m, rfl⟩ := Int.eq_ofNat_of_zero_le hn
    rw [Int.toNat_natCast, Nat.toList_repr]
    have hread : unsigned? false (Nat.toDigits 10 m) = some (.int m, []) := by
      rw [unsigned?_toDigits, Numeral.read, hword m (by omega)]
      rfl
    -- the first digit is no sign
    rcases hdigits : Nat.toDigits 10 m with _ | ⟨c, cs⟩
    · exact absurd hdigits Nat.toDigits_ne_nil
    · have hminus : c ≠ '-' := by
        rintro rfl
        have hdigit := Nat.isDigit_of_mem_toDigits (b := 10) (n := m) (by omega) le_rfl
          (hdigits ▸ List.mem_cons_self)
        cases hdigit
      rw [numeral?_of_ne_minus hminus, ← hdigits, hread]
  · next hn =>
    obtain ⟨m, rfl⟩ : ∃ m : Nat, n = -(m : Int) := ⟨n.natAbs, by omega⟩
    have hpositive : 0 < m ∧ m ≤ 0x8000000000000000 := by omega
    rw [Int.neg_neg, Int.toNat_natCast, String.toList_append, Nat.toList_repr]
    show numeral? ('-' :: Nat.toDigits 10 m) = _
    rw [numeral?_minus, unsigned?_toDigits, Numeral.read, hword m (by omega)]
    simp [hpositive]

end Document

end WorkflowCanvas
