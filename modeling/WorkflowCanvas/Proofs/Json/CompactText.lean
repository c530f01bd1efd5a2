import WorkflowCanvas.Proofs.Json.Lexemes
import WorkflowCanvas.Proofs.Json.ReadBack
/-!
# The compact text is read back

Values are read in front of the end, a comma or a closing bracket. The fuel
for a value is twice the length of its text, which leaves enough for every
part, so each document is read back from its text if its parts are
(`Legible.readsCompact`, by induction on the document). A document is then
the document of its text, if its numbers are such that their numerals stand
for them and it nests no deeper than the reader allows
(`Legible.parse?_compact`).
-/


namespace WorkflowCanvas

namespace Document

variable {rest cs : List Char} {c : Char} {d : Document}

/-! ## Values -/

theorem skipBlanks_cons (h : isTokenBlank c = false) (cs : List Char) :
    skipBlanks (c :: cs) = c :: cs := by
  rw [skipBlanks, List.dropWhile_cons_of_neg (by simp [h])]

/-- **A numeral is read as a value.** -/
theorem value?_numeral (hd : numeral? cs = some (d, [])) (h : Ends rest) (fuel depth : Nat) :
    value? (fuel + 1) depth (cs ++ rest) = some (d, rest) := by
  obtain ⟨c, cs', rfl, hc⟩ := exists_cons_of_numeral? hd
  -- the first character opens no other value, so the last case is left
  have hskip := skipBlanks_cons (isTokenBlank_of_sign_or_digit hc) (cs' ++ rest)
  rw [← List.cons_append] at hskip
  rw [value?, hskip]
  split
  case h_7 => exact numeral?_append h hd
  all_goals
    next heq => exact absurd (List.cons.inj heq).1 (ne_of_sign_or_digit hc (by decide))

/-- **A document can be written**: it is readable throughout, its integers are
words, and its floats are read back from their numerals. -/
inductive Legible : Document → Prop
  | null : Legible .null
  | bool (b : Bool) : Legible (.bool b)
  | int {n : Int} (h : -Json.signedLimit ≤ n ∧ n < Json.wordLimit) : Legible (.int n)
  | float {x : Float} (h : numeral? (Decimal.numeral x).toList = some (.float x, [])) :
      Legible (.float x)
  | str (s : String) : Legible (.str s)
  | arr {items : List Document} (h : ∀ d ∈ items, Legible d) : Legible (.arr items)
  | obj {fields : List (String × Document)} (h : ∀ f ∈ fields, Legible f.2) :
      Legible (.obj fields)

theorem toList_compact_arr (items : List Document) :
    (compact (.arr items)).toList = '[' :: ((compactItems items).toList ++ [']']) := by
  rw [compact, String.toList_append, String.toList_append]
  rfl

theorem toList_compact_obj (fields : List (String × Document)) :
    (compact (.obj fields)).toList = '\x7b' :: ((compactFields fields).toList ++ ['\x7d']) := by
  rw [compact, String.toList_append, String.toList_append]
  rfl

/-- The text of a document begins a value, and does not close an array. -/
theorem Legible.exists_cons (h : d.Legible) :
    ∃ c cs, d.compact.toList = c :: cs ∧ isTokenBlank c = false ∧ c ≠ ']' := by
  have hnumeral : ∀ {cs : List Char} {d : Document}, numeral? cs = some (d, []) →
      ∃ c cs', cs = c :: cs' ∧ isTokenBlank c = false ∧ c ≠ ']' := by
    intro cs d hd
    obtain ⟨c, cs', rfl, hc⟩ := exists_cons_of_numeral? hd
    exact ⟨c, cs', rfl, isTokenBlank_of_sign_or_digit hc, ne_of_sign_or_digit hc (by decide)⟩
  cases h with
  | null => exact ⟨'n', _, rfl, rfl, by decide⟩
  | bool b => cases b <;> exact ⟨_, _, rfl, rfl, by decide⟩
  | int hn => exact hnumeral (numeral?_toString hn)
  | float hx => exact hnumeral hx
  | str s => exact ⟨'"', _, toList_quoted s, rfl, by decide⟩
  | arr _ => exact ⟨'[', _, toList_compact_arr _, rfl, by decide⟩
  | obj _ => exact ⟨'\x7b', _, toList_compact_obj _, rfl, by decide⟩

/-! ## Arrays and objects -/

/-- **A document is read back** from its compact text with fuel for twice its
length, in front of anything that ends a value. -/
def ReadsCompact (d : Document) : Prop :=
  ∀ (fuel depth : Nat) (rest : List Char), 2 * d.compact.toList.length ≤ fuel → d.depth ≤ depth →
    Ends rest → value? fuel depth (d.compact.toList ++ rest) = some (d, rest)

theorem toList_compactItems_cons {items : List Document} (h : items ≠ []) (d : Document) :
    (compactItems (d :: items)).toList = d.compact.toList ++ ',' :: (compactItems items).toList := by
  cases items with
  | nil => exact absurd rfl h
  | cons d' items =>
    rw [compactItems, String.toList_append, String.toList_append, List.append_assoc]
    · rfl
    · exact nofun

/-- The text of a field in front of what follows. -/
def fieldText (k : String) (d : Document) (next : List Char) : List Char :=
  '"' :: (k.toList.flatMap escapeChar ++ '"' :: ':' :: (d.compact.toList ++ next))

theorem toList_compactFields_singleton (k : String) (d : Document) (rest : List Char) :
    (compactFields [(k, d)]).toList ++ rest = fieldText k d rest := by
  rw [compactFields, String.toList_append, String.toList_append, toList_quoted, fieldText]
  simp

theorem toList_compactFields_cons {fields : List (String × Document)} (h : fields ≠ [])
    (k : String) (d : Document) (rest : List Char) :
    (compactFields ((k, d) :: fields)).toList ++ rest =
      fieldText k d (',' :: ((compactFields fields).toList ++ rest)) := by
  cases fields with
  | nil => exact absurd rfl h
  | cons f fields =>
    rw [compactFields, fieldText]
    · simp [String.toList_append, toList_quoted]
    · exact nofun

/-- **A field is read**, and what follows it decides how to go on. -/
theorem fields?_fieldText {k : String} (hd : ReadsCompact d) {fuel depth : Nat}
    (hfuel : 2 * (fieldText k d []).length ≤ fuel) (hdepth : d.depth ≤ depth)
    (rest : List Char) :
    fields? (fuel + 1) depth (fieldText k d ('\x7d' :: rest)) = some ([(some k, d)], rest) ∧
    fields? (fuel + 1) depth (fieldText k d (',' :: rest)) =
      (fields? fuel depth rest).map fun found => ((some k, d) :: found.1, found.2) := by
  have hescaped := length_le_length_escaped k.toList
  simp only [fieldText, List.length_cons, List.length_append, List.length_nil] at hfuel
  have hkey : ∀ next, string? fuel (k.toList.flatMap escapeChar ++ '"' :: next) =
      some (some k, next) := fun next => string?_escaped k (by omega)
  have hvalue : ∀ c next, Ends (c :: next) →
      value? fuel depth (d.compact.toList ++ c :: next) = some (d, c :: next) :=
    fun c next h => hd fuel depth (c :: next) (by omega) hdepth h
  constructor
  · simp only [fieldText, fields?, skipBlanks_cons (c := '"') rfl, hkey, Option.bind_eq_bind,
      Option.bind_some, skipBlanks_cons (c := ':') rfl,
      hvalue '\x7d' rest (by rintro _ ⟨⟩; simp), skipBlanks_cons (c := '\x7d') rfl]
    rfl
  · simp only [fieldText, fields?, skipBlanks_cons (c := '"') rfl, hkey, Option.bind_eq_bind,
      Option.bind_some, skipBlanks_cons (c := ':') rfl,
      hvalue ',' rest (by rintro _ ⟨⟩; simp), skipBlanks_cons (c := ',') rfl]
    cases fields? fuel depth rest <;> rfl

/-- **The items of an array are read back.** -/
theorem items?_compactItems {items : List Document} (hne : items ≠ [])
    (h : ∀ d ∈ items, ReadsCompact d) {fuel depth : Nat}
    (hfuel : 2 * (compactItems items).toList.length + 1 ≤ fuel)
    (hdepth : ∀ d ∈ items, d.depth ≤ depth) (rest : List Char) :
    items? fuel depth ((compactItems items).toList ++ ']' :: rest) = some (items, rest) := by
  induction items generalizing fuel with
  | nil => exact absurd rfl hne
  | cons d items ih =>
    obtain ⟨hd, hitems⟩ := List.forall_mem_cons.1 h
    obtain ⟨hdepthHead, hdepthTail⟩ := List.forall_mem_cons.1 hdepth
    -- one step of fuel goes into the item, and its text pays for two
    cases fuel with
    | zero => cases hfuel
    | succ fuel =>
      by_cases hnil : items = []
      · subst hnil
        rw [compactItems] at hfuel ⊢
        rw [items?, hd fuel depth (']' :: rest) (by omega) hdepthHead (by rintro _ ⟨⟩; simp)]
        rfl
      · rw [toList_compactItems_cons hnil] at hfuel ⊢
        rw [List.length_append, List.length_cons] at hfuel
        rw [List.append_assoc, List.cons_append, items?,
          hd fuel depth _ (by omega) hdepthHead (by rintro _ ⟨⟩; simp)]
        simp only [Option.bind_eq_bind, Option.bind_some]
        rw [skipBlanks_cons rfl]
        simp only []
        rw [ih hnil hitems (by omega) hdepthTail]
        rfl

/-- **The fields of an object are read back.** -/
theorem fields?_compactFields {fields : List (String × Document)} (hne : fields ≠ [])
    (h : ∀ f ∈ fields, ReadsCompact f.2) {fuel depth : Nat}
    (hfuel : 2 * (compactFields fields).toList.length + 1 ≤ fuel)
    (hdepth : ∀ f ∈ fields, f.2.depth ≤ depth) (rest : List Char) :
    fields? fuel depth ((compactFields fields).toList ++ '\x7d' :: rest) =
      some (fields.map fun f => (some f.1, f.2), rest) := by
  induction fields generalizing fuel with
  | nil => exact absurd rfl hne
  | cons f fields ih =>
    obtain ⟨k, d⟩ := f
    obtain ⟨hd, hfields⟩ := List.forall_mem_cons.1 h
    obtain ⟨hdepthHead, hdepthTail⟩ := List.forall_mem_cons.1 hdepth
    change ReadsCompact d at hd
    cases fuel with
    | zero => cases hfuel
    | succ fuel =>
      by_cases hnil : fields = []
      · subst hnil
        have hlength := congrArg List.length (toList_compactFields_singleton k d [])
        rw [List.append_nil] at hlength
        rw [toList_compactFields_singleton, (fields?_fieldText hd (by omega) hdepthHead rest).1]
        rfl
      · have hlength := congrArg List.length (toList_compactFields_cons hnil k d [])
        simp only [fieldText, List.append_nil, List.length_cons, List.length_append] at hlength
        rw [toList_compactFields_cons hnil, (fields?_fieldText hd _ hdepthHead _).2,
          ih hnil hfields (by omega) hdepthTail]
        · rfl
        · simp only [fieldText, List.length_cons, List.length_append, List.length_nil]
          omega

/-- The text of items begins as that of the first one. -/
theorem exists_cons_compactItems {items : List Document} (hne : items ≠ [])
    (h : ∀ d ∈ items, d.Legible) :
    ∃ c cs, (compactItems items).toList = c :: cs ∧ isTokenBlank c = false ∧ c ≠ ']' := by
  cases items with
  | nil => exact absurd rfl hne
  | cons d items =>
    obtain ⟨c, cs, hcs, hblank, hc⟩ := (h d List.mem_cons_self).exists_cons
    by_cases hnil : items = []
    · subst hnil
      exact ⟨c, cs, hcs, hblank, hc⟩
    · refine ⟨c, cs ++ ',' :: (compactItems items).toList, ?_, hblank, hc⟩
      rw [toList_compactItems_cons hnil, hcs]
      rfl

/-- The text of fields begins with a quote. -/
theorem exists_cons_compactFields {fields : List (String × Document)} (hne : fields ≠ []) :
    ∃ cs, (compactFields fields).toList = '"' :: cs := by
  rcases fields with _ | ⟨⟨k, d⟩, fields⟩
  · exact absurd rfl hne
  · by_cases hnil : fields = []
    · subst hnil
      have htext := toList_compactFields_singleton k d []
      rw [List.append_nil] at htext
      exact ⟨_, htext⟩
    · have htext := toList_compactFields_cons hnil k d []
      rw [List.append_nil] at htext
      exact ⟨_, htext⟩

theorem atDepth_of_pos {depth : Nat} (h : 0 < depth) (d : Document) : atDepth depth d = d :=
  if_neg (Nat.ne_of_gt h)

/-- Fields whose keys could all be read make an object. -/
theorem ofReadFields_map (fields : List (String × Document)) :
    ofReadFields (fields.map fun f => (some f.1, f.2)) = .obj fields := by
  have hread : (fields.map fun f => (some f.1, f.2)).mapM
      (fun f : Option String × Document => f.1.map fun k => (k, f.2)) = some fields :=
    mapM_eq_some (List.forall₂_map_left_iff.2 (List.forall₂_same.2 fun f _ => rfl))
  rw [ofReadFields]
  simp only [hread]

/-- A text is not empty, so there is fuel to begin with. -/
theorem Legible.readsCompact_of_succ (h : d.Legible)
    (hread : ∀ (fuel depth : Nat) (rest : List Char), 2 * d.compact.toList.length ≤ fuel + 1 →
      d.depth ≤ depth → Ends rest →
      value? (fuel + 1) depth (d.compact.toList ++ rest) = some (d, rest)) : ReadsCompact d := by
  intro fuel depth rest hfuel hdepth hends
  obtain ⟨c, cs, hcs, -, -⟩ := h.exists_cons
  cases fuel with
  | zero =>
    rw [hcs] at hfuel
    cases hfuel
  | succ fuel => exact hread fuel depth rest hfuel hdepth hends

/-- A string is read back. -/
theorem readsCompact_str (s : String) : ReadsCompact (.str s) := by
  refine (Legible.str s).readsCompact_of_succ fun fuel depth rest hfuel _ _ => ?_
  have hescaped := length_le_length_escaped s.toList
  rw [compact, toList_quoted] at hfuel ⊢
  simp only [List.length_cons, List.length_append, List.length_nil] at hfuel
  rw [List.cons_append, List.append_assoc, List.singleton_append, value?, skipBlanks_cons rfl]
  simp only [string?_escaped s (show s.toList.length < fuel by omega), Option.map_some]

/-- An array is read back if its items are. -/
theorem readsCompact_arr {items : List Document} (hitems : ∀ d ∈ items, d.Legible)
    (h : ∀ d ∈ items, ReadsCompact d) : ReadsCompact (.arr items) := by
  refine (Legible.arr hitems).readsCompact_of_succ fun fuel depth rest hfuel hdepth _ => ?_
  have hpos : 0 < depth := lt_of_lt_of_le (Nat.succ_pos _) hdepth
  have hinside : ∀ d ∈ items, d.depth ≤ depth - 1 := by
    intro d hd
    have hless := depth_lt_of_mem_items hd
    omega
  rw [toList_compact_arr] at hfuel ⊢
  simp only [List.length_cons, List.length_append, List.length_nil] at hfuel
  rw [List.cons_append, List.append_assoc, List.singleton_append, value?, skipBlanks_cons rfl]
  by_cases hnil : items = []
  · subst hnil
    exact congrArg (fun d => some (d, rest)) (atDepth_of_pos hpos _)
  · have henough : 2 * (compactItems items).toList.length + 1 ≤ fuel := by omega
    have hread := items?_compactItems hnil h henough hinside rest
    obtain ⟨c, cs, hcs, hblank, hc⟩ := exists_cons_compactItems hnil hitems
    have hskip := skipBlanks_cons hblank (cs ++ ']' :: rest)
    rw [← List.cons_append, ← hcs] at hskip
    simp only [hskip]
    -- the text of the first item does not close the array
    split
    · next heq =>
      rw [hcs] at heq
      exact absurd (List.cons.inj heq).1 hc
    · rw [hread, Option.map_some, atDepth_of_pos hpos]

/-- An object is read back if its fields are. -/
theorem readsCompact_obj {fields : List (String × Document)} (hfields : ∀ f ∈ fields, f.2.Legible)
    (h : ∀ f ∈ fields, ReadsCompact f.2) : ReadsCompact (.obj fields) := by
  refine (Legible.obj hfields).readsCompact_of_succ fun fuel depth rest hfuel hdepth _ => ?_
  have hpos : 0 < depth := lt_of_lt_of_le (Nat.succ_pos _) hdepth
  have hinside : ∀ f ∈ fields, f.2.depth ≤ depth - 1 := by
    intro f hf
    have hless := depth_lt_of_mem_fields (k := f.1) (d := f.2) hf
    omega
  rw [toList_compact_obj] at hfuel ⊢
  simp only [List.length_cons, List.length_append, List.length_nil] at hfuel
  rw [List.cons_append, List.append_assoc, List.singleton_append, value?, skipBlanks_cons rfl]
  by_cases hnil : fields = []
  · subst hnil
    exact congrArg (fun d => some (d, rest)) (atDepth_of_pos hpos _)
  · have henough : 2 * (compactFields fields).toList.length + 1 ≤ fuel := by omega
    have hread := fields?_compactFields hnil h henough hinside rest
    obtain ⟨cs, hcs⟩ := exists_cons_compactFields hnil
    have hskip := skipBlanks_cons (c := '"') rfl (cs ++ '\x7d' :: rest)
    rw [← List.cons_append, ← hcs] at hskip
    simp only [hskip]
    -- the quote of the first key does not close the object
    split
    · next heq =>
      rw [hcs] at heq
      cases (List.cons.inj heq).1
    · rw [hread, Option.map_some, ofReadFields_map, atDepth_of_pos hpos]

/-- **Every document that can be written is read back**, in front of anything
that ends a value. -/
theorem Legible.readsCompact (h : d.Legible) : ReadsCompact d := by
  induction h with
  | null => exact Legible.null.readsCompact_of_succ fun _ _ _ _ _ _ => rfl
  | bool b =>
    refine (Legible.bool b).readsCompact_of_succ fun _ _ _ _ _ _ => ?_
    cases b <;> rfl
  | int hn =>
    exact (Legible.int hn).readsCompact_of_succ fun fuel depth _ _ _ hends =>
      value?_numeral (numeral?_toString hn) hends fuel depth
  | float hx =>
    exact (Legible.float hx).readsCompact_of_succ fun fuel depth _ _ _ hends =>
      value?_numeral hx hends fuel depth
  | str s => exact readsCompact_str s
  | arr hitems ih => exact readsCompact_arr hitems ih
  | obj hfields ih => exact readsCompact_obj hfields ih

/-- **A document that can be written, and nests no deeper than the reader
allows, is the document of its compact text.** -/
theorem Legible.parse?_compact (h : d.Legible) (hdepth : d.depth ≤ nestingLimit) :
    parse? d.compact = some d := by
  have hread := h.readsCompact (2 * d.compact.toList.length + 2) nestingLimit []
    (Nat.le_add_right _ 2) hdepth nofun
  rw [List.append_nil] at hread
  simp only [parse?, hread]
  rfl

/-- **What is written as compact text is read back from it**, if its document can
be written and nests no deeper than the reader allows. -/
theorem ReadsAs.parse?_compact {α : Type} {read : Document → Option α} {x : α}
    (h : ReadsAs read d x) (hlegible : d.Legible) (hdepth : d.depth ≤ nestingLimit) :
    (parse? d.compact).bind read = .some x := by
  rw [hlegible.parse?_compact hdepth]
  exact h.self

end Document

end WorkflowCanvas
