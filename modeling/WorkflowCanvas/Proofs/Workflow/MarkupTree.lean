import WorkflowCanvas.Proofs.Workflow.Escape
/-!
# Trees of markup

What is written of a workflow are trees: lines that hold a text, and blocks
of further trees, each with a tag and attributes. A text says where it ends,
as what delimits it is escaped inside of it (`escape_unique`), a name is
followed by a character that no name holds, and the lines of a block are
indented deeper than the one that closes it. So a tree can be read off the
start of any text that it is written to, whatever follows it
(`Tree.text_unique`): all that is needed is that its tags and the names of
its attributes are names.
-/


namespace WorkflowCanvas

namespace Workflow

namespace Markup

/-! ## Where a text is cut -/

/-- **A text is cut in one way** at the first character that stops it. -/
theorem cut_unique {stops : Char → Prop} {as bs r r' : List Char} {c d : Char}
    (ha : ∀ x ∈ as, ¬ stops x) (hb : ∀ x ∈ bs, ¬ stops x) (hc : stops c) (hd : stops d)
    (h : as ++ c :: r = bs ++ d :: r') : as = bs ∧ c :: r = d :: r' := by
  induction as generalizing bs with
  | nil =>
    cases bs with
    | nil => exact ⟨rfl, h⟩
    | cons b bs => exact absurd ((List.cons.inj h).1 ▸ hc) (hb b List.mem_cons_self)
  | cons a as ih =>
    cases bs with
    | nil => exact absurd ((List.cons.inj h).1 ▸ hd) (ha a List.mem_cons_self)
    | cons b bs =>
      obtain ⟨rfl, htail⟩ := List.cons.inj h
      obtain ⟨rfl, hrest⟩ := ih (fun x hx => ha x (List.mem_cons_of_mem _ hx))
        (fun x hx => hb x (List.mem_cons_of_mem _ hx)) htail
      exact ⟨rfl, hrest⟩

/-! ## Escaped texts -/

section Escape

variable {s t : String} {c d : Char} {r r' : List Char}

/-- **An escaped text ends in one way** at its delimiter. -/
theorem escape_unique (hc : IsDelimiter c) (hd : IsDelimiter d)
    (h : (escape s).toList ++ c :: r = (escape t).toList ++ d :: r') :
    s = t ∧ c :: r = d :: r' := by
  obtain ⟨heq, h⟩ := cut_unique (fun _ => not_isDelimiter_of_mem) (fun _ => not_isDelimiter_of_mem)
    hc hd h
  exact ⟨escape_injective (String.toList_inj.1 heq), h⟩

end Escape

/-! ## Names -/

/-- A character of a name. -/
def isNameChar (c : Char) : Bool := c.isAlphanum || c == '_' || c == '-' || c == '.' || c == ':'

/-- **A name** of an element or of an attribute. -/
def IsName (s : String) : Prop := s.toList ≠ [] ∧ ∀ c ∈ s.toList, isNameChar c = true

instance (s : String) : Decidable (IsName s) :=
  decidable_of_iff (s.toList.isEmpty = false ∧ s.toList.all isNameChar = true) (by simp [IsName])

/-- A character that follows on a name. -/
def EndsName (c : Char) : Prop := c = ' ' ∨ c = '>' ∨ c = '='

/-- **A name ends in one way** at the character that follows on it. -/
theorem name_unique {s t : String} {c d : Char} {r r' : List Char} (hs : IsName s) (ht : IsName t)
    (hc : EndsName c) (hd : EndsName d) (h : s.toList ++ c :: r = t.toList ++ d :: r') :
    s = t ∧ c :: r = d :: r' := by
  have hnot : ∀ {s : String}, IsName s → ∀ x ∈ s.toList, ¬ EndsName x := by
    rintro s hs x hx (rfl | rfl | rfl) <;> exact absurd (hs.2 _ hx) (by decide)
  obtain ⟨heq, h⟩ := cut_unique (hnot hs) (hnot ht) hc hd h
  exact ⟨String.toList_inj.1 heq, h⟩

/-- No name starts with a slash. -/
theorem IsName.ne_slash {s : String} {r r' : List Char} (hs : IsName s) :
    s.toList ++ r ≠ '/' :: r' := by
  obtain ⟨c, cs, hcs⟩ := List.exists_cons_of_ne_nil hs.1
  intro h
  rw [hcs, List.cons_append] at h
  have hc := hs.2 c (hcs ▸ List.mem_cons_self)
  rw [(List.cons.inj h).1] at hc
  exact absurd hc (by decide)

/-! ## Attributes -/

/-- Attributes in order. -/
abbrev Attributes := List (String × String)

/-- The text of attributes. -/
def attributesText (as : Attributes) : String := String.join (as.map fun a => attr a.1 a.2)

/-- The attributes have names. -/
def AreNamed (as : Attributes) : Prop := ∀ a ∈ as, IsName a.1

/-- The rest of a tag behind its attributes. -/
def ClosesTag (r : List Char) : Prop := (∃ x, r = '>' :: x) ∨ ∃ x, r = ' ' :: '/' :: x

section Attributes

variable {as bs : Attributes} {r r' : List Char}

theorem toList_attributesText_cons (a : String × String) (as : Attributes) :
    (attributesText (a :: as)).toList = ' ' :: (a.1.toList ++ '=' :: '"' ::
      ((escape a.2).toList ++ '"' :: (attributesText as).toList)) := by
  simp [attributesText, attr, String.toList_join, String.toList_append]

theorem attributesText_cons (a : String × String) (as : Attributes) :
    attributesText (a :: as) = attr a.1 a.2 ++ attributesText as := by
  rw [attributesText, List.map_cons, String.join_cons, attributesText]

theorem attributesText_nil : attributesText [] = "" := rfl

theorem attributesText_append (as bs : Attributes) :
    attributesText (as ++ bs) = attributesText as ++ attributesText bs := by
  refine String.toList_inj.1 ?_
  simp [attributesText, String.toList_join]

/-- An attribute is not the rest of a tag. -/
theorem not_closesTag_attribute {name : String} (hname : IsName name) :
    ¬ ClosesTag (' ' :: (name.toList ++ r)) := by
  rintro (⟨x, h⟩ | ⟨x, h⟩)
  · exact absurd (List.cons.inj h).1 (by decide)
  · exact hname.ne_slash (List.cons.inj h).2

/-- **Attributes end in one way** at the rest of their tag. -/
theorem attributes_unique (ha : AreNamed as) (hb : AreNamed bs) (hr : ClosesTag r)
    (hr' : ClosesTag r')
    (h : (attributesText as).toList ++ r = (attributesText bs).toList ++ r') :
    as = bs ∧ r = r' := by
  induction as generalizing bs with
  | nil =>
    cases bs with
    | nil => exact ⟨rfl, h⟩
    | cons b bs =>
      rw [toList_attributesText_cons, List.cons_append, List.append_assoc] at h
      have h : r = ' ' :: (b.1.toList ++ _) := h
      exact absurd (h ▸ hr) (not_closesTag_attribute (hb b List.mem_cons_self))
  | cons a as ih =>
    cases bs with
    | nil =>
      rw [toList_attributesText_cons, List.cons_append, List.append_assoc] at h
      have h : ' ' :: (a.1.toList ++ _) = r' := h
      exact absurd (h ▸ hr') (not_closesTag_attribute (ha a List.mem_cons_self))
    | cons b bs =>
      simp only [toList_attributesText_cons, List.cons_append, List.append_assoc] at h
      obtain ⟨hname, h⟩ := name_unique (ha a List.mem_cons_self) (hb b List.mem_cons_self)
        (Or.inr (Or.inr rfl)) (Or.inr (Or.inr rfl)) (List.cons.inj h).2
      obtain ⟨hvalue, h⟩ := escape_unique (Or.inr (Or.inr rfl)) (Or.inr (Or.inr rfl))
        (List.cons.inj (List.cons.inj h).2).2
      obtain ⟨rfl, hrest⟩ := ih (fun x hx => ha x (List.mem_cons_of_mem _ hx))
        (fun x hx => hb x (List.mem_cons_of_mem _ hx)) (List.cons.inj h).2
      exact ⟨congrArg (· :: as) (Prod.ext hname hvalue), hrest⟩

/-- A character that ends a name follows on a tag. -/
theorem exists_endsName (as : Attributes) (hr : ClosesTag r) :
    ∃ c x, (attributesText as).toList ++ r = c :: x ∧ EndsName c := by
  cases as with
  | nil =>
    rcases hr with ⟨x, rfl⟩ | ⟨x, rfl⟩
    · exact ⟨'>', x, rfl, Or.inr (Or.inl rfl)⟩
    · exact ⟨' ', '/' :: x, rfl, Or.inl rfl⟩
  | cons a as => exact ⟨' ', _, by rw [toList_attributesText_cons, List.cons_append], Or.inl rfl⟩

end Attributes

/-! ## Trees -/

/-- **A piece of markup**: a line that holds a text, or a block of pieces. -/
inductive Tree where
  | line (tag : String) (attributes : Attributes) (text : String)
  | block (tag : String) (attributes : Attributes) (children : List Tree)

/-- Blanks at the start of a line. -/
def blanks (n : Nat) : String := String.ofList (List.replicate n ' ')

namespace Tree

/-- The tag of a tree. -/
def tag : Tree → String
  | .line tag _ _ => tag
  | .block tag _ _ => tag

/-- The attributes of a tree. -/
def attributes : Tree → Attributes
  | .line _ attributes _ => attributes
  | .block _ attributes _ => attributes

/-- The text that a line holds. -/
def content : Tree → String
  | .line _ _ text => text
  | .block .. => ""

/-- The trees in a block. -/
def children : Tree → List Tree
  | .line .. => []
  | .block _ _ children => children

/-- The first tree with a tag in a block. -/
def child? (tag : String) (t : Tree) : Option Tree := t.children.find? fun u => u.tag == tag

mutual

/-- **Tags and attributes have names.** -/
def Named : Tree → Prop
  | .line tag attributes _ => IsName tag ∧ AreNamed attributes
  | .block tag attributes children => IsName tag ∧ AreNamed attributes ∧ AllNamed children

/-- All of the trees have names. -/
def AllNamed : List Tree → Prop
  | [] => True
  | t :: ts => t.Named ∧ AllNamed ts

end

mutual

/-- **The text of a tree** behind as many blanks. -/
def text (n : Nat) : Tree → String
  | .line tag attributes text => textLine (blanks n) tag (attributesText attributes) text
  | .block tag attributes children =>
    Markup.block (blanks n) tag (attributesText attributes) (texts (n + 2) children)

/-- The text of trees one after the other. -/
def texts (n : Nat) : List Tree → String
  | [] => ""
  | t :: ts => t.text n ++ texts n ts

end

variable {t u : Tree} {ts us : List Tree} {n : Nat} {r r' : List Char}

theorem Named.tag (h : t.Named) : IsName t.tag := by
  cases t with
  | line => exact h.1
  | block => exact h.1

theorem Named.attributes (h : t.Named) : AreNamed t.attributes := by
  cases t with
  | line => exact h.2
  | block => exact h.2.1

theorem allNamed_iff : AllNamed ts ↔ ∀ t ∈ ts, t.Named := by
  induction ts with
  | nil => exact iff_of_true trivial fun _ h => nomatch h
  | cons t ts ih => rw [AllNamed, ih, List.forall_mem_cons]

theorem allNamed_append : AllNamed (ts ++ us) ↔ AllNamed ts ∧ AllNamed us := by
  simp only [allNamed_iff, List.forall_mem_append]

theorem texts_append (ts us : List Tree) : texts n (ts ++ us) = texts n ts ++ texts n us := by
  induction ts with
  | nil => rw [List.nil_append, texts, String.empty_append]
  | cons t ts ih => rw [List.cons_append, texts, texts, ih, String.append_assoc]

theorem toList_texts_nil (n : Nat) (r : List Char) : (texts n []).toList ++ r = r := rfl

theorem toList_texts_cons (n : Nat) (t : Tree) (ts : List Tree) (r : List Char) :
    (texts n (t :: ts)).toList ++ r = (t.text n).toList ++ ((texts n ts).toList ++ r) := by
  rw [texts, String.toList_append, List.append_assoc]

theorem texts_map {α : Type} (f : α → Tree) (xs : List α) :
    texts n (xs.map f) = String.join (xs.map fun x => (f x).text n) := by
  induction xs with
  | nil => rfl
  | cons x xs ih => rw [List.map_cons, texts, ih, List.map_cons, String.join_cons]

theorem texts_flatMap {α : Type} (f : α → List Tree) (xs : List α) :
    texts n (xs.flatMap f) = String.join (xs.map fun x => texts n (f x)) := by
  induction xs with
  | nil => rfl
  | cons x xs ih =>
    rw [List.flatMap_cons, texts_append, ih, List.map_cons, String.join_cons]

/-! ## The text of a tree -/

theorem toList_blanks (n : Nat) : (blanks n).toList = List.replicate n ' ' := String.toList_ofList

/-- What stands behind the attributes of a tree. -/
def rest (n : Nat) : Tree → List Char
  | .line tag _ text =>
    '>' :: ((escape text).toList ++ '<' :: '/' :: (tag.toList ++ ['>', '\n']))
  | .block _ _ [] => [' ', '/', '>', '\n']
  | .block tag _ (t :: ts) =>
    '>' :: '\n' :: ((texts (n + 2) (t :: ts)).toList ++
      (List.replicate n ' ' ++ '<' :: '/' :: (tag.toList ++ ['>', '\n'])))

theorem text_ne_empty (n : Nat) (t : Tree) : t.text n ≠ "" := by
  intro h
  have h := congrArg String.toList h
  cases t with
  | line tag attributes text => simp [Tree.text, textLine, String.toList_append] at h
  | block tag attributes children =>
    rw [Tree.text, Markup.block] at h
    split at h <;> simp [String.toList_append] at h

/-- **The parts of the text of a tree.** -/
theorem toList_text (n : Nat) (t : Tree) : (t.text n).toList =
    List.replicate n ' ' ++ '<' :: (t.tag.toList ++
      ((attributesText t.attributes).toList ++ t.rest n)) := by
  cases t with
  | line tag attributes text =>
    simp [Tree.text, textLine, Tree.tag, Tree.attributes, rest, toList_blanks, String.toList_append]
  | block tag attributes children =>
    cases children with
    | nil =>
      simp [Tree.text, Markup.block, texts, Tree.tag, Tree.attributes, rest, toList_blanks,
        String.toList_append]
    | cons t ts =>
      have hbody : texts (n + 2) (t :: ts) ≠ "" := by
        rw [texts, Ne, String.append_eq_empty_iff]
        exact fun h => text_ne_empty _ t h.1
      rw [Tree.text, Markup.block, if_neg hbody]
      simp [Tree.tag, Tree.attributes, rest, toList_blanks, String.toList_append]

/-- The rest of a tree closes its first tag. -/
theorem closesTag_rest (n : Nat) (t : Tree) (r : List Char) : ClosesTag (t.rest n ++ r) := by
  match t with
  | .line _ _ _ => exact Or.inl ⟨_, rfl⟩
  | .block _ _ [] => exact Or.inr ⟨_, rfl⟩
  | .block _ _ (_ :: _) => exact Or.inl ⟨_, rfl⟩

/-- **The first tag of a text** is that of the tree. -/
theorem head_unique (ht : t.Named) (hu : u.Named)
    (h : (t.text n).toList ++ r = (u.text n).toList ++ r') :
    t.tag = u.tag ∧ t.attributes = u.attributes ∧ t.rest n ++ r = u.rest n ++ r' := by
  simp only [toList_text, List.append_assoc, List.cons_append] at h
  have hopen := (List.cons.inj (List.append_cancel_left h)).2
  obtain ⟨c, x, hx, hc⟩ := exists_endsName t.attributes (closesTag_rest n t r)
  obtain ⟨d, y, hy, hd⟩ := exists_endsName u.attributes (closesTag_rest n u r')
  rw [hx, hy] at hopen
  obtain ⟨htag, hrest⟩ := name_unique ht.tag hu.tag hc hd hopen
  rw [← hx, ← hy] at hrest
  exact ⟨htag, attributes_unique ht.attributes hu.attributes (closesTag_rest n t r)
    (closesTag_rest n u r') hrest⟩

/-! ## Where trees end -/

/-- The line behind trees is indented less than they are. -/
def Ends (n : Nat) (r : List Char) : Prop := ∃ m < n, ∃ x, r = List.replicate m ' ' ++ '<' :: x

/-- No tree stands where trees end. -/
theorem not_ends_text : ¬ Ends n ((t.text n).toList ++ r) := by
  rintro ⟨m, hlt, x, h⟩
  obtain ⟨k, rfl⟩ := Nat.exists_eq_add_of_lt hlt
  rw [toList_text, List.append_assoc, show m + k + 1 = m + (k + 1) from rfl, List.replicate_add,
    List.append_assoc, List.replicate_succ] at h
  exact absurd (List.cons.inj (List.append_cancel_left h)).1 (by decide)

/-- What a line goes on with is not what a block of trees goes on with. -/
theorem line_ne_trees (s : String) (ts : List Tree) (r r' : List Char) (ht : t.Named) :
    '>' :: ((escape s).toList ++ '<' :: '/' :: r) ≠
      '>' :: '\n' :: ((texts n (t :: ts)).toList ++ r') := by
  intro h
  have hblanks : ∀ x ∈ '\n' :: List.replicate n ' ', ¬ IsDelimiter x := by
    intro x hx
    rcases List.mem_cons.1 hx with rfl | hx
    · unfold IsDelimiter
      decide
    · rw [List.eq_of_mem_replicate hx]
      unfold IsDelimiter
      decide
  have hline : (escape s).toList ++ '<' :: '/' :: r = ('\n' :: List.replicate n ' ') ++
      '<' :: (t.tag.toList ++ ((attributesText t.attributes).toList ++
        (t.rest n ++ ((texts n ts).toList ++ r')))) := by
    have htail := (List.cons.inj h).2
    rw [toList_texts_cons, toList_text] at htail
    simpa only [List.append_assoc, List.cons_append] using htail
  -- a line ends with a slash where a block goes on with the tag of its first tree
  obtain ⟨-, hslash⟩ := cut_unique (fun _ => not_isDelimiter_of_mem) hblanks (Or.inl rfl)
    (Or.inl rfl) hline
  exact ht.tag.ne_slash (List.cons.inj hslash).2.symm

/-- What closes a block behind its trees ends them. -/
theorem ends_close (n : Nat) (x : List Char) : Ends (n + 2) (List.replicate n ' ' ++ '<' :: x) :=
  ⟨n, by omega, x, rfl⟩

/-! ## Reading trees -/

section Reading

variable {tag : String} {as : Attributes}

theorem rest_line (s : String) : (Tree.line tag as s).rest n ++ r =
    '>' :: ((escape s).toList ++ '<' :: '/' :: (tag.toList ++ '>' :: '\n' :: r)) := by
  simp [rest]

theorem rest_block_nil : (Tree.block tag as []).rest n ++ r = ' ' :: '/' :: '>' :: '\n' :: r := rfl

theorem rest_block_cons : (Tree.block tag as (t :: ts)).rest n ++ r =
    '>' :: '\n' :: ((texts (n + 2) (t :: ts)).toList ++
      (List.replicate n ' ' ++ '<' :: '/' :: (tag.toList ++ '>' :: '\n' :: r))) := by
  simp [rest]

/-- A line is read off its text in one way. -/
theorem line_unique {s : String} (ht : (Tree.line tag as s).Named) (hu : u.Named)
    (h : ((Tree.line tag as s).text n).toList ++ r = (u.text n).toList ++ r') :
    Tree.line tag as s = u ∧ r = r' := by
  obtain ⟨htag, hattributes, hrest⟩ := head_unique ht hu h
  cases u with
  | line tag' as' s' =>
    obtain rfl : tag = tag' := htag
    obtain rfl : as = as' := hattributes
    rw [rest_line, rest_line] at hrest
    obtain ⟨rfl, hclose⟩ := escape_unique (Or.inl rfl) (Or.inl rfl) (List.cons.inj hrest).2
    have hend := List.append_cancel_left (List.cons.inj (List.cons.inj hclose).2).2
    exact ⟨rfl, (List.cons.inj (List.cons.inj hend).2).2⟩
  | block tag' as' us =>
    cases us with
    | nil =>
      rw [rest_line, rest_block_nil] at hrest
      exact absurd (List.cons.inj hrest).1 (by decide)
    | cons u us =>
      rw [rest_line, rest_block_cons] at hrest
      exact absurd hrest (line_ne_trees s us _ _ hu.2.2.1)

/-- A block is read off its text in one way, if the trees in it are. -/
theorem block_unique (ht : (Tree.block tag as ts).Named) (hu : u.Named)
    (htrees : ∀ us x x', AllNamed us → Ends (n + 2) x → Ends (n + 2) x' →
      (texts (n + 2) ts).toList ++ x = (texts (n + 2) us).toList ++ x' → ts = us ∧ x = x')
    (h : ((Tree.block tag as ts).text n).toList ++ r = (u.text n).toList ++ r') :
    Tree.block tag as ts = u ∧ r = r' := by
  cases u with
  | line tag' as' s' =>
    obtain ⟨heq, hrest⟩ := line_unique hu ht h.symm
    exact ⟨heq.symm, hrest.symm⟩
  | block tag' as' us =>
    obtain ⟨htag, hattributes, hrest⟩ := head_unique ht hu h
    obtain rfl : tag = tag' := htag
    obtain rfl : as = as' := hattributes
    cases ts with
    | nil =>
      cases us with
      | nil => exact ⟨rfl, List.append_cancel_left hrest⟩
      | cons u us =>
        rw [rest_block_nil, rest_block_cons] at hrest
        exact absurd (List.cons.inj hrest).1 (by decide)
    | cons t ts =>
      cases us with
      | nil =>
        rw [rest_block_nil, rest_block_cons] at hrest
        exact absurd (List.cons.inj hrest).1 (by decide)
      | cons u us =>
        rw [rest_block_cons, rest_block_cons] at hrest
        obtain ⟨heq, hclose⟩ := htrees (u :: us) _ _ hu.2.2 (ends_close n _) (ends_close n _)
          (List.cons.inj (List.cons.inj hrest).2).2
        have hend := List.append_cancel_left
          (List.cons.inj (List.cons.inj (List.append_cancel_left hclose)).2).2
        exact ⟨congrArg (Tree.block tag as) heq, (List.cons.inj (List.cons.inj hend).2).2⟩

end Reading

mutual

/-- **A tree is read off its text in one way**, whatever follows. -/
theorem text_unique : ∀ (t u : Tree) (n : Nat) (r r' : List Char), t.Named → u.Named →
    (t.text n).toList ++ r = (u.text n).toList ++ r' → t = u ∧ r = r'
  | .line _ _ _ => fun _ _ _ _ ht hu h => line_unique ht hu h
  | .block _ _ ts => fun _ n _ _ ht hu h =>
    block_unique ht hu (fun us x x' => texts_unique ts us (n + 2) x x' ht.2.2) h

/-- **Trees are read off their text in one way**, up to where they end. -/
theorem texts_unique : ∀ (ts us : List Tree) (n : Nat) (r r' : List Char), AllNamed ts →
    AllNamed us → Ends n r → Ends n r' →
      (texts n ts).toList ++ r = (texts n us).toList ++ r' → ts = us ∧ r = r'
  | [] => fun us n r r' _ _ hr _ h => by
    cases us with
    | nil => exact ⟨rfl, h⟩
    | cons u us =>
      rw [toList_texts_nil, toList_texts_cons] at h
      exact absurd (h ▸ hr) not_ends_text
  | t :: ts => fun us n r r' ht hu hr hr' h => by
    cases us with
    | nil =>
      rw [toList_texts_nil, toList_texts_cons] at h
      exact absurd (h ▸ hr') not_ends_text
    | cons u us =>
      rw [toList_texts_cons, toList_texts_cons] at h
      obtain ⟨rfl, hrest⟩ := text_unique t u n _ _ ht.1 hu.1 h
      obtain ⟨rfl, heq⟩ := texts_unique ts us n r r' ht.2 hu.2 hr hr' hrest
      exact ⟨rfl, heq⟩

end

end Tree

end Markup

end Workflow

end WorkflowCanvas
