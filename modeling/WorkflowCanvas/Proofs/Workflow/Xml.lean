import Mathlib.Data.List.Basic
/-!
# Well-formed documents

The part of XML 1.0 that markup is written in. A document is well-formed if
all its characters are allowed and it follows the grammar: behind its
declaration stands one element, whose tags are balanced and nested, and whose
attributes have names, each its own, and quoted values. Comments, processing
instructions and sections of character data are left out of the grammar, and
so are references to anything but the four characters that markup escapes.
-/


namespace WorkflowCanvas

namespace Xml

/-! ## Characters -/

/-- The code of a character is in one of some ranges. -/
def isIn (ranges : List (Nat × Nat)) (c : Char) : Bool :=
  ranges.any fun range => decide (range.1 ≤ c.toNat) && decide (c.toNat ≤ range.2)

/-- The characters that a document may contain (production `Char`). -/
def allowed : List (Nat × Nat) :=
  [(0x9, 0xA), (0xD, 0xD), (0x20, 0xD7FF), (0xE000, 0xFFFD), (0x10000, 0x10FFFF)]

/-- **A character that a document may contain.** -/
def isChar (c : Char) : Bool := isIn allowed c

/-- White space (production `S`). -/
def isBlank (c : Char) : Bool := c == ' ' || c == '\t' || c == '\r' || c == '\n'

/-- A run of white space, which may be empty. -/
def isSpace (cs : List Char) : Bool := cs.all isBlank

/-- The characters that a name may start with (production `NameStartChar`). -/
def nameStarts : List (Nat × Nat) :=
  [(0x41, 0x5A), (0x61, 0x7A), (0x5F, 0x5F), (0x3A, 0x3A), (0xC0, 0xD6), (0xD8, 0xF6),
    (0xF8, 0x2FF), (0x370, 0x37D), (0x37F, 0x1FFF), (0x200C, 0x200D), (0x2070, 0x218F),
    (0x2C00, 0x2FEF), (0x3001, 0xD7FF), (0xF900, 0xFDCF), (0xFDF0, 0xFFFD), (0x10000, 0xEFFFF)]

/-- The characters that a name may go on with (production `NameChar`). -/
def nameOthers : List (Nat × Nat) :=
  nameStarts ++ [(0x2D, 0x2E), (0x30, 0x39), (0xB7, 0xB7), (0x300, 0x36F), (0x203F, 0x2040)]

/-- A name (production `Name`). -/
def isName : List Char → Bool
  | [] => false
  | c :: cs => isIn nameStarts c && cs.all (isIn nameOthers)

/-! ## The grammar -/

/-- The references that stand for escaped characters. -/
def references : List (List Char) :=
  ["&amp;".toList, "&lt;".toList, "&gt;".toList, "&quot;".toList]

/-- **The value of an attribute**: no `<`, no quote, and no `&` but that of a
reference. -/
inductive IsValue : List Char → Prop
  | nil : IsValue []
  | char {c : Char} {cs : List Char} : c ≠ '<' → c ≠ '&' → c ≠ '"' → IsValue cs → IsValue (c :: cs)
  | reference {ref cs : List Char} : ref ∈ references → IsValue cs → IsValue (ref ++ cs)

/-- **The attributes of a tag**, with their names, of which none occurs
twice. -/
inductive IsAttributes : List (List Char) → List Char → Prop
  | nil : IsAttributes [] []
  | cons {name space value rest : List Char} {names : List (List Char)} :
      space ≠ [] → isSpace space = true → isName name = true → name ∉ names →
      IsValue value → IsAttributes names rest →
      IsAttributes (name :: names) (space ++ (name ++ '=' :: '"' :: (value ++ '"' :: rest)))

/-- **The start of a tag** with a name, up to where it is closed. -/
inductive Opens (name : List Char) : List Char → Prop
  | tag {attributes space : List Char} {names : List (List Char)} : isName name = true →
      IsAttributes names attributes → isSpace space = true →
      Opens name ('<' :: (name ++ (attributes ++ space)))

/-- **The content of an element**: characters, references and elements. A `>`
may not stand behind two `]`. -/
inductive IsContent : List Char → Prop
  | nil : IsContent []
  | char {c : Char} {cs : List Char} : c ≠ '<' → c ≠ '&' → ¬ [']', ']', '>'] <+: c :: cs →
      IsContent cs → IsContent (c :: cs)
  | reference {ref cs : List Char} : ref ∈ references → IsContent cs → IsContent (ref ++ cs)
  /-- An element without content. -/
  | empty {name start rest : List Char} : Opens name start → IsContent rest →
      IsContent (start ++ '/' :: '>' :: rest)
  /-- An element between its two tags. -/
  | filled {name start body space rest : List Char} : Opens name start → IsContent body →
      isSpace space = true → IsContent rest →
      IsContent (start ++ '>' :: (body ++ '<' :: '/' :: (name ++ (space ++ '>' :: rest))))

/-- An element. -/
inductive IsElement : List Char → Prop
  | empty {name start : List Char} : Opens name start → IsElement (start ++ ['/', '>'])
  | filled {name start body space : List Char} : Opens name start → IsContent body →
      isSpace space = true →
      IsElement (start ++ '>' :: (body ++ '<' :: '/' :: (name ++ (space ++ ['>']))))

/-- The declaration of a document. -/
def declaration : List Char := "<?xml version=\"1.0\" encoding=\"UTF-8\"?>".toList

/-- **A document**: one element behind the declaration. -/
inductive IsDocument : List Char → Prop
  | mk {root space space' : List Char} : IsElement root → isSpace space = true →
      isSpace space' = true → IsDocument (declaration ++ (space ++ (root ++ space')))

/-- **A well-formed document**: it follows the grammar, and all its characters
are allowed. -/
structure IsWellFormed (cs : List Char) : Prop where
  document : IsDocument cs
  chars : ∀ c ∈ cs, isChar c = true

/-! ## What follows for characters -/

section Character

variable {c : Char} {xs ys : List (Nat × Nat)}

theorem isIn_iff : isIn xs c = true ↔ ∃ x ∈ xs, x.1 ≤ c.toNat ∧ c.toNat ≤ x.2 := by
  simp only [isIn, List.any_eq_true, Bool.and_eq_true, decide_eq_true_eq]

/-- Ranges may be widened. -/
theorem isIn_mono (h : ∀ x ∈ xs, ∃ y ∈ ys, y.1 ≤ x.1 ∧ x.2 ≤ y.2) (hc : isIn xs c = true) :
    isIn ys c = true := by
  obtain ⟨x, hx, hlow, hhigh⟩ := isIn_iff.1 hc
  obtain ⟨y, hy, hbelow, habove⟩ := h x hx
  exact isIn_iff.2 ⟨y, hy, Nat.le_trans hbelow hlow, Nat.le_trans hhigh habove⟩

theorem isIn_of_isDigit (h : c.isDigit = true) : isIn [(0x30, 0x39)] c = true := by
  simp only [Char.isDigit, Bool.and_eq_true, decide_eq_true_eq, UInt32.le_iff_toNat_le,
    ge_iff_le] at h
  exact isIn_iff.2 ⟨_, List.mem_singleton_self _, h⟩

theorem isIn_of_isAlpha (h : c.isAlpha = true) : isIn [(0x41, 0x5A), (0x61, 0x7A)] c = true := by
  rcases Bool.or_eq_true_iff.1 h with hupper | hlower
  · have hrange : 0x41 ≤ c.val ∧ c.val ≤ 0x5A := of_decide_eq_true hupper
    simp only [UInt32.le_iff_toNat_le] at hrange
    exact isIn_iff.2 ⟨_, List.mem_cons_self, hrange⟩
  · have hrange : decide (0x61 ≤ c.val) = true ∧ decide (c.val ≤ 0x7A) = true :=
      Bool.and_eq_true_iff.1 hlower
    simp only [decide_eq_true_eq, UInt32.le_iff_toNat_le] at hrange
    exact isIn_iff.2 ⟨_, List.mem_cons_of_mem _ (List.mem_singleton_self _), hrange⟩

end Character

/-! ## What follows for the grammar -/

theorem isSpace_nil : isSpace [] = true := rfl

theorem isSpace_blank : isSpace [' '] = true := rfl

theorem isSpace_newline : isSpace ['\n'] = true := rfl

variable {cs rest : List Char}

/-- What may stand in an attribute may stand in content, if no `>` is in
it. -/
theorem IsValue.isContent (h : IsValue cs) (hgt : '>' ∉ cs) : IsContent cs := by
  induction h with
  | nil => exact IsContent.nil
  | @char c cs hlt hamp _ _ ih =>
    refine IsContent.char hlt hamp (fun hp => hgt ?_) (ih fun h => hgt (List.mem_cons_of_mem _ h))
    exact hp.subset (by simp)
  | reference href _ ih =>
    exact IsContent.reference href (ih fun h => hgt (List.mem_append_right _ h))

/-- White space may stand before content. -/
theorem IsContent.spaced {space : List Char} (hspace : isSpace space = true) (h : IsContent rest) :
    IsContent (space ++ rest) := by
  induction space with
  | nil => exact h
  | cons c space ih =>
    obtain ⟨hc, hspace⟩ := Bool.and_eq_true_iff.1 hspace
    have hne : ∀ d : Char, isBlank d = false → c ≠ d := by
      rintro d hd rfl
      rw [hc] at hd
      cases hd
    refine IsContent.char (hne '<' rfl) (hne '&' rfl) (fun hp => ?_) (ih hspace)
    exact hne ']' rfl (List.cons_prefix_cons.1 hp).1.symm

theorem isContent_of_isSpace (h : isSpace cs = true) : IsContent cs := by
  rw [← List.append_nil cs]
  exact IsContent.nil.spaced h

/-- There may be more white space before attributes. -/
theorem IsAttributes.spaced {names : List (List Char)} {space : List Char}
    (hspace : isSpace space = true) (hne : names ≠ []) (h : IsAttributes names cs) :
    IsAttributes names (space ++ cs) := by
  cases h with
  | nil => exact absurd rfl hne
  | cons hsome hblank hname hnew hvalue hrest =>
    rw [← List.append_assoc]
    refine IsAttributes.cons (fun h => hsome (List.append_eq_nil_iff.1 h).2) ?_ hname hnew hvalue
      hrest
    rw [isSpace, List.all_append]
    exact Bool.and_eq_true_iff.2 ⟨hspace, hblank⟩

end Xml

end WorkflowCanvas
