import WorkflowCanvas.Conversion
import WorkflowCanvas.Proofs.Workflow.MarkupGrammar
/-!
# The characters of markup

Escaping keeps every character but four, so a character that no document may
contain gets from a workflow into its markup. Nothing else brings one in: tags
are names, and numbers and fixed texts are made of allowed characters. Hence
the markup of a workflow is well-formed exactly if all the texts that are
written of the workflow are made of allowed characters
(`isWellFormed_markup_iff`).
-/


namespace WorkflowCanvas

namespace Xml

/-- A text is made of characters that a document may contain. -/
def isText (s : String) : Bool := s.toList.all isChar

/-- All of the texts are. -/
def AllText (ss : List String) : Prop := ∀ s ∈ ss, isText s = true

variable {s t : String} {c : Char} {cs : List Char}

theorem isText_iff : isText s = true ↔ ∀ c ∈ s.toList, isChar c = true := List.all_eq_true

theorem isText_append : isText (s ++ t) = true ↔ isText s = true ∧ isText t = true := by
  rw [isText, String.toList_append, List.all_append, Bool.and_eq_true_iff, isText, isText]

theorem isText_ofList : isText (String.ofList cs) = true ↔ ∀ c ∈ cs, isChar c = true := by
  rw [isText_iff, String.toList_ofList]

theorem isText_of_isName (h : isName s.toList = true) : isText s = true := by
  have hchar : ∀ {c : Char}, isIn nameOthers c = true → isChar c = true := isIn_mono (by decide)
  unfold isName at h
  split at h
  · cases h
  · next c cs hchars =>
    obtain ⟨hfirst, hothers⟩ := Bool.and_eq_true_iff.1 h
    rw [isText_iff, hchars]
    refine List.forall_mem_cons.2 ⟨isIn_mono (by decide) hfirst, fun d hd => ?_⟩
    exact hchar (List.all_eq_true.1 hothers d hd)

theorem isChar_of_isDigit (h : c.isDigit = true) : isChar c = true :=
  isIn_mono (by decide) (isIn_of_isDigit h)

section AllText

variable {ss ts : List String}

@[simp] theorem allText_nil : AllText [] := List.forall_mem_nil _

@[simp] theorem allText_cons : AllText (s :: ss) ↔ isText s = true ∧ AllText ss :=
  List.forall_mem_cons

@[simp] theorem allText_append : AllText (ss ++ ts) ↔ AllText ss ∧ AllText ts :=
  List.forall_mem_append

@[simp] theorem allText_flatMap {α : Type} {f : α → List String} {xs : List α} :
    AllText (xs.flatMap f) ↔ ∀ x ∈ xs, AllText (f x) :=
  List.forall_mem_flatMap

end AllText

end Xml

namespace Decimal

open Xml

theorem isChar_digitChars {n : Nat} : ∀ c ∈ digitChars n, isChar c = true := fun _ hc =>
  isChar_of_isDigit (Nat.isDigit_of_mem_toDigits (by decide) (by decide) hc)

theorem isChar_positional (d : Scaled) :
    ∀ c ∈ (positional d).1 ++ (positional d).2, isChar c = true := by
  have hzeros : ∀ n, ∀ c ∈ List.replicate n '0', isChar c = true := fun n c hc =>
    List.eq_of_mem_replicate hc ▸ rfl
  unfold positional
  split
  · rw [List.append_nil]
    exact List.forall_mem_append.2 ⟨isChar_digitChars, hzeros _⟩
  · rw [List.take_append_drop]
    exact List.forall_mem_append.2 ⟨hzeros _, isChar_digitChars⟩

theorem isText_signed {negative : Bool} {cs : List Char} (h : ∀ c ∈ cs, isChar c = true) :
    isText (signed negative cs) = true := by
  refine isText_ofList.2 ?_
  split
  · exact List.forall_mem_cons.2 ⟨by decide, h⟩
  · exact h

theorem isText_of_special? {x : Float} {text : String} (h : special? x = some text) :
    isText text = true := by
  unfold special? at h
  split at h
  · cases h
    decide
  · split at h
    · cases h
      split <;> decide
    · cases h

/-- **Numbers are written in allowed characters.** -/
theorem isText_tenths (x : Float) : isText (tenths x) = true := by
  unfold tenths
  split
  · next hspecial => exact isText_of_special? hspecial
  · extract_lets b n
    obtain ⟨hwhole, hfraction⟩ := List.forall_mem_append.1 (isChar_positional ⟨n, -1⟩)
    have hpoint : isChar '.' = true := by decide
    exact isText_signed
      (List.forall_mem_append.2 ⟨hwhole, List.forall_mem_cons.2 ⟨hpoint, hfraction⟩⟩)

end Decimal

namespace Xml

theorem isText_nat (n : Nat) : isText n.repr = true := by
  rw [Nat.repr_eq_ofList_toDigits]
  exact isText_ofList.2 Decimal.isChar_digitChars

theorem isText_int (n : Int) : isText (toString n) = true := by
  rw [Int.toString_eq_repr, Int.repr_eq_if]
  split
  · exact isText_nat _
  · exact isText_append.2 ⟨by decide, isText_nat _⟩

end Xml

namespace Workflow

namespace Markup

open Xml

variable {as bs : Attributes}

/-! ## What a tree brings into markup -/

theorem all_escapeChar (c : Char) : (escapeChar c).all isChar = isChar c := by
  unfold escapeChar
  split
  · rfl
  · rfl
  · rfl
  · rfl
  · rw [List.all_cons, List.all_nil, Bool.and_true]

/-- **Escaping keeps every character** that is not allowed. -/
theorem isText_escape (s : String) : isText (escape s) = isText s := by
  rw [isText, toList_escape, List.all_flatMap, funext all_escapeChar, isText]

/-- The values of attributes. -/
def values (as : Attributes) : List String := as.map (·.2)

theorem values_append : values (as ++ bs) = values as ++ values bs := List.map_append

theorem values_opt (name : String) (value? : Option String) :
    values (opt name value?) = value?.toList := by
  cases value? <;> rfl

theorem isText_attributesText (h : ∀ a ∈ as, isName a.1.toList = true) :
    isText (attributesText as) = true ↔ AllText (values as) := by
  induction as with
  | nil => exact iff_of_true (by decide) allText_nil
  | cons a as ih =>
    obtain ⟨hname, hnames⟩ := List.forall_mem_cons.1 h
    have hfixed : isText " " = true ∧ isText "=\"" = true ∧ isText "\"" = true := by decide
    have hvalues : values (a :: as) = a.2 :: values as := rfl
    rw [attributesText_cons, isText_append, ih hnames, hvalues, allText_cons]
    simp only [attr, isText_append, isText_escape, isText_of_isName hname, hfixed, true_and,
      and_true]

theorem isText_blanks (n : Nat) : isText (blanks n) = true :=
  isText_ofList.2 fun _ h => List.eq_of_mem_replicate h ▸ rfl

namespace Tree

mutual

/-- **What a tree holds**: the values of attributes, and texts. -/
def held : Tree → List String
  | .line _ attributes text => values attributes ++ [text]
  | .block _ attributes children => values attributes ++ heldAll children

/-- What trees hold. -/
def heldAll : List Tree → List String
  | [] => []
  | t :: ts => t.held ++ heldAll ts

end

theorem allText_heldAll {ts : List Tree} : AllText (heldAll ts) ↔ ∀ t ∈ ts, AllText t.held := by
  induction ts with
  | nil => exact iff_of_true allText_nil (List.forall_mem_nil _)
  | cons t ts ih => rw [heldAll, allText_append, ih, List.forall_mem_cons]

theorem heldAll_append (ts us : List Tree) : heldAll (ts ++ us) = heldAll ts ++ heldAll us := by
  induction ts with
  | nil => rfl
  | cons t ts ih => rw [List.cons_append, heldAll, heldAll, ih, List.append_assoc]

mutual

/-- **A legal tree is written in allowed characters** exactly if all that it
holds is made of them. -/
theorem isText_text : ∀ (t : Tree) (n : Nat), t.IsLegal →
    (isText (t.text n) = true ↔ AllText t.held)
  | .line tag as text => fun n h => by
    have htag := isText_of_isName h.1
    have hfixed : isText "<" = true ∧ isText ">" = true ∧ isText "</" = true ∧
      isText ">\n" = true := by decide
    simp only [Tree.text, textLine, held, isText_append, isText_escape, isText_blanks, htag, hfixed,
      isText_attributesText h.2.names, allText_append, allText_cons, allText_nil, true_and, and_true]
  | .block tag as ts => fun n h => by
    have htag := isText_of_isName h.1
    have hfixed : isText "<" = true ∧ isText ">\n" = true ∧ isText "</" = true ∧
      isText " />\n" = true := by decide
    have hbody := isText_texts ts (n + 2) h.2.2
    rw [Tree.text, Markup.block, held, allText_append, ← hbody]
    split
    · next hempty =>
      simp only [hempty, isText_append, isText_blanks, htag, hfixed,
        isText_attributesText h.2.1.names, true_and, and_true]
      exact (and_iff_left rfl).symm
    · simp only [isText_append, isText_blanks, htag, hfixed, isText_attributesText h.2.1.names,
        true_and, and_true]

/-- Trees one after the other likewise. -/
theorem isText_texts : ∀ (ts : List Tree) (n : Nat), AllLegal ts →
    (isText (texts n ts) = true ↔ AllText (heldAll ts))
  | [] => fun _ _ => iff_of_true rfl allText_nil
  | t :: ts => fun n h => by
    rw [texts, isText_append, heldAll, allText_append, isText_text t n h.1, isText_texts ts n h.2]

end

end Tree

end Markup

/-! ## The texts of a workflow -/

/-- The texts of a kind that are written. -/
def ElementKind.written : ElementKind → List String
  | .serviceTask implementation? _ _ => (implementation?.map (·.reference)).toList
  | .userTask assignee? groups _ => assignee?.toList ++ groups
  | .scriptTask format? script? => format?.toList ++ script?.toList
  | _ => []

/-- The texts of metadata that are written: the keys and values of what is
not blank. -/
def writtenEntries (x : Extensions) : List String :=
  (x.entries.filter fun e => (Text.nonBlank? e.2).isSome).flatMap fun e => [e.1, e.2]

/-- The texts of an element that are written. -/
def Element.written (e : Element) : List String :=
  e.id :: (e.name?.toList ++ e.kind.written ++ e.documentation?.toList ++ writtenEntries e.extensions)

/-- The texts of a flow that are written. -/
def Flow.written (f : Flow) : List String :=
  [f.id, f.source, f.target] ++ f.name?.toList ++ f.condition?.toList

/-- **The texts of a workflow that are written.** -/
def written (p : Workflow) : List String :=
  p.id :: (p.name?.toList ++ p.namespaceUri?.toList ++ p.elements.flatMap Element.written ++
    p.flows.flatMap Flow.written)

namespace Markup

open Xml

section Held

open Markup.Tree

variable {text? : Option String}

theorem allText_optLine_nil (tag : String) (text? : Option String) :
    AllText (heldAll (optLine tag [] text?)) ↔ AllText text?.toList := by
  cases text? with
  | none => rfl
  | some text => rfl

/-- Texts are joined by commas, which are allowed. -/
theorem isText_intercalate (ss : List String) : isText (",".intercalate ss) = true ↔ AllText ss := by
  induction ss with
  | nil => exact iff_of_true rfl allText_nil
  | cons s ss ih =>
    cases ss with
    | nil => simp
    | cons t ss =>
      have hcomma : isText "," = true := by decide
      rw [String.intercalate_cons_cons, isText_append, isText_append, ih, hcomma]
      simp only [allText_cons, and_true]

theorem allText_groupsText? (groups : List String) :
    AllText (groupsText? groups).toList ↔ AllText groups := by
  cases groups with
  | nil => rfl
  | cons g gs =>
    have htext : groupsText? (g :: gs) = some (",".intercalate (g :: gs)) := rfl
    rw [htext, Option.toList_some, allText_cons, isText_intercalate]
    exact and_iff_left allText_nil

theorem values_implementationList (implementation? : Option Implementation) :
    values (implementationList implementation?) = (implementation?.map (·.reference)).toList := by
  cases implementation? <;> rfl

/-- **A kind is written with its texts**, with numbers and with words. -/
theorem allText_kindList (k : ElementKind) :
    AllText (values (kindList k) ++ (scriptOf? k).toList) ↔ AllText k.written := by
  cases k with
  | serviceTask implementation? asynchronous exclusive =>
    have hwords : AllText (if asynchronous then some "true" else none).toList ∧
        AllText (if exclusive then none else some "false").toList := by
      cases asynchronous <;> cases exclusive <;> simp <;> decide
    simp only [kindList, scriptOf?, ElementKind.written, values_append, values_opt,
      values_implementationList, allText_append, hwords, Option.toList_none, allText_nil, and_true]
  | userTask assignee? groups priority? =>
    have hpriority : AllText (priority?.map toString).toList := by
      cases priority? with
      | none => exact allText_nil
      | some n => exact allText_cons.2 ⟨isText_int n, allText_nil⟩
    simp only [kindList, scriptOf?, ElementKind.written, values_append, values_opt, allText_append,
      allText_groupsText?, hpriority, Option.toList_none, allText_nil, and_true]
  | scriptTask format? script? =>
    simp only [kindList, scriptOf?, ElementKind.written, values_opt, allText_append]
  | _ => rfl

theorem allText_entryTree (entry : String × String) :
    AllText (entryTree entry).held ↔ AllText [entry.1, entry.2] := by
  unfold entryTree
  split
  · next hkey =>
    have hname := isText_of_isName (isName_key hkey)
    rw [isText_append] at hname
    rw [allText_cons]
    exact (and_iff_right hname.2).symm
  · rfl

theorem allText_extensionTrees (x : Extensions) :
    AllText (heldAll (extensionTrees x)) ↔ AllText (writtenEntries x) := by
  have hentries : ∀ entries : List (String × String), AllText (heldAll (entries.map entryTree)) ↔
      AllText (entries.flatMap fun e => [e.1, e.2]) := fun entries => by
    simp only [allText_heldAll, List.forall_mem_map, allText_entryTree, allText_flatMap]
  unfold extensionTrees writtenEntries
  rw [← hentries]
  extract_lets entries
  change _ ↔ AllText (heldAll (entries.map entryTree))
  split
  · next hempty => rw [List.isEmpty_iff.1 hempty, List.map_nil]
  · rw [heldAll, held, heldAll, List.append_nil]
    rfl

/-- **A tree holds the texts of its element.** -/
theorem allText_elementTree (e : Element) : AllText (elementTree e).held ↔ AllText e.written := by
  have hkind := allText_kindList e.kind
  rw [allText_append] at hkind
  simp only [elementTree, Element.written, held, heldAll_append, values_append, values_opt,
    allText_append, allText_cons, allText_optLine_nil, allText_extensionTrees, ← hkind,
    Option.toList_some, allText_nil]
  tauto

/-- **A tree holds the texts of its flow.** -/
theorem allText_flowTree (f : Flow) : AllText (flowTree f).held ↔ AllText f.written := by
  have hcondition : AllText (heldAll (optLine "conditionExpression"
      (opt "xsi:type" (some "tFormalExpression")) f.condition?)) ↔ AllText f.condition?.toList := by
    have hformal : isText "tFormalExpression" = true := by decide
    cases f.condition? with
    | none => rfl
    | some condition => simp [optLine, heldAll, held, values_opt, hformal]
  simp only [flowTree, Flow.written, held, values_append, values_opt, allText_append, allText_cons,
    hcondition, Option.toList_some, allText_nil]
  tauto

theorem allText_trees (p : Workflow) : AllText (heldAll (trees p)) ↔
    AllText (p.elements.flatMap Element.written) ∧ AllText (p.flows.flatMap Flow.written) := by
  simp only [trees, heldAll_append, allText_append, allText_heldAll, List.forall_mem_map,
    allText_elementTree, allText_flowTree, allText_flatMap]

/-! ## The diagram -/

open Decimal (isText_tenths)

theorem allText_shapeTree {e : Element} (h : AllText e.written) (bounds : Rect) :
    AllText (shapeTree e bounds).held := by
  have hid : isText e.id = true := h _ List.mem_cons_self
  have hfront : isText "BPMNShape_" = true := by decide
  simp [shapeTree, held, heldAll, values, isText_append, isText_tenths, hid, hfront]

theorem allText_edgeTree {f : Flow} (h : AllText f.written) (start stop : Point) :
    AllText (edgeTree f start stop).held := by
  have hid : isText f.id = true := h _ List.mem_cons_self
  have hfront : isText "BPMNEdge_" = true := by decide
  simp [edgeTree, waypointTree, held, heldAll, values, isText_append, isText_tenths, hid, hfront]

/-- **The diagram brings in nothing else**: it holds ids and numbers. -/
theorem allText_diagramTrees {p : Workflow} (helements : ∀ e ∈ p.elements, AllText e.written)
    (hflows : ∀ f ∈ p.flows, AllText f.written) : AllText (heldAll (diagramTrees p)) := by
  refine allText_heldAll.2 (List.forall_mem_append.2 ⟨?_, ?_⟩)
  · refine List.forall_mem_flatMap.2 fun e he => ?_
    unfold shapeTrees
    split
    · exact List.forall_mem_singleton.2 (allText_shapeTree (helements e he) _)
    · exact List.forall_mem_nil _
  · refine List.forall_mem_flatMap.2 fun f hf => ?_
    unfold edgeTrees
    split
    · exact List.forall_mem_singleton.2 (allText_edgeTree (hflows f hf) _ _)
    · exact List.forall_mem_nil _

end Held

/-! ## The document -/

theorem isText_enclosed {indent tag attributes body : String} (hindent : isText indent = true)
    (htag : isText tag = true) : isText (enclosed indent tag attributes body) = true ↔
      isText attributes = true ∧ isText body = true := by
  have hfixed : isText "<" = true ∧ isText ">\n" = true ∧ isText "</" = true := by decide
  simp only [enclosed, isText_append, hindent, htag, hfixed, true_and, and_true]

theorem isText_namespaces : isText namespaces = true := by
  unfold namespaces
  simp only [isText_append]
  decide +kernel

/-- The namespace that is written is the one of the workflow, or a fixed one. -/
theorem isText_namespaceUri (p : Workflow) :
    isText (p.namespaceUri?.getD extensionNamespace) = true ↔ AllText p.namespaceUri?.toList := by
  cases p.namespaceUri? with
  | none => exact iff_of_true rfl allText_nil
  | some uri => simp

theorem isText_process (p : Workflow) :
    isText (enclosed "  " "process" (attributesText (processList p)) (Tree.texts 4 (trees p))) =
      true ↔ AllText (p.id :: (p.name?.toList ++ p.elements.flatMap Element.written ++
        p.flows.flatMap Flow.written)) := by
  have htrue : isText "true" = true := by decide
  rw [isText_enclosed (by decide) (by decide), isText_attributesText (legal_processList p).names,
    Tree.isText_texts _ 4 (allLegal_trees p), allText_trees]
  simp only [processList, values_append, values_opt, allText_append, allText_cons, allText_nil,
    Option.toList_some, htrue]
  tauto

theorem isText_diagram {p : Workflow} (h : AllText p.written) : isText (diagram p) = true := by
  have hid : isText p.id = true := h _ List.mem_cons_self
  have hfront : isText "BPMNDiagram_" = true ∧ isText "BPMNPlane_" = true := by decide
  simp only [written, allText_cons, allText_append, allText_flatMap] at h
  obtain ⟨-, ⟨-, helements⟩, hflows⟩ := h
  rw [diagram_eq, isText_enclosed (by decide) (by decide),
    isText_attributesText (legal_diagram _).names, isText_enclosed (by decide) (by decide),
    isText_attributesText (legal_drawn _ _).names, Tree.isText_texts _ 6 (allLegal_diagramTrees p)]
  refine ⟨?_, ?_, allText_diagramTrees helements hflows⟩
  · simp [values, isText_append, hfront, hid]
  · simp [values, isText_append, hfront, hid]

end Markup

open Markup Xml

/-- **A workflow is written in allowed characters** exactly if its texts are
made of them. -/
theorem isText_markup_iff (p : Workflow) : isText p.markup = true ↔ AllText p.written := by
  have hdeclaration : isText "<?xml version=\"1.0\" encoding=\"UTF-8\"?>\n" = true := by decide
  have hnamespace : Legal (opt "targetNamespace" (some (p.namespaceUri?.getD extensionNamespace))) :=
    legal_of_sublist ["targetNamespace"] (by decide) (by decide) (List.Sublist.refl _)
  have hwritten : AllText p.written ↔ AllText p.namespaceUri?.toList ∧
      AllText (p.id :: (p.name?.toList ++ p.elements.flatMap Element.written ++
        p.flows.flatMap Flow.written)) := by
    simp only [written, allText_cons, allText_append]
    tauto
  rw [markup_eq, isText_append, isText_enclosed (by decide) (by decide), isText_append,
    isText_append, isText_attributesText hnamespace.names, values_opt, Option.toList_some,
    allText_cons, isText_namespaceUri, isText_process]
  constructor
  · rintro ⟨-, ⟨-, huri, -⟩, hprocess, -⟩
    exact hwritten.2 ⟨huri, hprocess⟩
  · intro h
    obtain ⟨huri, hprocess⟩ := hwritten.1 h
    exact ⟨hdeclaration, ⟨isText_namespaces, huri, allText_nil⟩, hprocess, isText_diagram h⟩

/-- **The markup of a workflow is well-formed** exactly if the texts that are
written of it are made of allowed characters. -/
theorem isWellFormed_markup_iff (p : Workflow) :
    IsWellFormed p.markup.toList ↔ AllText p.written :=
  ⟨fun h => (isText_markup_iff p).1 (isText_iff.2 h.chars),
    fun h => ⟨isDocument_markup p, isText_iff.1 ((isText_markup_iff p).2 h)⟩⟩

end Workflow

namespace Conversion

open Xml

variable {settings : Settings} {s : Sketch} {c : Conversion}

theorem markup_of_ofSketch (h : ofSketch settings s = .ok c) : c.markup = c.workflow.markup := by
  rcases hp : Workflow.convert settings (Canvas.ofSketch settings s) with f | p <;>
    simp only [ofSketch, hp] at h <;> cases h
  rfl

/-- **The markup of a conversion follows the grammar of documents**: tags are
balanced and nested, no tag has an attribute twice, and no delimiter of the
markup comes from a text. It is well-formed exactly if the texts that are
written of the workflow are made of characters that a document may contain. -/
theorem markup_wellFormed_iff (h : ofSketch settings s = .ok c) :
    IsDocument c.markup.toList ∧ (IsWellFormed c.markup.toList ↔ AllText c.workflow.written) := by
  rw [markup_of_ofSketch h]
  exact ⟨c.workflow.isDocument_markup, c.workflow.isWellFormed_markup_iff⟩

/-- A sketch with a seal, under a label. -/
def sealSketch (label : String) : Sketch where
  nodes := [{ id := "s", outerTag? := "start" },
    { id := "seal", outerTag? := "service"
      data := { label? := label, delegationId? := "Seal",
                customFields? := some (.obj [("a<b", .str "x & y")]) } }]
  edges := [{ id := "a", source := "s", target := "seal" }]

/-- The texts that are written of a sketch, if it is converted. -/
def writtenOf (s : Sketch) : List String :=
  match ofSketch .standard s with
  | .ok c => c.workflow.written
  | .error _ => []

theorem exists_of_writtenOf {ts : List String} (h : writtenOf s = ts) (hne : ts ≠ []) :
    ∃ c, ofSketch .standard s = .ok c ∧ c.workflow.written = ts := by
  unfold writtenOf at h
  split at h
  · next c hc => exact ⟨c, hc, h⟩
  · exact absurd h.symm hne

/-- Delimiters of markup do no harm in a label, in a key and in a value. -/
theorem sealed_wellFormed : ∃ c, ofSketch .standard (sealSketch "\"Seal\" & <sign>") = .ok c ∧
    "\"Seal\" & <sign>" ∈ c.workflow.written ∧ IsWellFormed c.markup.toList := by
  have hread : writtenOf (sealSketch "\"Seal\" & <sign>") =
      ["ConvertedProcess", "Converted Process", "http://flowable.org/test", "s", "seal",
        "\"Seal\" & <sign>", "flow_engine::dispatch::OperationDispatcher", "a<b", "x & y",
        "delegationId", "Seal", "a", "s", "seal"] := by decide +kernel
  obtain ⟨c, hc, hwritten⟩ := exists_of_writtenOf hread (List.cons_ne_nil _ _)
  refine ⟨c, hc, ?_, (markup_wellFormed_iff hc).2.2 ?_⟩
  · rw [hwritten]
    decide
  · rw [hwritten]
    exact List.all_eq_true.1 (by decide +kernel)

/-- A control character in a label is written as it is, and no document may
contain it. -/
theorem control_character_kept : ∃ c, ofSketch .standard (sealSketch "Seal\x01it") = .ok c ∧
    "Seal\x01it" ∈ c.workflow.written ∧ ¬ IsWellFormed c.markup.toList := by
  have hread : writtenOf (sealSketch "Seal\x01it") =
      ["ConvertedProcess", "Converted Process", "http://flowable.org/test", "s", "seal",
        "Seal\x01it", "flow_engine::dispatch::OperationDispatcher", "a<b", "x & y",
        "delegationId", "Seal", "a", "s", "seal"] := by decide +kernel
  obtain ⟨c, hc, hwritten⟩ := exists_of_writtenOf hread (List.cons_ne_nil _ _)
  have hmem : "Seal\x01it" ∈ c.workflow.written := by
    rw [hwritten]
    decide
  refine ⟨c, hc, hmem, fun h => ?_⟩
  rw [markup_of_ofSketch hc] at h
  exact absurd (c.workflow.isWellFormed_markup_iff.1 h _ hmem) (by decide)

end Conversion

end WorkflowCanvas
