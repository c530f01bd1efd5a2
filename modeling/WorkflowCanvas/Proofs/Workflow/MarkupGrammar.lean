import WorkflowCanvas.Proofs.Workflow.MarkupReading
import WorkflowCanvas.Proofs.Workflow.Xml
/-!
# Markup follows the grammar

Markup is written in trees and in what encloses them. The tags of a tree have
names, and its attributes have names, each its own (`Tree.IsLegal`), whatever
workflow it is written for; and what is escaped can stand in attributes and
between tags. So a tree is written as an element (`Tree.leads_text`), and the
markup of every workflow follows the grammar of documents
(`isDocument_markup`).
-/


namespace WorkflowCanvas

namespace Workflow

namespace Markup

open Xml

variable {s : String} {n : Nat} {as : Attributes} {r : List Char}

/-! ## Escaped texts -/

/-- What stands for a character is a reference, or the character itself. -/
theorem escapeChar_cases (c : Char) :
    escapeChar c ∈ references ∨ escapeChar c = [c] ∧ c ≠ '<' ∧ c ≠ '&' ∧ c ≠ '"' := by
  unfold escapeChar
  split
  · exact Or.inl (by decide)
  · exact Or.inl (by decide)
  · exact Or.inl (by decide)
  · exact Or.inl (by decide)
  · next hamp hlt _ hquot => exact Or.inr ⟨rfl, hlt, hamp, hquot⟩

/-- **An escaped text is the value of an attribute.** -/
theorem isValue_escape (s : String) : IsValue (escape s).toList := by
  rw [toList_escape]
  induction s.toList with
  | nil => exact IsValue.nil
  | cons c cs ih =>
    rw [List.flatMap_cons]
    rcases escapeChar_cases c with href | ⟨hself, hlt, hamp, hquot⟩
    · exact IsValue.reference href ih
    · rw [hself]
      exact IsValue.char hlt hamp hquot ih

/-- **An escaped text is content.** -/
theorem isContent_escape (s : String) : IsContent (escape s).toList :=
  (isValue_escape s).isContent fun h => not_isDelimiter_of_mem h (Or.inr (Or.inl rfl))

/-! ## Tags -/

/-- **Attributes that a tag may have**: they have names, each its own. -/
structure Legal (as : Attributes) : Prop where
  names : ∀ a ∈ as, isName a.1.toList = true
  nodup : (as.map (·.1)).Nodup

/-- Attributes with some of the names of a list. -/
theorem legal_of_sublist (names : List String) (hnames : ∀ name ∈ names, isName name.toList = true)
    (hnodup : names.Nodup) (h : (as.map (·.1)).Sublist names) : Legal as :=
  ⟨fun _ ha => hnames _ (h.subset (List.mem_map_of_mem ha)), hnodup.sublist h⟩

/-- The names of attributes, as they are written. -/
def attributeNames (as : Attributes) : List (List Char) := as.map fun a => a.1.toList

theorem Legal.of_cons {a : String × String} (h : Legal (a :: as)) :
    isName a.1.toList = true ∧ a.1.toList ∉ attributeNames as ∧ Legal as := by
  obtain ⟨hname, hnames⟩ := List.forall_mem_cons.1 h.names
  obtain ⟨hnew, hnodup⟩ := List.nodup_cons.1 h.nodup
  refine ⟨hname, fun hmem => ?_, hnames, hnodup⟩
  obtain ⟨b, hb, heq⟩ := List.mem_map.1 hmem
  exact hnew (List.mem_map.2 ⟨b, hb, String.toList_inj.1 heq⟩)

/-- **Attributes are written as the attributes of a tag.** -/
theorem isAttributes_attributesText (h : Legal as) :
    IsAttributes (attributeNames as) (attributesText as).toList := by
  induction as with
  | nil => exact IsAttributes.nil
  | cons a as ih =>
    obtain ⟨hname, hnew, hrest⟩ := h.of_cons
    rw [toList_attributesText_cons]
    exact IsAttributes.cons (List.cons_ne_nil _ _) isSpace_blank hname hnew (isValue_escape a.2)
      (ih hrest)

/-- What may stand in front of content. -/
def Leads (s : String) : Prop := ∀ r, IsContent r → IsContent (s.toList ++ r)

theorem Leads.append {t : String} (hs : Leads s) (ht : Leads t) : Leads (s ++ t) := by
  intro r hr
  rw [String.toList_append, List.append_assoc]
  exact hs _ (ht _ hr)

theorem isSpace_replicate (n : Nat) : isSpace (List.replicate n ' ') = true :=
  List.all_eq_true.2 fun _ h => (List.eq_of_mem_replicate h) ▸ rfl

theorem isContent_newline (h : IsContent r) : IsContent ('\n' :: r) :=
  IsContent.spaced isSpace_newline h

namespace Tree

mutual

/-- **Tags have names and attributes that they may have.** -/
def IsLegal : Tree → Prop
  | .line tag attributes _ => isName tag.toList = true ∧ Legal attributes
  | .block tag attributes children => isName tag.toList = true ∧ Legal attributes ∧ AllLegal children

/-- All of the trees are legal. -/
def AllLegal : List Tree → Prop
  | [] => True
  | t :: ts => t.IsLegal ∧ AllLegal ts

end

theorem allLegal_iff {ts : List Tree} : AllLegal ts ↔ ∀ t ∈ ts, t.IsLegal := by
  induction ts with
  | nil => exact iff_of_true trivial fun _ h => nomatch h
  | cons t ts ih => rw [AllLegal, ih, List.forall_mem_cons]

theorem allLegal_append {ts us : List Tree} : AllLegal (ts ++ us) ↔ AllLegal ts ∧ AllLegal us := by
  simp only [allLegal_iff, List.forall_mem_append]

/-- A tag that is opened, up to where its attributes end. -/
theorem opens_tag {tag : String} (htag : isName tag.toList = true) (has : Legal as)
    {space : List Char} (hspace : isSpace space = true) :
    Opens tag.toList ('<' :: (tag.toList ++ ((attributesText as).toList ++ space))) :=
  Opens.tag htag (isAttributes_attributesText has) hspace

theorem leads_line {tag text : String} (h : (Tree.line tag as text).IsLegal) :
    Leads ((Tree.line tag as text).text n) := by
  intro r hr
  have hline := IsContent.filled (opens_tag h.1 h.2 isSpace_nil) (isContent_escape text)
    isSpace_nil (isContent_newline hr)
  rw [toList_text, List.append_assoc, List.cons_append, List.append_assoc, List.append_assoc,
    rest_line]
  refine IsContent.spaced (isSpace_replicate n) ?_
  simpa [Tree.tag, Tree.attributes] using hline

theorem leads_block_nil {tag : String} (h : (Tree.block tag as []).IsLegal) :
    Leads ((Tree.block tag as []).text n) := by
  intro r hr
  have hempty := IsContent.empty (opens_tag h.1 h.2.1 isSpace_blank)
    (isContent_newline hr)
  rw [toList_text, List.append_assoc, List.cons_append, List.append_assoc, List.append_assoc,
    rest_block_nil]
  refine IsContent.spaced (isSpace_replicate n) ?_
  simpa [Tree.tag, Tree.attributes] using hempty

theorem leads_block_cons {tag : String} {t : Tree} {ts : List Tree}
    (h : (Tree.block tag as (t :: ts)).IsLegal) (hbody : Leads (texts (n + 2) (t :: ts))) :
    Leads ((Tree.block tag as (t :: ts)).text n) := by
  intro r hr
  have hindent := isContent_of_isSpace (isSpace_replicate n)
  have hfilled := IsContent.filled (opens_tag h.1 h.2.1 isSpace_nil)
    (isContent_newline (hbody _ hindent)) isSpace_nil (isContent_newline hr)
  rw [toList_text, List.append_assoc, List.cons_append, List.append_assoc, List.append_assoc,
    rest_block_cons]
  refine IsContent.spaced (isSpace_replicate n) ?_
  simpa [Tree.tag, Tree.attributes] using hfilled

mutual

/-- **A legal tree is written as an element** that may stand in content. -/
theorem leads_text : ∀ (t : Tree) (n : Nat), t.IsLegal → Leads (t.text n)
  | .line _ _ _ => fun _ h => leads_line h
  | .block _ _ [] => fun _ h => leads_block_nil h
  | .block _ _ (t :: ts) => fun n h => leads_block_cons h (leads_texts (t :: ts) (n + 2) h.2.2)

theorem leads_texts : ∀ (ts : List Tree) (n : Nat), AllLegal ts → Leads (texts n ts)
  | [] => fun _ _ _ hr => hr
  | t :: ts => fun n h => (leads_text t n h.1).append (leads_texts ts n h.2)

end

end Tree

/-! ## What is enclosed -/

section Enclosed

variable {tag indent attributes body : String} {names : List (List Char)}

/-- **What is enclosed is an element**, on a line of its own. -/
theorem isElement_enclosed (htag : isName tag.toList = true)
    (hattributes : IsAttributes names attributes.toList) (hbody : Leads body) :
    ∃ root, (enclosed "" tag attributes body).toList = root ++ ['\n'] ∧ IsElement root := by
  have hopen := Opens.tag htag hattributes isSpace_nil
  have hroot := IsElement.filled hopen (isContent_newline (hbody _ IsContent.nil)) isSpace_nil
  refine ⟨_, ?_, hroot⟩
  simp [enclosed, String.toList_append]

/-- What is enclosed may stand in front of content. -/
theorem leads_enclosed (hindent : isSpace indent.toList = true)
    (htag : isName tag.toList = true) (hattributes : IsAttributes names attributes.toList)
    (hbody : Leads body) : Leads (enclosed indent tag attributes body) := by
  intro r hr
  have hopen := Opens.tag htag hattributes isSpace_nil
  have hclose := isContent_of_isSpace hindent
  have hfilled := IsContent.filled hopen (isContent_newline (hbody _ hclose)) isSpace_nil
    (isContent_newline hr)
  rw [toList_enclosed]
  refine IsContent.spaced hindent ?_
  simpa using hfilled

end Enclosed

/-! ## Elements and flows -/

theorem sublist_opt (name : String) (value? : Option String) :
    ((opt name value?).map (·.1)).Sublist [name] := by
  cases value? with
  | none => exact List.nil_sublist _
  | some value => exact List.Sublist.refl _

/-- The names of the attributes that a kind may have. -/
def kindNames : List String :=
  ["flowable:class", "flowable:expression", "flowable:delegateExpression", "flowable:async",
    "flowable:exclusive", "flowable:assignee", "flowable:candidateGroups", "flowable:priority",
    "scriptFormat"]

theorem sublist_kindList (k : ElementKind) : ((kindList k).map (·.1)).Sublist kindNames := by
  cases k with
  | serviceTask implementation? asynchronous exclusive =>
    have himplementation : ((implementationList implementation?).map (·.1)).Sublist
        ["flowable:class", "flowable:expression", "flowable:delegateExpression"] := by
      rcases implementation? with _ | ⟨_ | _ | _, reference⟩ <;>
        simp [implementationList, implementationName]
    rw [kindList, List.map_append, List.map_append]
    exact (himplementation.append ((sublist_opt "flowable:async" _).append
      (sublist_opt "flowable:exclusive" _))).trans (List.sublist_append_left _ _)
  | userTask assignee? groups priority? =>
    rw [kindList, List.map_append, List.map_append]
    have hthree := (sublist_opt "flowable:assignee" assignee?).append
      ((sublist_opt "flowable:candidateGroups" (groupsText? groups)).append
        (sublist_opt "flowable:priority" (priority?.map toString)))
    exact hthree.trans (by decide)
  | scriptTask format? script? => exact (sublist_opt "scriptFormat" format?).trans (by decide)
  | _ => exact List.nil_sublist _

theorem isName_kind_tag (k : ElementKind) : isName k.tag.toList = true := by
  cases k <;> rw [ElementKind.tag] <;> decide

theorem legal_nil : Legal [] := ⟨fun _ h => (List.not_mem_nil h).elim, List.nodup_nil⟩

theorem allLegal_optLine {tag : String} (htag : isName tag.toList = true) (has : Legal as)
    (text? : Option String) : Tree.AllLegal (optLine tag as text?) := by
  cases text? with
  | none => trivial
  | some text => exact ⟨⟨htag, has⟩, trivial⟩

/-- **A key that can name an element** makes the name of a tag. -/
theorem isName_key {key : String} (h : isElementName key = true) :
    isName ("flowable:" ++ key).toList = true := by
  have hletter : ∀ {c : Char}, c.isAlpha = true → isIn nameOthers c = true := fun hc =>
    isIn_mono (by decide) (isIn_of_isAlpha hc)
  have hkey : key.toList.all (isIn nameOthers) = true := by
    unfold isElementName at h
    split at h
    · cases h
    · next c cs hchars =>
      simp only [Char.isAlphanum, Bool.and_eq_true, Bool.or_eq_true, beq_iff_eq,
        List.all_eq_true] at h
      obtain ⟨hfirst, hothers⟩ := h
      rw [hchars, List.all_eq_true]
      refine List.forall_mem_cons.2 ⟨?_, fun d hd => ?_⟩
      · rcases hfirst with hc | rfl
        · exact hletter hc
        · decide
      · rcases hothers d hd with (((hd | hd) | rfl) | rfl) | rfl
        · exact hletter hd
        · exact isIn_mono (by decide) (isIn_of_isDigit hd)
        · decide
        · decide
        · decide
  have hfirst : "flowable:".toList = 'f' :: "lowable:".toList := rfl
  rw [String.toList_append, hfirst, List.cons_append, isName, List.all_append, hkey]
  decide

theorem isLegal_entryTree (entry : String × String) : (entryTree entry).IsLegal := by
  rw [entryTree]
  split
  · next h => exact ⟨isName_key h, legal_nil⟩
  · refine ⟨by decide, legal_of_sublist ["name"] (by decide) (by decide) ?_⟩
    exact List.Sublist.refl _

theorem allLegal_extensionTrees (x : Extensions) : Tree.AllLegal (extensionTrees x) := by
  rw [extensionTrees]
  split
  · trivial
  · refine ⟨⟨by decide, legal_nil, Tree.allLegal_iff.2 fun t ht => ?_⟩, trivial⟩
    obtain ⟨entry, -, rfl⟩ := List.mem_map.1 ht
    exact isLegal_entryTree entry

/-- **An element is written in legal tags.** -/
theorem isLegal_elementTree (e : Element) : (elementTree e).IsLegal := by
  have hattributes : Legal (opt "id" (some e.id) ++ (opt "name" e.name? ++ kindList e.kind)) := by
    refine legal_of_sublist (["id"] ++ (["name"] ++ kindNames)) (by decide) (by decide) ?_
    rw [List.map_append, List.map_append]
    exact (sublist_opt "id" _).append ((sublist_opt "name" _).append (sublist_kindList e.kind))
  refine ⟨isName_kind_tag e.kind, hattributes, ?_⟩
  rw [Tree.allLegal_append, Tree.allLegal_append]
  exact ⟨allLegal_optLine (by decide) legal_nil _, allLegal_extensionTrees _,
    allLegal_optLine (by decide) legal_nil _⟩

/-- **A flow is written in legal tags.** -/
theorem isLegal_flowTree (f : Flow) : (flowTree f).IsLegal := by
  have hattributes : Legal (opt "id" (some f.id) ++ (opt "name" f.name? ++
      (opt "sourceRef" (some f.source) ++ opt "targetRef" (some f.target)))) := by
    refine legal_of_sublist (["id"] ++ (["name"] ++ (["sourceRef"] ++ ["targetRef"])))
      (by decide) (by decide) ?_
    rw [List.map_append, List.map_append, List.map_append]
    exact (sublist_opt "id" _).append ((sublist_opt "name" _).append
      ((sublist_opt "sourceRef" _).append (sublist_opt "targetRef" _)))
  refine ⟨by decide, hattributes, allLegal_optLine (by decide) ?_ _⟩
  exact legal_of_sublist ["xsi:type"] (by decide) (by decide) (sublist_opt "xsi:type" _)

/-! ## The diagram -/

/-- The shape in the diagram of an element with bounds. -/
def shapeTree (e : Element) (bounds : Rect) : Tree :=
  .block "bpmndi:BPMNShape" [("id", "BPMNShape_" ++ e.id), ("bpmnElement", e.id)]
    [.block "dc:Bounds"
      [("x", Decimal.tenths bounds.upperLeft.x), ("y", Decimal.tenths bounds.upperLeft.y),
        ("width", Decimal.tenths bounds.width), ("height", Decimal.tenths bounds.height)] []]

/-- A point on the way of a flow. -/
def waypointTree (p : Point) : Tree :=
  .block "di:waypoint" [("x", Decimal.tenths p.x), ("y", Decimal.tenths p.y)] []

/-- The way in the diagram of a flow between two points. -/
def edgeTree (f : Flow) (start stop : Point) : Tree :=
  .block "bpmndi:BPMNEdge" [("id", "BPMNEdge_" ++ f.id), ("bpmnElement", f.id)]
    [waypointTree start, waypointTree stop]

/-- The shape of an element, if it has bounds. -/
def shapeTrees (e : Element) : List Tree :=
  match e.bounds? with
  | some bounds => [shapeTree e bounds]
  | none => []

/-- The way of a flow, if both its ends have bounds. -/
def edgeTrees (p : Workflow) (f : Flow) : List Tree :=
  match centerOf? p f.source, centerOf? p f.target with
  | some start, some stop => [edgeTree f start stop]
  | _, _ => []

/-- The trees of the diagram. -/
def diagramTrees (p : Workflow) : List Tree :=
  p.elements.flatMap shapeTrees ++ p.flows.flatMap (edgeTrees p)

theorem texts_shapeTrees (e : Element) : Tree.texts 6 (shapeTrees e) = diagramShape e := by
  unfold shapeTrees diagramShape
  cases e.bounds? with
  | none => rfl
  | some bounds =>
    simp only [shapeTree, Tree.texts, Tree.text, attributesText_cons, attributesText_nil,
      String.append_empty, ← String.append_assoc]
    rfl

theorem texts_edgeTrees (p : Workflow) (f : Flow) :
    Tree.texts 6 (edgeTrees p f) = diagramEdge p f := by
  unfold edgeTrees diagramEdge
  rcases centerOf? p f.source with _ | start
  · rfl
  · rcases centerOf? p f.target with _ | stop
    · rfl
    · simp only [edgeTree, waypointTree, Tree.texts, Tree.text, attributesText_cons,
        attributesText_nil, String.append_empty]
      rfl

/-- **The diagram is written as its trees.** -/
theorem texts_diagramTrees (p : Workflow) : Tree.texts 6 (diagramTrees p) =
    String.join (p.elements.map diagramShape) ++ String.join (p.flows.map (diagramEdge p)) := by
  rw [diagramTrees, Tree.texts_append, Tree.texts_flatMap, Tree.texts_flatMap, funext texts_shapeTrees,
    funext (texts_edgeTrees p)]

/-- What stands for a part in the diagram has an id, and names the part. -/
theorem legal_drawn (name id : String) : Legal [("id", name), ("bpmnElement", id)] :=
  legal_of_sublist ["id", "bpmnElement"] (by decide) (by decide) (List.Sublist.refl _)

theorem isLegal_shapeTree (e : Element) (bounds : Rect) : (shapeTree e bounds).IsLegal := by
  refine ⟨by decide, legal_drawn _ _, ⟨by decide, ?_, trivial⟩, trivial⟩
  exact legal_of_sublist ["x", "y", "width", "height"] (by decide) (by decide)
    (List.Sublist.refl _)

theorem isLegal_waypointTree (p : Point) : (waypointTree p).IsLegal :=
  ⟨by decide, legal_of_sublist ["x", "y"] (by decide) (by decide) (List.Sublist.refl _), trivial⟩

theorem isLegal_edgeTree (f : Flow) (start stop : Point) : (edgeTree f start stop).IsLegal :=
  ⟨by decide, legal_drawn _ _, isLegal_waypointTree start, isLegal_waypointTree stop, trivial⟩

/-- **The diagram is written in legal tags.** -/
theorem allLegal_diagramTrees (p : Workflow) : Tree.AllLegal (diagramTrees p) := by
  have hshapes : ∀ e, Tree.AllLegal (shapeTrees e) := fun e => by
    unfold shapeTrees
    split
    · exact ⟨isLegal_shapeTree e _, trivial⟩
    · trivial
  have hedges : ∀ f, Tree.AllLegal (edgeTrees p f) := fun f => by
    unfold edgeTrees
    split
    · exact ⟨isLegal_edgeTree f _ _, trivial⟩
    · trivial
  refine Tree.allLegal_append.2
    ⟨Tree.allLegal_iff.2 fun t ht => ?_, Tree.allLegal_iff.2 fun t ht => ?_⟩
  · obtain ⟨e, -, ht⟩ := List.mem_flatMap.1 ht
    exact Tree.allLegal_iff.1 (hshapes e) t ht
  · obtain ⟨f, -, ht⟩ := List.mem_flatMap.1 ht
    exact Tree.allLegal_iff.1 (hedges f) t ht

/-! ## The document -/

/-- The namespaces that are declared. -/
def namespaceList : Attributes :=
  [("xmlns", "http://www.omg.org/spec/BPMN/20100524/MODEL"),
    ("xmlns:xsi", "http://www.w3.org/2001/XMLSchema-instance"),
    ("xmlns:flowable", "http://flowable.org/bpmn"),
    ("xmlns:bpmndi", "http://www.omg.org/spec/BPMN/20100524/DI"),
    ("xmlns:dc", "http://www.omg.org/spec/DD/20100524/DC"),
    ("xmlns:di", "http://www.omg.org/spec/DD/20100524/DI")]

/-- What stands between one declared namespace and the next. -/
def gap : String := "\n            "

/-- Attributes with a gap behind each. -/
def gapped (as : Attributes) : String := String.join (as.map fun a => attr a.1 a.2 ++ gap)

theorem namespaces_eq : namespaces = gapped namespaceList := by decide +kernel

theorem toList_gapped_cons (a : String × String) (as : Attributes) (cs : List Char) :
    (gapped (a :: as)).toList ++ cs = ' ' :: (a.1.toList ++ '=' :: '"' ::
      ((escape a.2).toList ++ '"' :: (gap.toList ++ ((gapped as).toList ++ cs)))) := by
  simp [gapped, attr, String.toList_append]

theorem attributeNames_ne_nil (h : as ≠ []) : attributeNames as ≠ [] := by
  simpa [attributeNames] using h

/-- **Attributes may stand on lines of their own.** -/
theorem isAttributes_gapped {bs : Attributes} (hbs : bs ≠ []) (h : Legal (as ++ bs)) :
    IsAttributes (attributeNames (as ++ bs))
      ((gapped as).toList ++ (attributesText bs).toList) := by
  induction as with
  | nil => exact isAttributes_attributesText h
  | cons a as ih =>
    obtain ⟨hname, hnew, hrest⟩ := h.of_cons
    rw [toList_gapped_cons]
    have hgap : isSpace gap.toList = true := by decide
    have hne : as ++ bs ≠ [] := List.append_ne_nil_of_right_ne_nil _ hbs
    exact IsAttributes.cons (List.cons_ne_nil _ _) isSpace_blank hname hnew (isValue_escape a.2)
      ((ih hrest).spaced hgap (attributeNames_ne_nil hne))

/-- The attributes of the whole document. -/
def definitionsList (p : Workflow) : Attributes :=
  namespaceList ++ opt "targetNamespace" (some (p.namespaceUri?.getD extensionNamespace))

theorem isAttributes_definitions (p : Workflow) :
    IsAttributes (attributeNames (definitionsList p)) (namespaces ++ attributesText
      (opt "targetNamespace" (some (p.namespaceUri?.getD extensionNamespace)))).toList := by
  have hlegal : Legal (definitionsList p) :=
    legal_of_sublist (namespaceList.map (·.1) ++ ["targetNamespace"]) (by decide) (by decide)
      (List.Sublist.refl _)
  rw [namespaces_eq, String.toList_append]
  exact isAttributes_gapped (List.cons_ne_nil _ _) hlegal

theorem legal_processList (p : Workflow) : Legal (processList p) := by
  refine legal_of_sublist (["id"] ++ (["name"] ++ ["isExecutable"])) (by decide) (by decide) ?_
  rw [processList, List.map_append, List.map_append]
  exact (sublist_opt "id" _).append ((sublist_opt "name" _).append (sublist_opt "isExecutable" _))

theorem allLegal_trees (p : Workflow) : Tree.AllLegal (trees p) := by
  refine Tree.allLegal_iff.2 fun t ht => ?_
  rcases List.mem_append.1 ht with ht | ht
  · obtain ⟨e, -, rfl⟩ := List.mem_map.1 ht
    exact isLegal_elementTree e
  · obtain ⟨f, -, rfl⟩ := List.mem_map.1 ht
    exact isLegal_flowTree f

theorem leads_process (p : Workflow) : Leads
    (enclosed "  " "process" (attributesText (processList p)) (Tree.texts 4 (trees p))) :=
  leads_enclosed (by decide) (by decide) (isAttributes_attributesText (legal_processList p))
    (Tree.leads_texts _ 4 (allLegal_trees p))

theorem legal_diagram (name : String) : Legal [("id", name)] :=
  legal_of_sublist ["id"] (by decide) (by decide) (List.Sublist.refl _)

/-- **The diagram is written as its trees**, between attributes. -/
theorem diagram_eq (p : Workflow) : diagram p =
    enclosed "  " "bpmndi:BPMNDiagram" (attributesText [("id", "BPMNDiagram_" ++ p.id)])
      (enclosed "    " "bpmndi:BPMNPlane"
        (attributesText [("id", "BPMNPlane_" ++ p.id), ("bpmnElement", p.id)])
        (Tree.texts 6 (diagramTrees p))) := by
  simp only [diagram, texts_diagramTrees, attributesText_cons, attributesText_nil,
    String.append_empty]

theorem leads_diagram (p : Workflow) : Leads (diagram p) := by
  rw [diagram_eq]
  exact leads_enclosed (by decide) (by decide) (isAttributes_attributesText (legal_diagram _))
    (leads_enclosed (by decide) (by decide) (isAttributes_attributesText (legal_drawn _ _))
      (Tree.leads_texts _ 6 (allLegal_diagramTrees p)))

end Markup

open Markup Xml

/-- **The markup of every workflow follows the grammar.** -/
theorem isDocument_markup (p : Workflow) : IsDocument p.markup.toList := by
  have htag : isName "definitions".toList = true := by decide
  obtain ⟨root, hroot, helement⟩ := isElement_enclosed htag (isAttributes_definitions p)
    ((leads_process p).append (leads_diagram p))
  have hdeclared : "<?xml version=\"1.0\" encoding=\"UTF-8\"?>\n".toList =
      declaration ++ ['\n'] := rfl
  rw [markup_eq, String.toList_append, hroot, hdeclared, List.append_assoc]
  exact IsDocument.mk helement isSpace_newline isSpace_newline

end Workflow

end WorkflowCanvas
