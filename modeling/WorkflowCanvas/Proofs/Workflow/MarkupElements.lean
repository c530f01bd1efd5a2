import WorkflowCanvas.Proofs.Workflow.MarkupTree
import Mathlib
/-!
# Elements and flows as trees

An element and a flow are written as trees (`text_elementTree`,
`text_flowTree`), and are read back from them: an attribute that is absent
is told from one that is empty, a kind is told by its tag, and a key of
metadata that cannot name an element stands in an attribute that no other
key has. Where an element lies is not in its tree, a blank piece of
metadata is left out, and candidate groups are joined by commas: those are
the conditions of `readElement?_elementTree`.
-/


namespace WorkflowCanvas

namespace Workflow

/-- An element without where it lies. -/
def Element.withoutBounds (e : Element) : Element := { e with bounds? := none }

namespace Markup

/-! ## Attributes that may be absent -/

/-- An attribute that may be absent. -/
def opt (name : String) (value? : Option String) : Attributes :=
  (value?.map fun value => (name, value)).toList

section Opt

variable {name : String} {value? : Option String}

theorem attributesText_singleton (name value : String) :
    attributesText [(name, value)] = attr name value := by
  simp [attributesText]

theorem attributesText_opt (name : String) (value? : Option String) :
    attributesText (opt name value?) = attr? name value? := by
  cases value? with
  | none => rfl
  | some value => exact attributesText_singleton name value

theorem areNamed_nil : AreNamed [] := List.forall_mem_nil _

theorem areNamed_opt (h : IsName name) : AreNamed (opt name value?) := by
  cases value? with
  | none => exact areNamed_nil
  | some value => exact List.forall_mem_singleton.2 h

theorem AreNamed.append {as bs : Attributes} (ha : AreNamed as) (hb : AreNamed bs) :
    AreNamed (as ++ bs) :=
  List.forall_mem_append.2 ⟨ha, hb⟩

/-- **What is read of an attribute** that may be absent. -/
theorem lookup_opt (name other : String) (value? : Option String) :
    (opt other value?).lookup name = if name = other then value? else none := by
  cases value? with
  | none => exact (ite_self none).symm
  | some value =>
    rw [opt, Option.map_some, Option.toList_some, List.lookup_cons, List.lookup_nil]
    by_cases h : name = other
    · rw [if_pos h, beq_iff_eq.2 h]
    · rw [if_neg h, beq_eq_false_iff_ne.2 h]

end Opt

/-! ## Kinds -/

/-- How an implementation is named in markup. -/
def implementationName : ImplementationKind → String
  | .className => "flowable:class"
  | .expression => "flowable:expression"
  | .delegateExpression => "flowable:delegateExpression"

/-- The attribute of an implementation. -/
def implementationList (implementation? : Option Implementation) : Attributes :=
  (implementation?.map fun i => (implementationName i.kind, i.reference)).toList

/-- Candidate groups as one text, if there are any. -/
def groupsText? (groups : List String) : Option String :=
  if groups.isEmpty then none else some (",".intercalate groups)

/-- The attributes of a kind in order. -/
def kindList : ElementKind → Attributes
  | .serviceTask implementation? asynchronous exclusive =>
    implementationList implementation?
      ++ (opt "flowable:async" (if asynchronous then some "true" else none)
      ++ opt "flowable:exclusive" (if exclusive then none else some "false"))
  | .userTask assignee? groups priority? =>
    opt "flowable:assignee" assignee?
      ++ (opt "flowable:candidateGroups" (groupsText? groups)
      ++ opt "flowable:priority" (priority?.map toString))
  | .scriptTask format? _ => opt "scriptFormat" format?
  | _ => []

/-- The script of a kind. -/
def scriptOf? : ElementKind → Option String
  | .scriptTask _ script? => script?
  | _ => none

/-- The implementation that attributes name. -/
def readImplementation? (as : Attributes) : Option Implementation :=
  [.className, .expression, .delegateExpression].findSome? fun kind =>
    (as.lookup (implementationName kind)).map fun reference => ⟨kind, reference⟩

/-- The groups that one text lists. -/
def readGroups : Option String → List String
  | some text => (text.toList.splitOn ',').map String.ofList
  | none => []

/-- The kind with a tag, from its attributes and its script. -/
def readKind? (tag : String) (as : Attributes) (script? : Option String) : Option ElementKind :=
  match tag with
  | "startEvent" => some .startEvent
  | "endEvent" => some .endEvent
  | "serviceTask" =>
    some (.serviceTask (readImplementation? as) (as.lookup "flowable:async").isSome
      (as.lookup "flowable:exclusive").isNone)
  | "userTask" =>
    some (.userTask (as.lookup "flowable:assignee")
      (readGroups (as.lookup "flowable:candidateGroups"))
      ((as.lookup "flowable:priority").bind String.toInt?))
  | "scriptTask" => some (.scriptTask (as.lookup "scriptFormat") script?)
  | "parallelGateway" => some .parallelGateway
  | "exclusiveGateway" => some .exclusiveGateway
  | _ => none

/-- The candidate groups of a kind can be told apart: none holds a comma. -/
def Separable : ElementKind → Prop
  | .userTask _ groups _ => ∀ g ∈ groups, ',' ∉ g.toList
  | _ => True

theorem attributesText_kindList (k : ElementKind) :
    attributesText (kindList k) = kindAttributes k := by
  cases k with
  | serviceTask implementation? asynchronous exclusive =>
    simp only [kindList, attributesText_append, attributesText_opt, kindAttributes,
      String.append_assoc]
    rcases implementation? with _ | ⟨_ | _ | _, reference⟩ <;> cases asynchronous <;>
      cases exclusive <;> simp [attributesText, attr?, implementationList, implementationName]
  | userTask assignee? groups priority? =>
    simp only [kindList, attributesText_append, attributesText_opt, kindAttributes,
      String.append_assoc, groupsText?]
    cases groups <;> rfl
  | scriptTask format? script? => exact attributesText_opt _ _
  | _ => rfl

theorem readGroups_groupsText? {groups : List String} (h : ∀ g ∈ groups, ',' ∉ g.toList) :
    readGroups (groupsText? groups) = groups := by
  cases groups with
  | nil => rfl
  | cons g gs =>
    have hapart : ∀ l ∈ (g :: gs).map String.toList, ',' ∉ l := by
      intro l hl
      obtain ⟨s, hs, rfl⟩ := List.mem_map.1 hl
      exact h s hs
    have hsplit := List.splitOn_intercalate ',' hapart (List.cons_ne_nil _ _)
    simp only [groupsText?, List.isEmpty_cons, Bool.false_eq_true, if_false, readGroups,
      String.toList_intercalate]
    rw [show ",".toList = [','] from rfl, hsplit, List.map_map]
    simp

example : groupsText? ["a,b"] = groupsText? ["a", "b"] := by decide

theorem readImplementation?_implementationList {implementation? : Option Implementation}
    {as : Attributes} (h : ∀ kind, as.lookup (implementationName kind) =
      (implementationList implementation?).lookup (implementationName kind)) :
    readImplementation? as = implementation? := by
  simp only [readImplementation?, h]
  rcases implementation? with _ | ⟨_ | _ | _, reference⟩ <;> rfl

/-- No attribute but the one for its kind is read of an implementation. -/
theorem lookup_implementationList {name : String} (implementation? : Option Implementation)
    (h : ∀ kind, name ≠ implementationName kind) :
    (implementationList implementation?).lookup name = none := by
  cases implementation? with
  | none => rfl
  | some i =>
    rw [implementationList, Option.map_some, Option.toList_some, List.lookup_cons,
      beq_eq_false_iff_ne.2 (h i.kind), List.lookup_nil]

theorem bind_toInt?_map_toString (n? : Option Int) :
    (n?.map toString).bind String.toInt? = n? := by
  cases n? with
  | none => rfl
  | some n => exact Int.toInt?_repr n

/-- **A kind is read back** from its tag, its attributes and its script. -/
theorem readKind?_kindList {k : ElementKind} (h : Separable k) (as : Attributes)
    (has : ∀ name, name ≠ "id" → name ≠ "name" → as.lookup name = (kindList k).lookup name) :
    readKind? k.tag as (scriptOf? k) = some k := by
  cases k with
  | serviceTask implementation? asynchronous exclusive =>
    have himplementation : readImplementation? as = implementation? := by
      refine readImplementation?_implementationList fun kind => ?_
      rw [has _ (by cases kind <;> decide) (by cases kind <;> decide), kindList, List.lookup_append,
        List.lookup_append, lookup_opt, lookup_opt]
      cases kind <;> simp [implementationName]
    have hflag : ∀ name, (∀ kind, name ≠ implementationName kind) → name ≠ "id" → name ≠ "name" →
        as.lookup name = (opt "flowable:async" (if asynchronous then some "true" else none)
          ++ opt "flowable:exclusive" (if exclusive then none else some "false")).lookup name := by
      intro name hname hid hnot
      rw [has name hid hnot, kindList, List.lookup_append, lookup_implementationList _ hname,
        Option.none_or]
    rw [ElementKind.tag, readKind?, himplementation,
      hflag "flowable:async" (by rintro (_ | _ | _) <;> decide) (by decide) (by decide),
      hflag "flowable:exclusive" (by rintro (_ | _ | _) <;> decide) (by decide) (by decide)]
    cases asynchronous <;> cases exclusive <;> rfl
  | userTask assignee? groups priority? =>
    simp [ElementKind.tag, readKind?, has, kindList, lookup_opt, List.lookup_append,
      readGroups_groupsText? h, bind_toInt?_map_toString]
  | scriptTask format? script? =>
    simp [ElementKind.tag, readKind?, has, kindList, lookup_opt, scriptOf?]
  | _ => rfl

/-! ## Elements -/

/-- A line that may be absent. -/
def optLine (tag : String) (as : Attributes) (text? : Option String) : List Tree :=
  (text?.map (Tree.line tag as)).toList

/-- The line of one piece of metadata. -/
def entryTree (entry : String × String) : Tree :=
  if isElementName entry.1 then .line ("flowable:" ++ entry.1) [] entry.2
  else .line "flowable:field" [("name", entry.1)] entry.2

/-- The metadata of an element. -/
def extensionTrees (x : Extensions) : List Tree :=
  let entries := x.entries.filter fun e => (Text.nonBlank? e.2).isSome
  if entries.isEmpty then [] else [.block "extensionElements" [] (entries.map entryTree)]

/-- The tree of an element. -/
def elementTree (e : Element) : Tree :=
  .block e.kind.tag (opt "id" (some e.id) ++ (opt "name" e.name? ++ kindList e.kind))
    (optLine "documentation" [] e.documentation?
      ++ (extensionTrees e.extensions ++ optLine "script" [] (scriptOf? e.kind)))

section Element

open Markup.Tree

variable {e : Element}

theorem texts_optLine (n : Nat) (tag : String) (as : Attributes) (text? : Option String) :
    texts n (optLine tag as text?) =
      (text?.map (textLine (blanks n) tag (attributesText as))).getD "" := by
  cases text? with
  | none => rfl
  | some text =>
    rw [optLine, Option.map_some, Option.toList_some, texts, texts, String.append_empty]
    rfl

theorem text_entryTree (entry : String × String) :
    (entryTree entry).text 8 = extensionLine entry.1 entry.2 := by
  rw [entryTree, extensionLine]
  split
  · rfl
  · rw [Tree.text, attributesText_singleton]
    rfl

theorem texts_extensionTrees (x : Extensions) : texts 6 (extensionTrees x) = extensionBlock x := by
  rw [extensionTrees, extensionBlock]
  split
  · rfl
  · rw [texts, texts, String.append_empty, Tree.text, texts_map,
      show (fun entry => (entryTree entry).text (6 + 2)) = fun entry => extensionLine entry.1 entry.2
        from funext text_entryTree]
    rfl

/-- **An element is written as its tree.** -/
theorem text_elementTree (e : Element) : (elementTree e).text 4 = element e := by
  have hattributes :
      attributesText (opt "id" (some e.id) ++ (opt "name" e.name? ++ kindList e.kind)) =
        attr "id" e.id ++ attr? "name" e.name? ++ kindAttributes e.kind := by
    rw [attributesText_append, attributesText_append, attributesText_opt, attributesText_opt,
      attributesText_kindList, ← String.append_assoc, attr?]
  have hscript : texts 6 (optLine "script" [] (scriptOf? e.kind)) = kindBody e.kind := by
    rw [texts_optLine]
    rcases e.kind with _ | _ | _ | _ | ⟨_, _ | _⟩ | _ | _ <;> rfl
  have hdocumentation : texts 6 (optLine "documentation" [] e.documentation?) =
      match e.documentation? with
      | some text => textLine "      " "documentation" "" text
      | none => "" := by
    rw [texts_optLine]
    cases e.documentation? <;> rfl
  rw [elementTree, Tree.text, hattributes, texts_append, texts_append, hscript, hdocumentation,
    texts_extensionTrees, ← String.append_assoc]
  rfl

/-! ## Elements read back -/

/-- The metadata that a line holds. -/
def readEntry (t : Tree) : String × String :=
  ((t.attributes.lookup "name").getD (String.ofList (t.tag.toList.drop "flowable:".length)),
    t.content)

/-- The element that a tree is written for, if it is. -/
def readElement? (t : Tree) : Option Element :=
  (readKind? t.tag t.attributes ((t.child? "script").map Tree.content)).map fun kind =>
    { id := (t.attributes.lookup "id").getD ""
      name? := t.attributes.lookup "name"
      kind
      documentation? := (t.child? "documentation").map Tree.content
      extensions :=
        ⟨(((t.child? "extensionElements").map Tree.children).getD []).map readEntry⟩ }

theorem readEntry_entryTree (entry : String × String) : readEntry (entryTree entry) = entry := by
  rw [entryTree]
  split
  · have hkey : String.ofList (("flowable:" ++ entry.1).toList.drop "flowable:".length) =
        entry.1 := by
      rw [String.toList_append, List.drop_left' String.length_toList, String.ofList_toList]
    exact Prod.ext hkey rfl
  · rfl

theorem find?_optLine (tag other : String) (as : Attributes) (text? : Option String) :
    (optLine other as text?).find? (fun u => u.tag == tag) =
      if tag = other then text?.map (Tree.line other as) else none := by
  cases text? with
  | none => exact (ite_self none).symm
  | some text =>
    by_cases h : tag = other
    · simp [optLine, Tree.tag, h]
    · simp [optLine, Tree.tag, h, Ne.symm h]

/-- The metadata is found under its tag only. -/
theorem find?_extensionTrees (tag : String) (x : Extensions) :
    (extensionTrees x).find? (fun u => u.tag == tag) =
      if tag = "extensionElements" then (extensionTrees x).head? else none := by
  rw [extensionTrees]
  split
  · exact (ite_self none).symm
  · by_cases h : tag = "extensionElements"
    · simp [Tree.tag, h]
    · simp [Tree.tag, h, Ne.symm h]

/-- **Metadata is read back**, where none is blank. -/
theorem readEntries_extensionTrees {x : Extensions}
    (h : ∀ entry ∈ x.entries, (Text.nonBlank? entry.2).isSome) :
    ((((extensionTrees x).head?).map Tree.children).getD []).map readEntry = x.entries := by
  rw [extensionTrees, List.filter_eq_self.2 h]
  split
  · rename_i hempty
    rw [List.isEmpty_iff.1 hempty]
    rfl
  · have hread : readEntry ∘ entryTree = fun entry => entry := funext readEntry_entryTree
    simp [Tree.children, hread]

theorem lookup_name_kindList (k : ElementKind) : (kindList k).lookup "name" = none := by
  cases k with
  | serviceTask implementation? asynchronous exclusive =>
    rw [kindList, List.lookup_append, lookup_implementationList _ (by rintro (_ | _ | _) <;> decide)]
    simp [List.lookup_append, lookup_opt]
  | userTask => simp [kindList, List.lookup_append, lookup_opt]
  | scriptTask => simp [kindList, lookup_opt]
  | _ => rfl

/-- What is read of an attribute of an element. -/
theorem lookup_elementTree (e : Element) (name : String) :
    (elementTree e).attributes.lookup name = (if name = "id" then some e.id else none).or
      ((if name = "name" then e.name? else none).or ((kindList e.kind).lookup name)) := by
  simp only [elementTree, Tree.attributes, List.lookup_append, lookup_opt]

/-- What is read of the trees in an element. -/
theorem child?_elementTree (e : Element) (tag : String) : (elementTree e).child? tag =
    (if tag = "documentation" then e.documentation?.map (.line "documentation" []) else none).or
      ((if tag = "extensionElements" then (extensionTrees e.extensions).head? else none).or
        (if tag = "script" then (scriptOf? e.kind).map (.line "script" []) else none)) := by
  simp only [child?, elementTree, Tree.children, List.find?_append, find?_optLine,
    find?_extensionTrees]

theorem map_content_map_line (tag : String) (as : Attributes) (text? : Option String) :
    (text?.map (Tree.line tag as)).map Tree.content = text? := by
  cases text? <;> rfl

/-- **An element is read back** from its tree. -/
theorem readElement?_elementTree (hk : Separable e.kind)
    (hx : ∀ entry ∈ e.extensions.entries, (Text.nonBlank? entry.2).isSome) :
    readElement? (elementTree e) = some e.withoutBounds := by
  have hid : (elementTree e).attributes.lookup "id" = some e.id := by
    simp [lookup_elementTree]
  have hname : (elementTree e).attributes.lookup "name" = e.name? := by
    simp [lookup_elementTree, lookup_name_kindList]
  have hkind : readKind? (elementTree e).tag (elementTree e).attributes (scriptOf? e.kind) =
      some e.kind := by
    refine readKind?_kindList hk _ fun name hid hname => ?_
    simp [lookup_elementTree, hid, hname]
  have hscript : ((elementTree e).child? "script").map Tree.content = scriptOf? e.kind := by
    simpa [child?_elementTree] using map_content_map_line "script" [] _
  have hdocumentation :
      ((elementTree e).child? "documentation").map Tree.content = e.documentation? := by
    simpa [child?_elementTree] using map_content_map_line "documentation" [] _
  have hextensions : ((((elementTree e).child? "extensionElements").map Tree.children).getD []).map
      readEntry = e.extensions.entries := by
    simpa [child?_elementTree] using readEntries_extensionTrees hx
  rw [readElement?, hscript, hkind, hid, hname, hdocumentation, hextensions]
  rfl

/-! ## Flows -/

/-- The tree of a flow. -/
def flowTree (f : Flow) : Tree :=
  .block "sequenceFlow"
    (opt "id" (some f.id) ++ (opt "name" f.name?
      ++ (opt "sourceRef" (some f.source) ++ opt "targetRef" (some f.target))))
    (optLine "conditionExpression" (opt "xsi:type" (some "tFormalExpression")) f.condition?)

/-- The flow that a tree is written for, if it is. -/
def readFlow? (t : Tree) : Option Flow :=
  if t.tag = "sequenceFlow" then
    some
      { id := (t.attributes.lookup "id").getD ""
        source := (t.attributes.lookup "sourceRef").getD ""
        target := (t.attributes.lookup "targetRef").getD ""
        name? := t.attributes.lookup "name"
        condition? := (t.child? "conditionExpression").map Tree.content }
  else none

/-- **A flow is written as its tree.** -/
theorem text_flowTree (f : Flow) : (flowTree f).text 4 = flow f := by
  have hcondition : texts 6 (optLine "conditionExpression"
      (opt "xsi:type" (some "tFormalExpression")) f.condition?) =
        match f.condition? with
        | some condition => textLine "      " "conditionExpression"
            (attr "xsi:type" "tFormalExpression") condition
        | none => "" := by
    rw [texts_optLine, attributesText_opt]
    cases f.condition? <;> rfl
  rw [flowTree, Tree.text, hcondition]
  simp only [attributesText_append, attributesText_opt, attr?, ← String.append_assoc]
  rfl

/-- **A flow is read back** from its tree. -/
theorem readFlow?_flowTree (f : Flow) : readFlow? (flowTree f) = some f := by
  have hlookup : ∀ name, (flowTree f).attributes.lookup name =
      (if name = "id" then some f.id else none).or ((if name = "name" then f.name? else none).or
        ((if name = "sourceRef" then some f.source else none).or
          (if name = "targetRef" then some f.target else none))) := fun name => by
    simp only [flowTree, Tree.attributes, List.lookup_append, lookup_opt]
  have hcondition : ((flowTree f).child? "conditionExpression").map Tree.content =
      f.condition? := by
    rw [child?, flowTree, Tree.children, find?_optLine, if_pos rfl, map_content_map_line]
  have htag : (flowTree f).tag = "sequenceFlow" := rfl
  rw [readFlow?, if_pos htag, hcondition]
  simp [hlookup]

end Element

/-! ## Names that are written -/

theorem isName_tag (k : ElementKind) : IsName k.tag := by
  cases k <;> rw [ElementKind.tag] <;> decide

theorem areNamed_implementationList (implementation? : Option Implementation) :
    AreNamed (implementationList implementation?) := by
  cases implementation? with
  | none => exact areNamed_nil
  | some i =>
    have hname : IsName (implementationName i.kind) := by
      cases i.kind <;> decide
    exact List.forall_mem_singleton.2 hname

theorem areNamed_kindList (k : ElementKind) : AreNamed (kindList k) := by
  cases k with
  | serviceTask implementation? asynchronous exclusive =>
    exact (areNamed_implementationList implementation?).append
      ((areNamed_opt (by decide)).append (areNamed_opt (by decide)))
  | userTask assignee? groups priority? =>
    exact (areNamed_opt (by decide)).append
      ((areNamed_opt (by decide)).append (areNamed_opt (by decide)))
  | scriptTask format? script? => exact areNamed_opt (by decide)
  | _ => exact areNamed_nil

/-- **A key that can name an element** makes a name. -/
theorem isName_of_isElementName {key : String} (h : isElementName key = true) :
    IsName ("flowable:" ++ key) := by
  have hkey : ∀ c ∈ key.toList, isNameChar c = true := by
    unfold isElementName at h
    split at h
    · exact absurd h (by decide)
    · rename_i c cs hchars
      simp only [Bool.and_eq_true, Bool.or_eq_true, List.all_eq_true] at h
      obtain ⟨hfirst, hothers⟩ := h
      rw [hchars]
      refine List.forall_mem_cons.2 ⟨?_, fun d hd => ?_⟩
      · rcases hfirst with hfirst | hfirst <;> simp [isNameChar, Char.isAlphanum, hfirst]
      · rcases hothers d hd with ((hd | hd) | hd) | hd <;> simp [isNameChar, hd]
  refine ⟨by simp, fun c hc => ?_⟩
  rw [String.toList_append, List.mem_append] at hc
  rcases hc with hc | hc
  · exact (show IsName "flowable:" by decide).2 c hc
  · exact hkey c hc

theorem named_entryTree (entry : String × String) : (entryTree entry).Named := by
  rw [entryTree]
  split
  · rename_i h
    exact ⟨isName_of_isElementName h, areNamed_nil⟩
  · exact ⟨by decide, List.forall_mem_singleton.2 (show IsName "name" by decide)⟩

theorem allNamed_optLine {tag : String} {as : Attributes} (htag : IsName tag) (has : AreNamed as)
    (text? : Option String) : Tree.AllNamed (optLine tag as text?) := by
  cases text? with
  | none => trivial
  | some text => exact ⟨⟨htag, has⟩, trivial⟩

theorem allNamed_extensionTrees (x : Extensions) : Tree.AllNamed (extensionTrees x) := by
  rw [extensionTrees]
  split
  · trivial
  · refine ⟨⟨by decide, areNamed_nil, Tree.allNamed_iff.2 fun t ht => ?_⟩, trivial⟩
    obtain ⟨entry, -, rfl⟩ := List.mem_map.1 ht
    exact named_entryTree entry

/-- **Nothing else than names is written** where a name belongs. -/
theorem named_elementTree (e : Element) : (elementTree e).Named := by
  refine ⟨isName_tag e.kind, (areNamed_opt (by decide)).append
    ((areNamed_opt (by decide)).append (areNamed_kindList e.kind)), ?_⟩
  rw [Tree.allNamed_append, Tree.allNamed_append]
  exact ⟨allNamed_optLine (by decide) areNamed_nil _, allNamed_extensionTrees _,
    allNamed_optLine (by decide) areNamed_nil _⟩

theorem named_flowTree (f : Flow) : (flowTree f).Named :=
  ⟨by decide, (areNamed_opt (by decide)).append ((areNamed_opt (by decide)).append
    ((areNamed_opt (by decide)).append (areNamed_opt (by decide)))),
    allNamed_optLine (by decide) (areNamed_opt (by decide)) _⟩

end Markup

end Workflow

end WorkflowCanvas
