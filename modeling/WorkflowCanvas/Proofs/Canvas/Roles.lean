import WorkflowCanvas.Proofs.Canvas.Layers
import WorkflowCanvas.Proofs.Sketch.Alarms
/-!
# Roles of gateways

A gateway is named for its role, which is read off its degree in the sketch:
the edges whose ends are ids of nodes. What its shape lists are the edges that
are kept. The two differ by the edges that are lost (`Sketch.Loses`): those to
a node that is not accepted, and those whose id is in use. So a gateway is
named for what its shape lists exactly if the lost edges do not change its
role (`names_follow_wiring_iff`); a single lost edge can make a split of a node
with one way out (`split_with_one_way_out`).
-/


namespace WorkflowCanvas

namespace Sketch

open Canvas (sanitizeId)

variable {s : Sketch} {j k : Nat} {n : Node} {e : Edge} {id : String}

/-! ## Lost edges -/

/-- **The edge at a position is lost**: both its ends are ids of nodes, but one
of them is not accepted, or the id that it was given is in use. -/
def Loses (s : Sketch) (k : Nat) (e : Edge) : Prop :=
  s.edges[k]? = some e ∧ s.hasNode e.source = true ∧ s.hasNode e.target = true ∧
    (¬ s.IsAccepted e.source ∨ ¬ s.IsAccepted e.target ∨
      (Text.nonBlank? e.id).isSome = true ∧ s.InUse k (sanitizeId e.id))

/-- **What is lost is not kept**, of the edges whose ends are ids of nodes. -/
theorem loses_iff : s.Loses k e ↔
    (s.edges[k]? = some e ∧ s.hasNode e.source = true ∧ s.hasNode e.target = true) ∧
      ∀ a, ¬ s.Keeps k a := by
  rw [Loses, and_assoc, and_assoc]
  refine and_congr_right fun he => and_congr_right fun _ => and_congr_right fun _ => ?_
  rw [← not_exists, exists_keeps_iff he, not_and_or, not_and_or, Classical.not_imp, not_not]

/-- Among accepted ids, shape ids tell the ids apart. -/
theorem IsAccepted.sanitizeId_eq_iff (h : s.IsAccepted id) (hn : s.Accepts k n) :
    sanitizeId id = sanitizeId n.id ↔ id = n.id := by
  refine ⟨fun heq => ?_, fun heq => by rw [heq]⟩
  obtain ⟨j, m, hm, rfl⟩ := h
  rw [(hm.eq hn heq).2]

/-- The edges whose ends are both ids of nodes. -/
def joinedEdges (s : Sketch) : List Edge :=
  s.edges.filter fun e => s.hasNode e.source && s.hasNode e.target

/-- **The joined edges with an end at an accepted node** are those kept there and
those lost there. -/
theorem exists_lost {endOf : Edge → String} (hn : s.Accepts k n)
    (hend : ∀ j a, s.Keeps j a → s.IsAccepted (endOf a.edge)) {ids : List String}
    (hids : Lists (fun j a => s.Keeps j a ∧ sanitizeId (endOf a.edge) = sanitizeId n.id)
      (fun a id => id = a.id) ids) :
    ∃ lost : List Edge, Lists (fun j e => s.Loses j e ∧ endOf e = n.id) Eq lost ∧
      (s.joinedEdges.filter fun e => endOf e == n.id).length = ids.length + lost.length := by
  have hjoined : Lists (fun j e => (s.edges[j]? = some e ∧
      (s.hasNode e.source = true ∧ s.hasNode e.target = true)) ∧ endOf e = n.id) Eq
      (s.joinedEdges.filter fun e => endOf e == n.id) := by
    refine Lists.filter (Lists.filter (Lists.of_list s.edges) ?_) ?_
    · rintro j e _ - rfl
      rw [Bool.and_eq_true]
    · rintro j e _ - rfl
      exact beq_iff_eq
  obtain ⟨lost, hlost⟩ := hjoined.exists_restrict fun j _ => ∀ a, ¬ s.Keeps j a
  have hloses : Lists (fun j e => s.Loses j e ∧ endOf e = n.id) Eq lost := by
    refine hlost.congr fun j e => ?_
    rw [loses_iff, and_right_comm]
  refine ⟨lost, hloses, hids.length_eq_add hloses hjoined ?_ fun j => ?_⟩
  · rintro j a e ⟨ha, -⟩ ⟨hlost, -⟩
    exact (loses_iff.1 hlost).2 a ha
  constructor
  · rintro ⟨e, ⟨he, hsource, htarget⟩, hat⟩
    by_cases hkept : ∃ a, s.Keeps j a
    · obtain ⟨a, ha⟩ := hkept
      obtain rfl : a.edge = e := Option.some.inj (ha.getElem?.symm.trans he)
      exact .inl ⟨a, ha, by rw [hat]⟩
    · exact .inr ⟨e, loses_iff.2 ⟨⟨he, hsource, htarget⟩, not_exists.1 hkept⟩, hat⟩
  · rintro (⟨a, ha, hat⟩ | ⟨e, ⟨he, hsource, htarget, -⟩, hat⟩)
    · exact ⟨a.edge, ⟨ha.getElem?, ha.source.hasNode, ha.target.hasNode⟩,
        ((hend j a ha).sanitizeId_eq_iff hn).1 hat⟩
    · exact ⟨e, ⟨he, hsource, htarget⟩, hat⟩

end Sketch

namespace Canvas

open Settings (Roles)
open Sketch (Node Edge)

/-! ## Names by degree -/

/-- More than one edge leaves, and one enters at most. -/
def Degree.Splits (d : Degree) : Prop := 1 < d.outgoing ∧ d.incoming ≤ 1

/-- More than one edge enters, and one leaves at most. -/
def Degree.Joins (d : Degree) : Prop := 1 < d.incoming ∧ d.outgoing ≤ 1

instance (d : Degree) : Decidable d.Splits := inferInstanceAs (Decidable (_ ∧ _))

instance (d : Degree) : Decidable d.Joins := inferInstanceAs (Decidable (_ ∧ _))

/-- How many edges enter and leave a shape by its own lists. -/
def Shape.degree (sh : Shape) : Degree := ⟨sh.incoming.length, sh.outgoing.length⟩

/-- **A name goes by a degree**: it is that of a split exactly where the degree
splits, that of a join exactly where it joins, and the generic name
elsewhere. -/
structure NamedBy (roles : Roles) (generic? : Option Json) (d : Degree) (name? : Option Json) :
    Prop where
  split : name? = some (.str roles.split) ↔ d.Splits
  join : name? = some (.str roles.join) ↔ d.Joins
  generic : ¬ d.Splits → ¬ d.Joins → name? = generic?

/-- The names of the roles are told apart, from each other and from the generic
name. -/
structure NamesApart (roles : Roles) (generic? : Option Json) : Prop where
  apart : roles.split ≠ roles.join
  split : generic? ≠ some (.str roles.split)
  join : generic? ≠ some (.str roles.join)

section Names

variable {roles : Roles} {generic? name? : Option Json} {d d' : Degree}

/-- A name with the role of a degree goes by it. -/
theorem NamesApart.namedBy (h : NamesApart roles generic?) (d : Degree) :
    NamedBy roles generic? d (((roleName? (some roles) d).map Json.str).or generic?) := by
  have hrole : roleName? (some roles) d =
      if d.Splits then some roles.split else if d.Joins then some roles.join else none := rfl
  rw [hrole]
  by_cases hs : d.Splits
  · have hj : ¬ d.Joins := fun hj => Nat.not_lt.2 hj.2 hs.1
    rw [if_pos hs]
    exact ⟨by simp [hs], by simp [hj, h.apart], fun hnot => absurd hs hnot⟩
  · rw [if_neg hs]
    by_cases hj : d.Joins
    · rw [if_pos hj]
      exact ⟨by simp [hs, h.apart.symm], by simp [hj], fun _ hnot => absurd hj hnot⟩
    · rw [if_neg hj]
      exact ⟨by simp [hs, h.split], by simp [hj, h.join], fun _ _ => rfl⟩

/-- **A name that goes by one degree goes by another** exactly if the two have the
same role. -/
theorem NamedBy.iff (h : NamedBy roles generic? d name?) :
    NamedBy roles generic? d' name? ↔ (d.Splits ↔ d'.Splits) ∧ (d.Joins ↔ d'.Joins) := by
  constructor
  · intro h'
    exact ⟨h.split.symm.trans h'.split, h.join.symm.trans h'.join⟩
  · rintro ⟨hsplits, hjoins⟩
    exact ⟨h.split.trans hsplits, h.join.trans hjoins, fun hs hj =>
      h.generic (mt hsplits.1 hs) (mt hjoins.1 hj)⟩

end Names

/-! ## Degrees of shapes -/

variable {settings : Settings} {s : Sketch} {k : Nat} {n : Node}

/-- **The degree of a node counts what its shape lists and what is lost.** -/
theorem degree_eq (settings : Settings) (hn : s.Accepts k n) :
    ∃ lostOut lostIn : List Edge,
      Lists (fun j e => s.Loses j e ∧ e.source = n.id) Eq lostOut ∧
      Lists (fun j e => s.Loses j e ∧ e.target = n.id) Eq lostIn ∧
      (degree s n.id).outgoing = (shapeOfNode settings s n).degree.outgoing + lostOut.length ∧
      (degree s n.id).incoming = (shapeOfNode settings s n).degree.incoming + lostIn.length := by
  have hmem := shapeOfNode_mem settings hn
  obtain ⟨lostOut, hlostOut, hout⟩ :=
    Sketch.exists_lost hn (fun _ _ ha => ha.source) (lists_outgoing hmem)
  obtain ⟨lostIn, hlostIn, hin⟩ :=
    Sketch.exists_lost hn (fun _ _ ha => ha.target) (lists_incoming hmem)
  exact ⟨lostOut, lostIn, hlostOut, hlostIn, hout, hin⟩

/-- Where no edge is lost at a node, its shape has the degree of the node. -/
theorem degree_eq_of_not_loses (settings : Settings) (hn : s.Accepts k n)
    (hkept : ∀ j e, s.Loses j e → e.source ≠ n.id ∧ e.target ≠ n.id) :
    (shapeOfNode settings s n).degree = degree s n.id := by
  obtain ⟨lostOut, lostIn, hlostOut, hlostIn, hout, hin⟩ := degree_eq settings hn
  have hnoneOut : lostOut = [] := List.eq_nil_iff_forall_not_mem.2 fun e he => by
    obtain ⟨j, x, ⟨hx, hat⟩, rfl⟩ := hlostOut.exists_of_mem he
    exact (hkept j x hx).1 hat
  have hnoneIn : lostIn = [] := List.eq_nil_iff_forall_not_mem.2 fun e he => by
    obtain ⟨j, x, ⟨hx, hat⟩, rfl⟩ := hlostIn.exists_of_mem he
    exact (hkept j x hx).2 hat
  rw [hnoneOut, List.length_nil, Nat.add_zero] at hout
  rw [hnoneIn, List.length_nil, Nat.add_zero] at hin
  exact congrArg₂ Degree.mk hin.symm hout.symm

/-- **When a gateway is named for what its shape lists.** A gateway whose name is
not forced is named for its degree in the sketch. That counts the edges that
its shape lists on either side and the edges that are lost there. So the name
goes by the lists exactly if lost edges do not change the role; it does where
no edge is lost at the gateway. -/
theorem names_follow_wiring_iff (settings : Settings) (s : Sketch) {k : Nat} {n : Node}
    {roles : Roles} (hn : s.Accepts k n)
    (hroles : (settings.mappingFor n.typeTag?).roles? = some roles)
    (hparameters : n.data.parameters.Sorted) (hname : (overridesOf settings n).get? "name" = none)
    (hapart : NamesApart roles (genericName? settings n)) :
    ∃ sh, (ofSketch settings s).shape? (sanitizeId n.id) = some sh ∧
      (∃ lostOut lostIn : List Edge,
        Lists (fun j e => s.Loses j e ∧ e.source = n.id) Eq lostOut ∧
        Lists (fun j e => s.Loses j e ∧ e.target = n.id) Eq lostIn ∧
        (degree s n.id).outgoing = sh.degree.outgoing + lostOut.length ∧
        (degree s n.id).incoming = sh.degree.incoming + lostIn.length) ∧
      NamedBy roles (genericName? settings n) (degree s n.id) (sh.properties.get? "name") ∧
      (NamedBy roles (genericName? settings n) sh.degree (sh.properties.get? "name") ↔
        ((degree s n.id).Splits ↔ sh.degree.Splits) ∧
          ((degree s n.id).Joins ↔ sh.degree.Joins)) ∧
      ((∀ j e, s.Loses j e → e.source ≠ n.id ∧ e.target ≠ n.id) →
        NamedBy roles (genericName? settings n) sh.degree (sh.properties.get? "name")) := by
  have hget : (shapeOfNode settings s n).properties.get? "name" =
      ((roleName? (some roles) (degree s n.id)).map Json.str).or (genericName? settings n) := by
    rw [← hroles, ← get?_unmergedProperties_name hparameters]
    show (nodeProperties settings (degree s n.id) n).get? "name" = _
    rw [nodeProperties_eq_merge, Json.get?_merge_of_none _ hname]
  have hnamed := hapart.namedBy (degree s n.id)
  rw [← hget] at hnamed
  refine ⟨_, shape?_sanitizeId settings hn, degree_eq settings hn, hnamed, hnamed.iff,
    fun hkept => ?_⟩
  rw [degree_eq_of_not_loses settings hn hkept]
  exact hnamed

/-- A gateway. -/
def forkNode : Node where
  id := "fork"
  outerTag? := "parallel"

/-- A gateway with an edge to each of two steps. -/
def forkSketch (first second : String) : Sketch where
  nodes := [forkNode, { id := first, outerTag? := "service" },
    { id := second, outerTag? := "service" }]
  edges := [{ id := "e1", source := "fork", target := first },
    { id := "e2", source := "fork", target := second }]

/-- What the shape of the gateway lists, and the text of its name. -/
def forkShape? (s : Sketch) : Option (List String × List String × Option String) :=
  ((ofSketch .standard s).shape? "fork").map fun sh =>
    (sh.incoming, sh.outgoing, (sh.properties.get? "name").bind Json.str?)

theorem accepts_forkNode (first second : String) : (forkSketch first second).Accepts 0 forkNode :=
  Sketch.accepts_iff_first.2 ⟨rfl, by decide, fun j hj => absurd hj (Nat.not_lt_zero j)⟩

/-- The names of a parallel gateway are told apart from that of a gateway without
a role. -/
theorem namesApart_forkNode :
    NamesApart ⟨"Parallel Split", "Parallel Join"⟩ (genericName? .standard forkNode) := by
  have hgeneric : (genericName? .standard forkNode).bind Json.str? = some "Parallel" := by
    decide +kernel
  refine ⟨by decide, fun h => ?_, fun h => ?_⟩ <;>
    · rw [h] at hgeneric
      exact absurd hgeneric (by decide)

/-- With an edge to each of two steps, the gateway has the name of a split by
what its shape lists. -/
theorem fork_named_split :
    forkShape? (forkSketch "sign" "file") = some ([], ["e1", "e2"], some "Parallel Split") ∧
      (degree (forkSketch "sign" "file") "fork").Splits ∧
      ∃ sh, (ofSketch .standard (forkSketch "sign" "file")).shape? "fork" = some sh ∧
        NamedBy ⟨"Parallel Split", "Parallel Join"⟩ (genericName? .standard forkNode) sh.degree
          (sh.properties.get? "name") := by
  have hid : sanitizeId forkNode.id = "fork" := by decide
  have hshape : forkShape? (forkSketch "sign" "file") =
      some ([], ["e1", "e2"], some "Parallel Split") := by decide +kernel
  obtain ⟨sh, hsh, -, -, hiff, -⟩ := names_follow_wiring_iff .standard (forkSketch "sign" "file")
    (accepts_forkNode _ _) rfl List.Pairwise.nil rfl namesApart_forkNode
  rw [hid] at hsh
  refine ⟨hshape, by decide, sh, hsh, hiff.2 ?_⟩
  rw [forkShape?, hsh, Option.map_some, Option.some_inj, Prod.mk.injEq, Prod.mk.injEq] at hshape
  rw [Shape.degree, hshape.1, hshape.2.1]
  decide

/-- **A split with one way out.** The second step has the shape id of the first and
is not accepted. The edge to it is in no list, and yet it counts for the name
of the gateway. -/
theorem split_with_one_way_out :
    (forkSketch "a b" "a/b").Accepts 0 forkNode ∧
      (Settings.standard.mappingFor forkNode.typeTag?).roles? =
        some ⟨"Parallel Split", "Parallel Join"⟩ ∧
      (overridesOf .standard forkNode).get? "name" = none ∧
      NamesApart ⟨"Parallel Split", "Parallel Join"⟩ (genericName? .standard forkNode) ∧
      forkShape? (forkSketch "a b" "a/b") = some ([], ["e1"], some "Parallel Split") ∧
      ∃ sh, (ofSketch .standard (forkSketch "a b" "a/b")).shape? "fork" = some sh ∧
        ¬ NamedBy ⟨"Parallel Split", "Parallel Join"⟩ (genericName? .standard forkNode) sh.degree
          (sh.properties.get? "name") := by
  have hshape : forkShape? (forkSketch "a b" "a/b") =
      some ([], ["e1"], some "Parallel Split") := by decide +kernel
  refine ⟨accepts_forkNode _ _, rfl, rfl, namesApart_forkNode, hshape, ?_⟩
  rw [forkShape?] at hshape
  obtain ⟨sh, hsh, hread⟩ := Option.map_eq_some_iff.1 hshape
  rw [Prod.mk.injEq, Prod.mk.injEq] at hread
  obtain ⟨hin, hout, hname⟩ := hread
  refine ⟨sh, hsh, fun h => ?_⟩
  have hdegree : sh.degree = ⟨0, 1⟩ := by
    rw [Shape.degree, hin, hout]
    rfl
  -- one way out makes neither a split nor a join
  have hgeneric := h.generic (by rw [hdegree]; decide) (by rw [hdegree]; decide)
  rw [hgeneric] at hname
  exact absurd hname (by decide +kernel)

end Canvas

end WorkflowCanvas
