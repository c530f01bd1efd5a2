import WorkflowCanvas.Proofs.Canvas.Wiring
import WorkflowCanvas.Proofs.Decimal.Sums
import WorkflowCanvas.Proofs.Geometry
/-!
# The bounds of a canvas

A rectangle encloses another if no side of that lies beyond its own, where sides
are compared by their exact values (`Decimal.le_iff`). The bounds of a canvas are
the least rectangle that encloses the least canvas and the shapes of the nodes
(`encloses_bounds_iff`). The flows have no part in them. A flow takes up room at
the nodes at its ends, about their centres, and it is enclosed if that is
(`encloses_edgeShape_iff`). So nodes that are large enough keep their flows on
the canvas (`encloses_flows_of_room`), and at its edge a smaller node does not
(`flow_outside_canvas`).
-/


namespace WorkflowCanvas

/-- Both coordinates of a point are numbers. -/
structure Point.IsNumeric (p : Point) : Prop where
  x : p.x.isNaN = false
  y : p.y.isNaN = false

namespace Rect

/-! ## Coordinates -/

section Coordinates

variable {a b x p : Float}

/-- The smaller of two numbers is a number. -/
theorem isNaN_lesser (ha : a.isNaN = false) (hb : b.isNaN = false) :
    (lesser a b).isNaN = false := by
  unfold lesser
  split
  · exact ha
  · exact hb

theorem isNaN_greater (ha : a.isNaN = false) (hb : b.isNaN = false) :
    (greater a b).isNaN = false := by
  unfold greater
  split
  · exact ha
  · exact hb

/-- **What is at most the smaller of two numbers** is at most either. -/
theorem le_lesser_iff (ha : a.isNaN = false) (hb : b.isNaN = false) :
    x ≤ lesser a b ↔ x ≤ a ∧ x ≤ b := by
  unfold lesser
  rw [hb, Bool.false_or]
  rcases Decimal.lt_or_le ha hb with ⟨hlt, hle⟩ | hle
  · rw [if_pos (decide_eq_true hlt)]
    exact (and_iff_left_of_imp fun hx => Decimal.trans_le hx hle).symm
  · rw [if_neg (mt of_decide_eq_true (Decimal.not_lt_of_le hle))]
    exact (and_iff_right_of_imp fun hx => Decimal.trans_le hx hle).symm

/-- **What is at least the larger of two numbers** is at least either. -/
theorem greater_le_iff (ha : a.isNaN = false) (hb : b.isNaN = false) :
    greater a b ≤ x ↔ a ≤ x ∧ b ≤ x := by
  unfold greater
  rw [hb, Bool.false_or]
  rcases Decimal.lt_or_le hb ha with ⟨hlt, hle⟩ | hle
  · rw [if_pos (decide_eq_true hlt)]
    exact (and_iff_left_of_imp fun hx => Decimal.trans_le hle hx).symm
  · rw [if_neg (mt of_decide_eq_true (Decimal.not_lt_of_le hle))]
    exact (and_iff_right_of_imp fun hx => Decimal.trans_le hle hx).symm

/-- What is at most the smaller of two numbers less a finite one is at most either
of them less that. -/
theorem le_lesser_sub_iff (ha : a.isNaN = false) (hb : b.isNaN = false)
    (hp : p.isFinite = true) : x ≤ lesser a b - p ↔ x ≤ a - p ∧ x ≤ b - p := by
  obtain ⟨hlea, hleb⟩ := (le_lesser_iff ha hb).1 (Decimal.le_self (isNaN_lesser ha hb))
  constructor
  · intro hx
    exact ⟨Decimal.trans_le hx (Decimal.sub_mono hlea hp),
      Decimal.trans_le hx (Decimal.sub_mono hleb hp)⟩
  · rintro ⟨hxa, hxb⟩
    unfold lesser
    split
    · exact hxa
    · exact hxb

theorem greater_add_le_iff (ha : a.isNaN = false) (hb : b.isNaN = false)
    (hp : p.isFinite = true) : greater a b + p ≤ x ↔ a + p ≤ x ∧ b + p ≤ x := by
  obtain ⟨hlea, hleb⟩ := (greater_le_iff ha hb).1 (Decimal.le_self (isNaN_greater ha hb))
  constructor
  · intro hx
    exact ⟨Decimal.trans_le (Decimal.add_mono hlea hp) hx,
      Decimal.trans_le (Decimal.add_mono hleb hp) hx⟩
  · rintro ⟨hxa, hxb⟩
    unfold greater
    split
    · exact hxa
    · exact hxb

end Coordinates

/-! ## Rectangles -/

/-- **A rectangle encloses another**: no side of that lies beyond its own. -/
structure Encloses (r s : Rect) : Prop where
  left : r.upperLeft.x ≤ s.upperLeft.x
  top : r.upperLeft.y ≤ s.upperLeft.y
  right : s.lowerRight.x ≤ r.lowerRight.x
  bottom : s.lowerRight.y ≤ r.lowerRight.y

/-- All sides of a rectangle are numbers, be they infinite. -/
structure IsNumeric (r : Rect) : Prop where
  left : r.upperLeft.x.isNaN = false
  top : r.upperLeft.y.isNaN = false
  right : r.lowerRight.x.isNaN = false
  bottom : r.lowerRight.y.isNaN = false

variable {r s t : Rect}

theorem IsNumeric.encloses_self (h : r.IsNumeric) : r.Encloses r :=
  ⟨Decimal.le_self h.left, Decimal.le_self h.top, Decimal.le_self h.right,
    Decimal.le_self h.bottom⟩

theorem Encloses.trans (h : r.Encloses s) (h' : s.Encloses t) : r.Encloses t :=
  ⟨Decimal.trans_le h.left h'.left, Decimal.trans_le h.top h'.top,
    Decimal.trans_le h'.right h.right, Decimal.trans_le h'.bottom h.bottom⟩

theorem IsNumeric.union (hr : r.IsNumeric) (hs : s.IsNumeric) : (r.union s).IsNumeric :=
  ⟨isNaN_lesser hr.left hs.left, isNaN_lesser hr.top hs.top, isNaN_greater hr.right hs.right,
    isNaN_greater hr.bottom hs.bottom⟩

/-- **What encloses a union** encloses both. -/
theorem encloses_union_iff (hr : r.IsNumeric) (hs : s.IsNumeric) :
    t.Encloses (r.union s) ↔ t.Encloses r ∧ t.Encloses s := by
  constructor
  · rintro ⟨hleft, htop, hright, hbottom⟩
    obtain ⟨hleft, hleft'⟩ := (le_lesser_iff hr.left hs.left).1 hleft
    obtain ⟨htop, htop'⟩ := (le_lesser_iff hr.top hs.top).1 htop
    obtain ⟨hright, hright'⟩ := (greater_le_iff hr.right hs.right).1 hright
    obtain ⟨hbottom, hbottom'⟩ := (greater_le_iff hr.bottom hs.bottom).1 hbottom
    exact ⟨⟨hleft, htop, hright, hbottom⟩, ⟨hleft', htop', hright', hbottom'⟩⟩
  · rintro ⟨h, h'⟩
    exact ⟨(le_lesser_iff hr.left hs.left).2 ⟨h.left, h'.left⟩,
      (le_lesser_iff hr.top hs.top).2 ⟨h.top, h'.top⟩,
      (greater_le_iff hr.right hs.right).2 ⟨h.right, h'.right⟩,
      (greater_le_iff hr.bottom hs.bottom).2 ⟨h.bottom, h'.bottom⟩⟩

/-- The square about a point. -/
def around (c : Point) (padding : Float) : Rect :=
  ⟨⟨c.x - padding, c.y - padding⟩, ⟨c.x + padding, c.y + padding⟩⟩

/-- **What encloses the padded span of two points** encloses the square about
either of them. -/
theorem encloses_spanning_iff {a b : Point} {padding : Float} (ha : a.IsNumeric)
    (hb : b.IsNumeric) (hp : padding.isFinite = true) :
    t.Encloses (spanning a b padding) ↔
      t.Encloses (around a padding) ∧ t.Encloses (around b padding) := by
  constructor
  · rintro ⟨hleft, htop, hright, hbottom⟩
    obtain ⟨hleft, hleft'⟩ := (le_lesser_sub_iff ha.x hb.x hp).1 hleft
    obtain ⟨htop, htop'⟩ := (le_lesser_sub_iff ha.y hb.y hp).1 htop
    obtain ⟨hright, hright'⟩ := (greater_add_le_iff ha.x hb.x hp).1 hright
    obtain ⟨hbottom, hbottom'⟩ := (greater_add_le_iff ha.y hb.y hp).1 hbottom
    exact ⟨⟨hleft, htop, hright, hbottom⟩, ⟨hleft', htop', hright', hbottom'⟩⟩
  · rintro ⟨h, h'⟩
    exact ⟨(le_lesser_sub_iff ha.x hb.x hp).2 ⟨h.left, h'.left⟩,
      (le_lesser_sub_iff ha.y hb.y hp).2 ⟨h.top, h'.top⟩,
      (greater_add_le_iff ha.x hb.x hp).2 ⟨h.right, h'.right⟩,
      (greater_add_le_iff ha.y hb.y hp).2 ⟨h.bottom, h'.bottom⟩⟩

/-- The middle of a rectangle at a finite corner is a number. -/
theorem IsNumeric.center (h : r.IsNumeric) (hcorner : r.upperLeft.IsFinite) :
    r.center.IsNumeric := by
  constructor
  · refine Decimal.isNaN_half ?_
    rw [Decimal.sum_comm]
    exact Decimal.isNaN_add h.right hcorner.x
  · refine Decimal.isNaN_half ?_
    rw [Decimal.sum_comm]
    exact Decimal.isNaN_add h.bottom hcorner.y

end Rect

namespace Sketch

/-- **The node is drawn with finite numbers.** -/
structure Node.IsFinite (n : Node) : Prop where
  origin : n.origin.IsFinite
  width : (n.width?.getD defaultWidth).isFinite = true
  height : (n.height?.getD defaultHeight).isFinite = true

theorem Node.IsFinite.isNumeric_bounds {n : Node} (h : n.IsFinite) : n.bounds.IsNumeric :=
  ⟨Decimal.isNaN_of_isFinite h.origin.x, Decimal.isNaN_of_isFinite h.origin.y,
    Decimal.isNaN_add (Decimal.isNaN_of_isFinite h.origin.x) h.width,
    Decimal.isNaN_add (Decimal.isNaN_of_isFinite h.origin.y) h.height⟩

theorem Node.IsFinite.isNumeric_center {n : Node} (h : n.IsFinite) : n.bounds.center.IsNumeric :=
  h.isNumeric_bounds.center h.origin

end Sketch

namespace Canvas

open Sketch (Node Kept)

variable {settings : Settings} {s : Sketch}

/-! ## The bounds of a canvas -/

theorem isNumeric_leastBounds : leastBounds.IsNumeric :=
  ⟨by decide +kernel, by decide +kernel, by decide +kernel, by decide +kernel⟩

/-- **The bounds over shapes**: what encloses them encloses each shape. -/
theorem encloses_foldl_iff {t r : Rect} {shapes : List Shape} (hr : r.IsNumeric)
    (hshapes : ∀ sh ∈ shapes, sh.bounds.IsNumeric) :
    t.Encloses (shapes.foldl (fun bounds sh => bounds.union sh.bounds) r) ↔
      t.Encloses r ∧ ∀ sh ∈ shapes, t.Encloses sh.bounds := by
  induction shapes generalizing r with
  | nil => simp
  | cons sh rest ih =>
    have hsh : sh.bounds.IsNumeric := hshapes sh List.mem_cons_self
    rw [List.foldl_cons, ih (hr.union hsh) fun sh' h => hshapes sh' (List.mem_cons_of_mem _ h),
      Rect.encloses_union_iff hr hsh, List.forall_mem_cons, and_assoc]

theorem isNumeric_foldl {r : Rect} {shapes : List Shape} (hr : r.IsNumeric)
    (hshapes : ∀ sh ∈ shapes, sh.bounds.IsNumeric) :
    (shapes.foldl (fun bounds sh => bounds.union sh.bounds) r).IsNumeric := by
  induction shapes generalizing r with
  | nil => exact hr
  | cons sh rest ih =>
    exact ih (hr.union (hshapes sh List.mem_cons_self)) fun sh' h =>
      hshapes sh' (List.mem_cons_of_mem _ h)

theorem bounds_ofSketch (settings : Settings) (s : Sketch) :
    (ofSketch settings s).bounds =
      (shapesOfNodes settings s).foldl (fun bounds sh => bounds.union sh.bounds) leastBounds :=
  rfl

/-- What encloses the shapes of the nodes encloses the accepted nodes. -/
theorem forall_shapesOfNodes_iff {t : Rect} :
    (∀ sh ∈ shapesOfNodes settings s, t.Encloses sh.bounds) ↔
      ∀ k n, s.Accepts k n → t.Encloses n.bounds := by
  constructor
  · intro h k n hn
    obtain ⟨sh, hsh, hshape⟩ := (lists_isNodeShape settings s).exists_mem hn
    rw [← hshape.bounds]
    exact h sh hsh
  · intro h sh hsh
    obtain ⟨k, n, hn, hshape⟩ := (lists_isNodeShape settings s).exists_of_mem hsh
    rw [hshape.bounds]
    exact h k n hn

/-- The room of a flow at a node at its end: the square about the centre. -/
def flowRoom (settings : Settings) (n : Node) : Rect :=
  Rect.around n.bounds.center settings.boundsPadding

section Finite

variable (hs : ∀ n ∈ s.nodes, n.IsFinite)
include hs

theorem isFinite_of_accepts {k : Nat} {n : Node} (hn : s.Accepts k n) : n.IsFinite :=
  hs n (List.mem_of_getElem? hn.getElem?)

theorem isNumeric_of_mem {sh : Shape} (hsh : sh ∈ shapesOfNodes settings s) :
    sh.bounds.IsNumeric := by
  obtain ⟨k, n, hn, hshape⟩ := (lists_isNodeShape settings s).exists_of_mem hsh
  rw [hshape.bounds]
  exact (isFinite_of_accepts hs hn).isNumeric_bounds

theorem isNumeric_bounds : (ofSketch settings s).bounds.IsNumeric :=
  isNumeric_foldl isNumeric_leastBounds fun _ => isNumeric_of_mem hs

/-- **What encloses the bounds of a canvas** encloses the least canvas and the
nodes, and nothing else is asked. -/
theorem encloses_bounds_iff {t : Rect} :
    t.Encloses (ofSketch settings s).bounds ↔
      t.Encloses leastBounds ∧ ∀ k n, s.Accepts k n → t.Encloses n.bounds := by
  rw [bounds_ofSketch, encloses_foldl_iff isNumeric_leastBounds fun _ => isNumeric_of_mem hs,
    forall_shapesOfNodes_iff]

/-- **What encloses a flow** encloses its room at the nodes at its ends. -/
theorem encloses_edgeShape_iff {t : Rect} {a : Kept} {l : Link}
    (hp : settings.boundsPadding.isFinite = true) (hl : s.IsLinkedAs a l) :
    t.Encloses (edgeShape settings l).bounds ↔ ∀ k n, s.Accepts k n →
      n.id = a.edge.source ∨ n.id = a.edge.target → t.Encloses (flowRoom settings n) := by
  obtain ⟨i, hsource, -⟩ := Sketch.mem_place_iff.1 hl.source
  obtain ⟨j, htarget, -⟩ := Sketch.mem_place_iff.1 hl.target
  have hspan := Rect.encloses_spanning_iff (t := t)
    (isFinite_of_accepts hs hsource).isNumeric_center
    (isFinite_of_accepts hs htarget).isNumeric_center hp
  refine hspan.trans ⟨fun h k n hn hend => ?_, fun h => ?_⟩
  · rcases hend with hend | hend
    · obtain ⟨-, rfl⟩ := hn.eq hsource (congrArg sanitizeId (hend.trans hl.source_id.symm))
      exact h.1
    · obtain ⟨-, rfl⟩ := hn.eq htarget (congrArg sanitizeId (hend.trans hl.target_id.symm))
      exact h.2
  · exact ⟨h i _ hsource (Or.inl hl.source_id), h j _ htarget (Or.inr hl.target_id)⟩

/-- **What encloses all shapes of a canvas** encloses the nodes and, at both ends of
each kept edge, the room of the flow. -/
theorem encloses_childShapes_iff {t : Rect} (hp : settings.boundsPadding.isFinite = true) :
    (∀ sh ∈ (ofSketch settings s).childShapes, t.Encloses sh.bounds) ↔
      (∀ k n, s.Accepts k n → t.Encloses n.bounds) ∧
      ∀ i a, s.Keeps i a → ∀ k n, s.Accepts k n → n.id = a.edge.source ∨ n.id = a.edge.target →
        t.Encloses (flowRoom settings n) := by
  rw [childShapes_ofSketch, List.forall_mem_append, forall_shapesOfNodes_iff]
  refine and_congr_right fun _ => ⟨fun h i a ha => ?_, fun h sh hsh => ?_⟩
  · obtain ⟨sh, hsh, l, hl, rfl⟩ := (lists_shapesOfEdges settings s).exists_mem ha
    exact (encloses_edgeShape_iff hs hp hl).1 (h _ hsh)
  · obtain ⟨i, a, ha, l, hl, rfl⟩ := (lists_shapesOfEdges settings s).exists_of_mem hsh
    exact (encloses_edgeShape_iff hs hp hl).2 (h i a ha)

/-- **Nodes that are large enough keep their flows on the canvas**, wherever they
are: those that have the room of a flow within themselves. -/
theorem encloses_flows_of_room (hp : settings.boundsPadding.isFinite = true)
    (hroom : ∀ k n, s.Accepts k n → n.bounds.Encloses (flowRoom settings n)) :
    ∀ sh ∈ (ofSketch settings s).childShapes, (ofSketch settings s).bounds.Encloses sh.bounds := by
  obtain ⟨-, hnodes⟩ := (encloses_bounds_iff hs).1 (isNumeric_bounds hs).encloses_self
  refine (encloses_childShapes_iff hs hp).2 ⟨hnodes, fun i a _ k n hn _ => ?_⟩
  exact (hnodes k n hn).trans (hroom k n hn)

end Finite

/-- **The canvas encloses the nodes.** Its bounds are the least that enclose the
least canvas and the shapes of the nodes. They enclose all shapes exactly if
they enclose the room of each flow at the nodes at its ends, which they need
not. -/
theorem canvas_encloses_nodes (settings : Settings) (s : Sketch)
    (hp : settings.boundsPadding.isFinite = true) (hs : ∀ n ∈ s.nodes, n.IsFinite) :
    (ofSketch settings s).bounds.Encloses leastBounds ∧
    (∀ k n, s.Accepts k n → (ofSketch settings s).bounds.Encloses n.bounds) ∧
    (∀ r : Rect, r.Encloses leastBounds → (∀ k n, s.Accepts k n → r.Encloses n.bounds) →
      r.Encloses (ofSketch settings s).bounds) ∧
    ((∀ sh ∈ (ofSketch settings s).childShapes,
        (ofSketch settings s).bounds.Encloses sh.bounds) ↔
      ∀ i a, s.Keeps i a → ∀ k n, s.Accepts k n → n.id = a.edge.source ∨ n.id = a.edge.target →
        (ofSketch settings s).bounds.Encloses (flowRoom settings n)) := by
  have hself : (ofSketch settings s).bounds.Encloses (ofSketch settings s).bounds :=
    (isNumeric_bounds hs).encloses_self
  obtain ⟨hleast, hnodes⟩ := (encloses_bounds_iff hs).1 hself
  refine ⟨hleast, hnodes, fun r hr hrn => (encloses_bounds_iff hs).2 ⟨hr, hrn⟩, ?_⟩
  rw [encloses_childShapes_iff hs hp]
  exact and_iff_right hnodes

/-- A start and an end of one size at the upper edge of the canvas, linked. -/
def linkedPair (size : Float) : Sketch where
  nodes := [
    { id := "a", data := { tag? := some "start" }, position? := some ⟨0, 0⟩,
      width? := some size, height? := some size },
    { id := "b", data := { tag? := some "end" }, position? := some ⟨150, 0⟩,
      width? := some size, height? := some size }]
  edges := [{ id := "f", source := "a", target := "b" }]

/-- Where each node is as large as its flow has room about the centre, the canvas
encloses the flow. -/
theorem flow_inside_canvas :
    (∀ n ∈ (linkedPair 20).nodes, n.IsFinite) ∧
      ∀ sh ∈ (ofSketch .standard (linkedPair 20)).childShapes,
        (ofSketch .standard (linkedPair 20)).bounds.Encloses sh.bounds := by
  have hfinite : ∀ n ∈ (linkedPair 20).nodes, n.IsFinite := by
    intro n hn
    rcases List.mem_pair.1 hn with rfl | rfl
    all_goals exact ⟨⟨by decide +kernel, by decide +kernel⟩, by decide +kernel, by decide +kernel⟩
  obtain ⟨-, -, -, hiff⟩ :=
    canvas_encloses_nodes .standard (linkedPair 20) (by decide +kernel) hfinite
  refine ⟨hfinite, hiff.2 fun i a _ k n hn _ => ?_⟩
  rcases List.mem_pair.1 (List.mem_of_getElem? hn.getElem?) with rfl | rfl
  all_goals exact ⟨by decide +kernel, by decide +kernel, by decide +kernel, by decide +kernel⟩

/-- **A flow lies outside of the canvas** if the nodes are smaller than that and at
its edge, though all numbers are finite and no size and no padding is
negative. -/
theorem flow_outside_canvas :
    (∀ n ∈ (linkedPair 10).nodes, n.IsFinite ∧
      0 ≤ n.width?.getD Sketch.defaultWidth ∧ 0 ≤ n.height?.getD Sketch.defaultHeight) ∧
    Settings.standard.boundsPadding.isFinite = true ∧ 0 ≤ Settings.standard.boundsPadding ∧
    ∃ sh ∈ (ofSketch .standard (linkedPair 10)).childShapes,
      ¬ (ofSketch .standard (linkedPair 10)).bounds.Encloses sh.bounds := by
  refine ⟨fun n hn => ?_, by decide +kernel, by decide +kernel, ?_⟩
  · rcases List.mem_pair.1 hn with rfl | rfl
    all_goals exact ⟨⟨⟨by decide +kernel, by decide +kernel⟩, by decide +kernel, by decide +kernel⟩,
      by decide +kernel, by decide +kernel⟩
  · have hbeyond : (ofSketch .standard (linkedPair 10)).childShapes.any (fun sh =>
        decide (sh.bounds.upperLeft.x < (ofSketch .standard (linkedPair 10)).bounds.upperLeft.x)) =
          true := by decide +kernel
    obtain ⟨sh, hsh, hlt⟩ := List.any_eq_true.1 hbeyond
    exact ⟨sh, hsh, fun h => Decimal.not_lt_of_le h.left (of_decide_eq_true hlt)⟩

end Canvas

end WorkflowCanvas
