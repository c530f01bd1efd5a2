import WorkflowCanvas.Proofs.Canvas.ShapeId
import WorkflowCanvas.Proofs.Listing
/-!
# The accepted nodes of a sketch

A node is accepted if its id is not blank, if it is the first with its id,
and if no node accepted before it has the same shape id (`Sketch.Accepts`).
In short, the accepted nodes are the first of their shape ids, blank ids
apart (`accepts_iff_first`). They are what is placed on the canvas, in the
order of the sketch (`lists_place`).
-/


namespace WorkflowCanvas

namespace Sketch

open Canvas (sanitizeId Placed)

/-- **The node at a position is accepted**: its id is not blank, it is the
first with its id, and no accepted node before it has its shape id. -/
def Accepts (s : Sketch) (k : Nat) (n : Node) : Prop :=
  s.nodes[k]? = some n ∧ (Text.nonBlank? n.id).isSome = true ∧
    (∀ j < k, ∀ m, s.nodes[j]? = some m → m.id ≠ n.id) ∧
    ∀ j, ∀ _ : j < k, ∀ m, Accepts s j m → sanitizeId m.id ≠ sanitizeId n.id
termination_by k

/-- The id is that of an accepted node. -/
def IsAccepted (s : Sketch) (id : String) : Prop := ∃ k n, s.Accepts k n ∧ n.id = id

variable {s : Sketch} {j k : Nat} {m n : Node} {id : String}

/-! ## Accepted nodes -/

theorem accepts_iff : s.Accepts k n ↔
    s.nodes[k]? = some n ∧ (Text.nonBlank? n.id).isSome = true ∧
      (∀ j < k, ∀ m, s.nodes[j]? = some m → m.id ≠ n.id) ∧
      ∀ j < k, ∀ m, s.Accepts j m → sanitizeId m.id ≠ sanitizeId n.id := by
  rw [Accepts]

theorem Accepts.getElem? (h : s.Accepts k n) : s.nodes[k]? = some n := (accepts_iff.1 h).1

theorem Accepts.nonBlank (h : s.Accepts k n) : (Text.nonBlank? n.id).isSome = true :=
  (accepts_iff.1 h).2.1

theorem Accepts.isShapeId (h : s.Accepts k n) : Canvas.IsShapeId (sanitizeId n.id) :=
  Canvas.isShapeId_sanitizeId (Canvas.ne_empty_of_nonBlank h.nonBlank)

/-- **Accepted nodes have shape ids apart.** -/
theorem Accepts.eq (hm : s.Accepts j m) (hn : s.Accepts k n)
    (h : sanitizeId m.id = sanitizeId n.id) : j = k ∧ m = n := by
  rcases Nat.lt_trichotomy j k with hlt | rfl | hlt
  · exact absurd h ((accepts_iff.1 hn).2.2.2 j hlt m hm)
  · exact ⟨rfl, Option.some.inj (hm.getElem?.symm.trans hn.getElem?)⟩
  · exact absurd h.symm ((accepts_iff.1 hm).2.2.2 k hlt n hn)

/-- **A shape id has an accepted node**, at or before every node that has
the shape id and an id that is not blank. -/
theorem exists_accepts (h : s.nodes[k]? = some n) (hid : (Text.nonBlank? n.id).isSome = true) :
    ∃ j ≤ k, ∃ m, s.Accepts j m ∧ sanitizeId m.id = sanitizeId n.id := by
  induction k using Nat.strongRecOn generalizing n with
  | _ k ih =>
    by_cases hn : s.Accepts k n
    · exact ⟨k, Nat.le_refl k, n, hn, rfl⟩
    · by_cases hfirst : ∀ j < k, ∀ m, s.nodes[j]? = some m → m.id ≠ n.id
      · -- an accepted node has taken the shape id
        have htaken : ¬ ∀ j < k, ∀ m, s.Accepts j m → sanitizeId m.id ≠ sanitizeId n.id :=
          fun hfree => hn (accepts_iff.2 ⟨h, hid, hfirst, hfree⟩)
        push Not at htaken
        obtain ⟨j, hlt, m, hm, heq⟩ := htaken
        exact ⟨j, Nat.le_of_lt hlt, m, hm, heq⟩
      · push Not at hfirst
        obtain ⟨j, hlt, m, hm, heq⟩ := hfirst
        obtain ⟨i, hle, l, hl, hshape⟩ := ih j hlt hm (heq ▸ hid)
        exact ⟨i, by omega, l, hl, hshape.trans (by rw [heq])⟩

/-- **The accepted nodes are the first of their shape ids**, blank ids
apart. -/
theorem accepts_iff_first : s.Accepts k n ↔
    s.nodes[k]? = some n ∧ (Text.nonBlank? n.id).isSome = true ∧
      ∀ j < k, ∀ m, s.nodes[j]? = some m → (Text.nonBlank? m.id).isSome = true →
        sanitizeId m.id ≠ sanitizeId n.id := by
  constructor
  · intro h
    refine ⟨h.getElem?, h.nonBlank, fun j hlt m hm hid heq => ?_⟩
    obtain ⟨i, hle, l, hl, hshape⟩ := exists_accepts hm hid
    have hik := (hl.eq h (hshape.trans heq)).1
    omega
  · rintro ⟨h, hid, hfirst⟩
    refine accepts_iff.2 ⟨h, hid, fun j hlt m hm heq => ?_, fun j hlt m hm => ?_⟩
    · exact hfirst j hlt m hm (heq ▸ hid) (by rw [heq])
    · exact hfirst j hlt m hm.getElem? hm.nonBlank

/-! ## The accepted nodes in order -/

/-- A node and its place on the canvas. -/
def IsPlacedAs (n : Node) (p : Placed) : Prop := p.node = n ∧ p.resourceId = sanitizeId n.id

/-- A node is found acceptable beside those accepted before exactly if it is
accepted. -/
theorem isAcceptable_iff {placed : List Placed} (h : s.nodes[k]? = some n)
    (hplaced : Lists (fun j m => j < k ∧ s.Accepts j m) IsPlacedAs placed) :
    Canvas.isAcceptable placed n = true ↔ s.Accepts k n := by
  have hshapes : (∃ p ∈ placed, p.resourceId = sanitizeId n.id) ↔
      ∃ j < k, ∃ m, s.Accepts j m ∧ sanitizeId m.id = sanitizeId n.id := by
    constructor
    · rintro ⟨p, hp, heq⟩
      obtain ⟨j, m, ⟨hlt, hm⟩, -, hid⟩ := hplaced.exists_of_mem hp
      exact ⟨j, hlt, m, hm, hid.symm.trans heq⟩
    · rintro ⟨j, hlt, m, hm, heq⟩
      obtain ⟨p, hp, -, hid⟩ := hplaced.exists_mem ⟨hlt, hm⟩
      exact ⟨p, hp, hid.trans heq⟩
  have hids : (∃ p ∈ placed, p.node.id = n.id) →
      ∃ j < k, ∃ m, s.Accepts j m ∧ m.id = n.id := by
    rintro ⟨p, hp, heq⟩
    obtain ⟨j, m, ⟨hlt, hm⟩, hnode, -⟩ := hplaced.exists_of_mem hp
    exact ⟨j, hlt, m, hm, hnode ▸ heq⟩
  simp only [Canvas.isAcceptable, Bool.and_eq_true, Bool.not_eq_true', List.any_eq_false,
    beq_iff_eq]
  constructor
  · rintro ⟨⟨hid, -⟩, hfree⟩
    refine accepts_iff_first.2 ⟨h, hid, fun j hlt m hm hm' heq => ?_⟩
    obtain ⟨i, hle, l, hl, hshape⟩ := exists_accepts hm hm'
    obtain ⟨p, hp, hpid⟩ := hshapes.2 ⟨i, by omega, l, hl, hshape.trans heq⟩
    exact hfree p hp hpid
  · intro hn
    obtain ⟨-, hid, hfirst, hfree⟩ := accepts_iff.1 hn
    refine ⟨⟨hid, fun p hp heq => ?_⟩, fun p hp heq => ?_⟩
    · obtain ⟨j, hlt, m, hm, hmid⟩ := hids ⟨p, hp, heq⟩
      exact hfirst j hlt m hm.getElem? hmid
    · obtain ⟨j, hlt, m, hm, hmid⟩ := hshapes.1 ⟨p, hp, heq⟩
      exact hfree j hlt m hm hmid

theorem lists_placeFrom (before : List Node) {rest : List Node} {placed : List Placed}
    (hs : s.nodes = before ++ rest)
    (hplaced : Lists (fun j m => j < before.length ∧ s.Accepts j m) IsPlacedAs placed) :
    Lists s.Accepts IsPlacedAs (Canvas.placeFrom placed rest) := by
  induction rest generalizing before placed with
  | nil =>
    exact hplaced.congr fun j m => and_iff_right_of_imp fun hm => lt_of_cut_nil hs hm.getElem?
  | cons n rest ih =>
    obtain ⟨hn, hs', hlen⟩ := cut_succ hs
    rw [Canvas.placeFrom]
    split
    · next hok =>
      have hacc := (isAcceptable_iff hn hplaced).1 hok
      refine ih _ hs' (hplaced.concat (fun j m h => h.1) ⟨rfl, rfl⟩ fun j m => ?_)
      rw [hlen, Nat.lt_succ_iff_lt_or_eq, or_and_right]
      refine or_congr_right ⟨?_, ?_⟩
      · rintro ⟨rfl, hm⟩
        exact ⟨rfl, Option.some.inj (hm.getElem?.symm.trans hn)⟩
      · rintro ⟨rfl, rfl⟩
        exact ⟨rfl, hacc⟩
    · next hnot =>
      refine ih _ hs' (hplaced.congr fun j m => ?_)
      rw [hlen, Nat.lt_succ_iff_lt_or_eq, or_and_right]
      refine (or_iff_left ?_).symm
      rintro ⟨rfl, hm⟩
      refine hnot ((isAcceptable_iff hn hplaced).2 ?_)
      rwa [Option.some.inj (hn.symm.trans hm.getElem?)]

/-- **The accepted nodes are placed in order.** -/
theorem lists_place (s : Sketch) : Lists s.Accepts IsPlacedAs (Canvas.place s) :=
  lists_placeFrom [] rfl (Lists.nil fun _ _ h => absurd h.1 (Nat.not_lt_zero _))

theorem mem_place_iff {p : Placed} : p ∈ Canvas.place s ↔
    ∃ k, s.Accepts k p.node ∧ p.resourceId = sanitizeId p.node.id := by
  constructor
  · intro hp
    obtain ⟨k, n, hn, rfl, hid⟩ := (lists_place s).exists_of_mem hp
    exact ⟨k, hn, hid⟩
  · rintro ⟨k, hn, hid⟩
    obtain ⟨q, hq, hnode, hqid⟩ := (lists_place s).exists_mem hn
    obtain ⟨node, resourceId⟩ := p
    obtain ⟨qnode, qid⟩ := q
    cases hnode
    rwa [show resourceId = qid from hid.trans hqid.symm]

/-- **The accepted node with an id** is found by it. -/
theorem placed?_eq_some_iff {p : Placed} :
    Canvas.placed? (Canvas.place s) id = some p ↔ p ∈ Canvas.place s ∧ p.node.id = id := by
  have hid : ∀ {q}, Canvas.placed? (Canvas.place s) id = some q →
      q ∈ Canvas.place s ∧ q.node.id = id := fun hq =>
    ⟨List.mem_of_find?_eq_some hq, by simpa using List.find?_some hq⟩
  refine ⟨hid, fun ⟨hp, hpid⟩ => ?_⟩
  rcases hq : Canvas.placed? (Canvas.place s) id with _ | q
  · exact absurd hpid (by simpa using List.find?_eq_none.1 hq p hp)
  · obtain ⟨hqmem, hqid⟩ := hid hq
    obtain ⟨j, hm, hmid⟩ := mem_place_iff.1 hqmem
    obtain ⟨k, hn, hnid⟩ := mem_place_iff.1 hp
    obtain ⟨-, hnode⟩ := hm.eq hn (by rw [hqid, hpid])
    obtain ⟨node, resourceId⟩ := p
    obtain ⟨qnode, qid⟩ := q
    cases hnode
    rw [show qid = resourceId from hmid.trans hnid.symm]

theorem isAccepted_iff : s.IsAccepted id ↔ ∃ p ∈ Canvas.place s, p.node.id = id := by
  constructor
  · rintro ⟨k, n, hn, rfl⟩
    exact ⟨⟨n, sanitizeId n.id⟩, mem_place_iff.2 ⟨k, hn, rfl⟩, rfl⟩
  · rintro ⟨p, hp, rfl⟩
    obtain ⟨k, hn, -⟩ := mem_place_iff.1 hp
    exact ⟨k, p.node, hn, rfl⟩

end Sketch

end WorkflowCanvas
