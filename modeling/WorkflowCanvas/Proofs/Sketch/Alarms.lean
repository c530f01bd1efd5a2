import WorkflowCanvas.Proofs.Sketch.Review
/-!
# False alarms of a review

A finding that a node or an edge is dropped is made at one occurrence of it
in the sketch (`review_eq`). An edge with an end that is no node is dropped.
A node or an edge whose shape id came before need not be: what had the id
may have been dropped itself, and then the id is free. So all alarms are
true exactly if behind each of them stands something that is kept
(`true_alarms_iff`), which a leftover edge suffices to break
(`drawn_behind_leftover`).
-/


namespace WorkflowCanvas

namespace Sketch

open Canvas (sanitizeId)

variable {s : Sketch} {j k : Nat} {n : Node} {e : Edge} {id : String}

/-- **All alarms are true**: what a finding is made on, as dropped, is
dropped. -/
structure TrueAlarms (s : Sketch) : Prop where
  /-- No node is both behind one with its shape id and accepted. -/
  nodes : ∀ k n, s.Recurs k n → ¬ s.Accepts k n
  /-- No edge both reuses an id and is kept. -/
  ids : ∀ k e, s.Reuses k e → ∀ a, ¬ s.Keeps k a
  /-- No edge with an end that is no node is kept. -/
  ends : ∀ k e, s.edges[k]? = some e → s.Dangles e → ∀ a, ¬ s.Keeps k a

/-- **Something that is kept stands behind every alarm.** -/
structure Grounded (s : Sketch) : Prop where
  /-- A node has its shape id from one before it with an id that is not
  blank, unless its own is blank. -/
  nodes : ∀ k n, s.Recurs k n → (Text.nonBlank? n.id).isSome = true →
    ∃ j < k, ∃ m, s.nodes[j]? = some m ∧ (Text.nonBlank? m.id).isSome = true ∧
      sanitizeId m.id = sanitizeId n.id
  /-- An edge between accepted nodes has its id from one of them or from an
  edge kept before it. -/
  ids : ∀ k e, s.Reuses k e → s.IsAccepted e.source → s.IsAccepted e.target →
    s.InUse k (sanitizeId e.id)

/-! ## Alarms on nodes -/

/-- **A node behind one with its shape id is accepted all the same** exactly
if all before it that have the shape id have blank ids. -/
theorem Recurs.accepts_iff (h : s.Recurs k n) : s.Accepts k n ↔
    (Text.nonBlank? n.id).isSome = true ∧
      ¬ ∃ j < k, ∃ m, s.nodes[j]? = some m ∧ (Text.nonBlank? m.id).isSome = true ∧
        sanitizeId m.id = sanitizeId n.id := by
  rw [accepts_iff_first]
  constructor
  · rintro ⟨-, hid, hfirst⟩
    refine ⟨hid, ?_⟩
    rintro ⟨j, hlt, m, hm, hmid, heq⟩
    exact hfirst j hlt m hm hmid heq
  · rintro ⟨hid, hnone⟩
    exact ⟨h.1, hid, fun j hlt m hm hmid heq => hnone ⟨j, hlt, m, hm, hmid, heq⟩⟩

/-! ## Alarms on edges -/

/-- **An edge that reuses an id is kept all the same** exactly if its ends are
accepted and nothing that is kept has the id. -/
theorem Reuses.keeps_iff (h : s.Reuses k e) : (∃ a, s.Keeps k a) ↔
    s.IsAccepted e.source ∧ s.IsAccepted e.target ∧ ¬ s.InUse k (sanitizeId e.id) := by
  obtain ⟨he, hgiven, -⟩ := h
  rw [exists_keeps_iff he]
  exact and_congr_right fun _ => and_congr_right fun _ => ⟨fun hfree => hfree hgiven, fun h _ => h⟩

/-- An accepted id is the id of a node. -/
theorem IsAccepted.hasNode (h : s.IsAccepted id) : s.hasNode id = true := by
  obtain ⟨k, n, hn, rfl⟩ := h
  exact List.any_eq_true.2 ⟨n, List.mem_of_getElem? hn.getElem?, beq_self_eq_true n.id⟩

/-- **An edge with an end that is no node is dropped.** -/
theorem not_keeps_of_dangles (he : s.edges[k]? = some e) (h : s.Dangles e) (a : Kept) :
    ¬ s.Keeps k a := by
  intro ha
  obtain ⟨hsource, htarget, -⟩ := (exists_keeps_iff he).1 ⟨a, ha⟩
  rcases h with h | h
  · exact Bool.false_ne_true (h.symm.trans hsource.hasNode)
  · exact Bool.false_ne_true (h.symm.trans htarget.hasNode)

/-! ## When all alarms are true -/

/-- All alarms are true exactly if something that is kept stands behind each
of them. -/
theorem trueAlarms_iff_grounded : s.TrueAlarms ↔ s.Grounded := by
  constructor
  · intro h
    refine ⟨fun k n hn hid => ?_, fun k e he hsource htarget => ?_⟩
    · by_contra hnone
      exact h.nodes k n hn (hn.accepts_iff.2 ⟨hid, hnone⟩)
    · by_contra huse
      obtain ⟨a, ha⟩ := he.keeps_iff.2 ⟨hsource, htarget, huse⟩
      exact h.ids k e he a ha
  · intro h
    refine ⟨fun k n hn hacc => ?_, fun k e he a ha => ?_, fun k e he => not_keeps_of_dangles he⟩
    · obtain ⟨hid, hnone⟩ := hn.accepts_iff.1 hacc
      exact hnone (h.nodes k n hn hid)
    · obtain ⟨hsource, htarget, huse⟩ := he.keeps_iff.1 ⟨a, ha⟩
      exact huse (h.ids k e he hsource htarget)

/-- **Where no node has a blank id and every edge with an id leads from an
accepted node to an accepted node**, something that is kept stands behind
every alarm. -/
theorem grounded_of_tidy (hnodes : ∀ n ∈ s.nodes, (Text.nonBlank? n.id).isSome = true)
    (hedges : ∀ e ∈ s.edges, (Text.nonBlank? e.id).isSome = true →
      s.IsAccepted e.source ∧ s.IsAccepted e.target) : s.Grounded := by
  refine ⟨fun k n hn _ => ?_, fun k e he _ _ => ?_⟩
  · obtain ⟨-, j, hlt, m, hm, heq⟩ := hn
    exact ⟨j, hlt, m, hm, hnodes m (List.mem_of_getElem? hm), heq⟩
  · obtain ⟨-, -, ⟨n, hn, heq⟩ | ⟨j, hlt, d, hd, hid, heq⟩⟩ := he
    · exact heq ▸ inUse_of_mem hn (hnodes n hn)
    · obtain ⟨hsource, htarget⟩ := hedges d (List.mem_of_getElem? hd) hid
      exact heq ▸ inUse_after_given hd hlt hid hsource htarget

/-- **When the alarms of a review are true.** What is drawn are the accepted
nodes and the kept edges. A review makes a finding on each node behind one
with its shape id, then on each edge that reuses an id, then on the ends of
edges that are no nodes, and no other finding names anything as dropped. All
that the findings are made on is dropped exactly if something that is kept
stands behind each of them; so it is if no node has a blank id and every
edge with an id is drawn between accepted nodes. -/
theorem true_alarms_iff (settings : Settings) (operations? : Option Registry) (s : Sketch) :
    (∃ nodes edges, (Canvas.ofSketch settings s).childShapes = nodes ++ edges ∧
      Lists s.Accepts (Canvas.IsNodeShape settings) nodes ∧
      Lists s.Keeps Canvas.IsEdgeShape edges) ∧
    (∃ onNodes onIds onEnds others,
      s.review settings operations? = onNodes ++ (onIds ++ (onEnds ++ others)) ∧
      Lists s.Recurs IgnoresNode onNodes ∧
      Lists s.Reuses (fun e f => f = .duplicateEdge e.id (sanitizeId e.id)) onIds ∧
      (∀ f ∈ onEnds, ∃ (k : Nat) (e : Edge), s.edges[k]? = some e ∧ s.Dangles e ∧
        ∃ id, f = .unknownNode e.id id ∧ s.hasNode id = false) ∧
      ∀ f ∈ others, f.ignoredNode? = none ∧ f.droppedEdge? = none) ∧
    (s.TrueAlarms ↔ s.Grounded) ∧
    ((∀ n ∈ s.nodes, (Text.nonBlank? n.id).isSome = true) →
      (∀ e ∈ s.edges, (Text.nonBlank? e.id).isSome = true →
        s.IsAccepted e.source ∧ s.IsAccepted e.target) → s.TrueAlarms) := by
  refine ⟨⟨_, _, Canvas.childShapes_ofSketch settings s, Canvas.lists_isNodeShape settings s,
    Canvas.lists_isEdgeShape settings s⟩, ?_, trueAlarms_iff_grounded,
    fun hnodes hedges => trueAlarms_iff_grounded.2 (grounded_of_tidy hnodes hedges)⟩
  obtain ⟨onNodes, onIds, hnodes, hids, heq⟩ := review_eq settings operations? s
  exact ⟨onNodes, onIds, s.reviewEnds, s.otherFindings settings operations?, heq, hnodes, hids,
    fun _ => exists_of_mem_reviewEnds, fun _ => names_none_of_mem_otherFindings⟩

/-- A sketch with an edge left over from a node that was deleted, and a new
edge of the same id. -/
def leftoverSketch : Sketch where
  nodes := [{ id := "s", outerTag? := "start" }, { id := "g", outerTag? := "end" }]
  edges := [{ id := "e", source := "s", target := "old" }, { id := "e", source := "s", target := "g" }]

/-- **An edge is reported as dropped and drawn.** The edge before it has its
id and is dropped, which leaves the id to it. -/
theorem drawn_behind_leftover :
    leftoverSketch.review .standard none = [.duplicateEdge "e" "e", .unknownNode "e" "old"] ∧
      leftoverSketch.Reuses 1 ⟨"e", "s", "g"⟩ ∧
      (∃ a, leftoverSketch.Keeps 1 a ∧ a.id = "e") ∧
      (Canvas.ofSketch .standard leftoverSketch).childShapes.map
          (fun sh => (sh.resourceId, sh.target?)) =
        [("s", none), ("g", none), ("e", some "g")] ∧
      ¬ leftoverSketch.TrueAlarms := by
  have hreuses : leftoverSketch.Reuses 1 ⟨"e", "s", "g"⟩ :=
    ⟨rfl, by decide, Or.inr ⟨0, Nat.zero_lt_one, ⟨"e", "s", "old"⟩, rfl, by decide, rfl⟩⟩
  have hsource : leftoverSketch.IsAccepted "s" :=
    ⟨0, _, accepts_iff_first.2 ⟨rfl, by decide, fun j hlt => absurd hlt (Nat.not_lt_zero j)⟩, rfl⟩
  have htarget : leftoverSketch.IsAccepted "g" := by
    refine ⟨1, _, accepts_iff_first.2 ⟨rfl, by decide, fun j hlt m hm _ => ?_⟩, rfl⟩
    obtain rfl : j = 0 := by omega
    cases Option.some.inj hm
    decide
  have hfree : ¬ leftoverSketch.InUse 1 "e" := by
    rintro (⟨j, n, hn, hid⟩ | ⟨j, hlt, b, hb, -⟩)
    · have hnodes : ∀ n ∈ leftoverSketch.nodes, sanitizeId n.id ≠ "e" := by decide
      exact hnodes n (List.mem_of_getElem? hn.getElem?) hid
    · obtain rfl : j = 0 := by omega
      exact not_keeps_of_dangles (e := ⟨"e", "s", "old"⟩) rfl (Or.inr rfl) b hb
  obtain ⟨a, ha⟩ := hreuses.keeps_iff.2 ⟨hsource, htarget, hfree⟩
  have hid : a.id = "e" := by
    have hclaim := ha.claimsId.2
    rw [← Option.some.inj ha.getElem?] at hclaim
    exact hclaim
  exact ⟨by decide +kernel, hreuses, ⟨a, ha, hid⟩, by decide +kernel,
    fun htrue => htrue.ids 1 _ hreuses a ha⟩

end Sketch

end WorkflowCanvas
