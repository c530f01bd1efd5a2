import WorkflowCanvas.Proofs.Canvas.Wiring
import WorkflowCanvas.Sketch.Review
/-!
# What a review says of what is dropped

A review names the nodes that come behind a node with their shape id
(`mem_ignoredNodes_iff`), the edges with an explicit id that a node or an
edge before them has, and the edges with an end that is no node
(`mem_droppedEdges_iff`). It goes by all nodes and edges, and not by what is
accepted and kept: of what is dropped it may miss nodes with blank ids,
edges to nodes that were dropped themselves, and edges whose id was made up
for another edge, and it misses nothing else (`reports_dropped_iff`).
-/


namespace WorkflowCanvas

namespace Sketch

open Canvas (sanitizeId)

namespace Finding

/-- The node that a finding names as the ignored one. -/
def ignoredNode? : Finding → Option String
  | .duplicateNode id => some id
  | .nodeCollision id _ _ => some id
  | _ => none

/-- The edge that a finding names as dropped. -/
def droppedEdge? : Finding → Option String
  | .duplicateEdge id _ => some id
  | .unknownNode edge _ => some edge
  | _ => none

/-- The finding is one on the operation of a node. -/
def isOnOperation : Finding → Bool
  | .missingOperation _ | .unknownOperation _ _ => true
  | _ => false

end Finding

/-- The nodes that a review names as ignored. -/
def ignoredNodes (settings : Settings) (operations? : Option Registry) (s : Sketch) :
    List String :=
  (s.review settings operations?).filterMap Finding.ignoredNode?

/-- The edges that a review names as dropped. -/
def droppedEdges (settings : Settings) (operations? : Option Registry) (s : Sketch) :
    List String :=
  (s.review settings operations?).filterMap Finding.droppedEdge?

/-- **The node comes behind one with its shape id.** -/
def Recurs (s : Sketch) (k : Nat) (n : Node) : Prop :=
  s.nodes[k]? = some n ∧ ∃ j < k, ∃ m, s.nodes[j]? = some m ∧ sanitizeId m.id = sanitizeId n.id

/-- **The edge was given an id** that a node has, or an edge before it was
given. -/
def Reuses (s : Sketch) (k : Nat) (e : Edge) : Prop :=
  s.edges[k]? = some e ∧ (Text.nonBlank? e.id).isSome = true ∧
    ((∃ n ∈ s.nodes, sanitizeId n.id = sanitizeId e.id) ∨
      ∃ j < k, ∃ d, s.edges[j]? = some d ∧ (Text.nonBlank? d.id).isSome = true ∧
        sanitizeId d.id = sanitizeId e.id)

/-- **An end of the edge is no node.** -/
def Dangles (s : Sketch) (e : Edge) : Prop :=
  s.hasNode e.source = false ∨ s.hasNode e.target = false

variable {s : Sketch} {settings : Settings} {operations? : Option Registry} {id : String}
variable {k : Nat} {n : Node} {e : Edge}

/-! ## Findings on nodes -/

theorem isSome_lookup_cons {claims : Claims} {shapeId owner : String} :
    (List.lookup id ((shapeId, owner) :: claims)).isSome = true ↔
      id = shapeId ∨ (claims.lookup id).isSome = true := by
  rw [List.lookup_cons]
  by_cases h : id = shapeId
  · simp [h]
  · simp [h, beq_eq_false_iff_ne.2 h]

section Nodes

variable {before rest : List Node} {seen : List String} {claims : Claims}

/-- What is known of the nodes before a position: their ids have been seen,
and their shape ids are claimed. -/
structure Noted (before : List Node) (seen : List String) (claims : Claims) : Prop where
  seen : ∀ id, id ∈ seen ↔ ∃ m ∈ before, m.id = id
  claimed : ∀ id, (claims.lookup id).isSome = true ↔ ∃ m ∈ before, sanitizeId m.id = id

theorem noted_nil : Noted [] [] [] :=
  ⟨fun _ => iff_of_false List.not_mem_nil (by simp), fun _ => iff_of_false (by simp) (by simp)⟩

/-- A node with an id that was seen brings nothing new. -/
theorem Noted.seen_again (h : Noted before seen claims) (hid : n.id ∈ seen) :
    Noted (before ++ [n]) seen claims := by
  obtain ⟨m, hm, heq⟩ := (h.seen n.id).1 hid
  refine ⟨fun id => ?_, fun id => ?_⟩
  · rw [h.seen, exists_mem_concat_iff, or_iff_left_of_imp]
    exact fun hid => ⟨m, hm, heq.trans hid⟩
  · rw [h.claimed, exists_mem_concat_iff, or_iff_left_of_imp]
    exact fun hid => ⟨m, hm, (congrArg sanitizeId heq).trans hid⟩

/-- A node whose shape id is claimed brings its id. -/
theorem Noted.collide (h : Noted before seen claims)
    (hid : (claims.lookup (sanitizeId n.id)).isSome = true) :
    Noted (before ++ [n]) (n.id :: seen) claims := by
  obtain ⟨m, hm, heq⟩ := (h.claimed _).1 hid
  refine ⟨fun id => ?_, fun id => ?_⟩
  · rw [List.mem_cons, h.seen, exists_mem_concat_iff, or_comm, eq_comm]
  · rw [h.claimed, exists_mem_concat_iff, or_iff_left_of_imp]
    exact fun hid => ⟨m, hm, heq.trans hid⟩

/-- Any other node brings its id and its shape id. -/
theorem Noted.claim (h : Noted before seen claims) :
    Noted (before ++ [n]) (n.id :: seen) ((sanitizeId n.id, n.id) :: claims) := by
  refine ⟨fun id => ?_, fun id => ?_⟩
  · rw [List.mem_cons, h.seen, exists_mem_concat_iff, or_comm, eq_comm]
  · rw [isSome_lookup_cons, h.claimed, exists_mem_concat_iff, or_comm, eq_comm]

/-- The finding names the node as the ignored one. -/
def IgnoresNode (n : Node) (f : Finding) : Prop :=
  f = .duplicateNode n.id ∨ ∃ existing, f = .nodeCollision n.id existing (sanitizeId n.id)

theorem IgnoresNode.ignoredNode?_eq {f : Finding} (h : IgnoresNode n f) :
    f.ignoredNode? = some n.id := by
  rcases h with rfl | ⟨existing, rfl⟩ <;> rfl

/-- **What a review finds on one node**: it names it if its shape id has been
claimed, and goes on. -/
theorem reviewNodes_cons (h : Noted before seen claims) (n : Node) (rest : List Node) :
    ∃ findings seen' claims', Noted (before ++ [n]) seen' claims' ∧
      reviewNodes seen claims (n :: rest) =
        (findings ++ (reviewNodes seen' claims' rest).1, (reviewNodes seen' claims' rest).2) ∧
      ((∃ m ∈ before, sanitizeId m.id = sanitizeId n.id) ∧ (∃ f, findings = [f] ∧ IgnoresNode n f) ∨
        (¬ ∃ m ∈ before, sanitizeId m.id = sanitizeId n.id) ∧ findings = []) := by
  -- a node is named in both of the cases in which its shape id has come before
  rw [reviewNodes]
  by_cases hdup : n.id ∈ seen
  · obtain ⟨m, hm, heq⟩ := (h.seen n.id).1 hdup
    rw [if_pos (List.contains_iff_mem.2 hdup)]
    exact ⟨[.duplicateNode n.id], seen, claims, h.seen_again hdup, rfl,
      Or.inl ⟨⟨m, hm, congrArg sanitizeId heq⟩, _, rfl, Or.inl rfl⟩⟩
  · rw [if_neg (mt List.contains_iff_mem.1 hdup)]
    rcases hlookup : claims.lookup (sanitizeId n.id) with _ | existing
    · have hfree : ¬ ∃ m ∈ before, sanitizeId m.id = sanitizeId n.id := by
        rw [← h.claimed, hlookup]
        exact Bool.false_ne_true
      exact ⟨[], n.id :: seen, _, h.claim, by simp only [hlookup]; rfl, Or.inr ⟨hfree, rfl⟩⟩
    · have hclaimed : (claims.lookup (sanitizeId n.id)).isSome = true := by rw [hlookup]; rfl
      exact ⟨[.nodeCollision n.id existing (sanitizeId n.id)], n.id :: seen, claims,
        h.collide hclaimed, by simp only [hlookup]; rfl,
        Or.inl ⟨(h.claimed _).1 hclaimed, _, rfl, Or.inr ⟨existing, rfl⟩⟩⟩

/-- The node at a position is behind one with its shape id exactly if one of
those before it has the shape id. -/
theorem recurs_length_iff {n' : Node} (hs : s.nodes = before ++ n :: rest) :
    s.Recurs before.length n' ↔
      n' = n ∧ ∃ m ∈ before, sanitizeId m.id = sanitizeId n.id := by
  obtain ⟨hn, -⟩ := cut_succ hs
  rw [Recurs, exists_lt_getElem?_iff hs, hn, Option.some_inj, eq_comm (a := n)]
  exact and_congr_right fun h => by rw [h]

/-- **The findings on the nodes** are made on those that come behind one with
their shape id, in order, and the shape ids of all nodes are claimed
afterwards. -/
theorem reviewNodes_spec (before : List Node) (hs : s.nodes = before ++ rest)
    (h : Noted before seen claims) :
    Lists (fun k n => before.length ≤ k ∧ s.Recurs k n) IgnoresNode (reviewNodes seen claims rest).1 ∧
    ∀ id, ((reviewNodes seen claims rest).2.lookup id).isSome = true ↔
      ∃ m ∈ s.nodes, sanitizeId m.id = id := by
  induction rest generalizing before seen claims with
  | nil =>
    refine ⟨Lists.nil ?_, ?_⟩
    · rintro k n ⟨hle, hn, -⟩
      exact absurd (lt_of_cut_nil hs hn) (Nat.not_lt.2 hle)
    · rw [hs, List.append_nil]
      exact h.claimed
  | cons n rest ih =>
    obtain ⟨-, hs', hlen⟩ := cut_succ hs
    obtain ⟨findings, seen', claims', hnoted, heq, hfindings⟩ := reviewNodes_cons h n rest
    obtain ⟨hfound, hclaimed⟩ := ih _ hs' hnoted
    rw [heq]
    refine ⟨?_, hclaimed⟩
    rw [hlen] at hfound
    rcases hfindings with ⟨hrecurs, f, rfl, hf⟩ | ⟨hnot, rfl⟩
    · refine hfound.cons_ahead (fun m => ?_) hf
      rw [recurs_length_iff hs, and_iff_left hrecurs]
    · exact hfound.skip_ahead fun m hm => hnot ((recurs_length_iff hs).1 hm).2

end Nodes

/-! ## Findings on edges -/

section Edges

variable {before rest : List Edge} {claims : Claims}

/-- The shape ids that are claimed before an edge: those of all nodes, and
those that edges before it were given. -/
def Holds (s : Sketch) (before : List Edge) (claims : Claims) : Prop :=
  ∀ id, (claims.lookup id).isSome = true ↔
    (∃ n ∈ s.nodes, sanitizeId n.id = id) ∨
      ∃ d ∈ before, (Text.nonBlank? d.id).isSome = true ∧ sanitizeId d.id = id

/-- An edge that brings no new id. -/
theorem Holds.keep (h : s.Holds before claims)
    (hid : (Text.nonBlank? e.id).isSome = true → (claims.lookup (sanitizeId e.id)).isSome = true) :
    s.Holds (before ++ [e]) claims := by
  intro id
  rw [exists_mem_concat_iff, ← or_assoc, ← h id, or_iff_left_of_imp]
  rintro ⟨hgiven, rfl⟩
  exact hid hgiven

/-- An edge that brings the id that it was given. -/
theorem Holds.claim (h : s.Holds before claims) (hid : (Text.nonBlank? e.id).isSome = true) :
    s.Holds (before ++ [e]) ((sanitizeId e.id, e.id) :: claims) := by
  intro id
  rw [isSome_lookup_cons, exists_mem_concat_iff, ← or_assoc, ← h id, or_comm,
    eq_comm (a := id) (b := sanitizeId e.id), and_iff_right hid]

/-- The edge at a position reuses an id exactly if its shape id is claimed by
then. -/
theorem reuses_length_iff {d : Edge} (hs : s.edges = before ++ e :: rest)
    (h : s.Holds before claims) :
    s.Reuses before.length d ↔ d = e ∧ (Text.nonBlank? e.id).isSome = true ∧
      (claims.lookup (sanitizeId e.id)).isSome = true := by
  obtain ⟨he, -⟩ := cut_succ hs
  rw [Reuses, exists_lt_getElem?_iff hs, he, Option.some_inj, eq_comm (a := e), h]
  exact and_congr_right fun heq => by rw [heq]

/-- **The findings on the ids of edges** are made on those that reuse an id,
in order. -/
theorem reviewEdges_spec (before : List Edge) (hs : s.edges = before ++ rest)
    (h : s.Holds before claims) :
    Lists (fun k e => before.length ≤ k ∧ s.Reuses k e)
      (fun e f => f = .duplicateEdge e.id (sanitizeId e.id)) (reviewEdges claims rest) := by
  induction rest generalizing before claims with
  | nil =>
    refine Lists.nil ?_
    rintro k e ⟨hle, he, -⟩
    exact absurd (lt_of_cut_nil hs he) (Nat.not_lt.2 hle)
  | cons e rest ih =>
    obtain ⟨-, hs', hlen⟩ := cut_succ hs
    rw [reviewEdges]
    by_cases hgiven : (Text.nonBlank? e.id).isSome = true
    · rw [if_pos hgiven]
      by_cases hclaimed : (claims.lookup (sanitizeId e.id)).isSome = true
      · have hahead := ih _ hs' (h.keep fun _ => hclaimed)
        rw [hlen] at hahead
        simp only [if_pos hclaimed]
        refine hahead.cons_ahead (fun d => ?_) rfl
        rw [reuses_length_iff hs h, and_iff_left ⟨hgiven, hclaimed⟩]
      · have hahead := ih _ hs' (h.claim hgiven)
        rw [hlen] at hahead
        simp only [if_neg hclaimed]
        exact hahead.skip_ahead fun d hd => hclaimed ((reuses_length_iff hs h).1 hd).2.2
    · -- an edge that was given no id claims none, whatever is made up for it
      have hahead := ih _ hs' (h.keep fun hid => absurd hid hgiven)
      rw [hlen] at hahead
      rw [if_neg hgiven]
      exact hahead.skip_ahead fun d hd => hgiven ((reuses_length_iff hs h).1 hd).2.1

end Edges

/-- A finding on the ends of edges is made on an edge with an end that is no
node. -/
theorem exists_of_mem_reviewEnds {f : Finding} (h : f ∈ s.reviewEnds) :
    ∃ (k : Nat) (e : Edge), s.edges[k]? = some e ∧ s.Dangles e ∧
      ∃ id, f = .unknownNode e.id id ∧ s.hasNode id = false := by
  obtain ⟨e, he, hf⟩ := List.mem_flatMap.1 h
  obtain ⟨node, hnode, rfl⟩ := List.mem_map.1 hf
  obtain ⟨hmem, hnot⟩ := List.mem_filter.1 hnode
  rw [Bool.not_eq_true'] at hnot
  obtain ⟨k, hk⟩ := List.mem_iff_getElem?.1 he
  refine ⟨k, e, hk, ?_, node, rfl, hnot⟩
  rcases List.mem_cons.1 hmem with rfl | hmem
  · exact Or.inl hnot
  · exact Or.inr (List.mem_singleton.1 hmem ▸ hnot)

/-- The findings on the ends of edges name those with an end that is no
node. -/
theorem reviewEnds_spec (s : Sketch) (id : String) :
    id ∈ s.reviewEnds.filterMap Finding.droppedEdge? ↔
      ∃ e ∈ s.edges, s.Dangles e ∧ e.id = id := by
  constructor
  · intro h
    obtain ⟨f, hf, hid⟩ := List.mem_filterMap.1 h
    obtain ⟨k, e, he, hdangles, node, rfl, -⟩ := exists_of_mem_reviewEnds hf
    exact ⟨e, List.mem_of_getElem? he, hdangles, Option.some.inj hid⟩
  · simp only [reviewEnds, List.mem_filterMap, List.mem_flatMap, List.mem_map, List.mem_filter]
    rintro ⟨e, he, hdangles, rfl⟩
    rcases hdangles with hnot | hnot
    · exact ⟨_, ⟨e, he, e.source, ⟨List.mem_cons_self, by rw [hnot]; rfl⟩, rfl⟩, rfl⟩
    · exact ⟨_, ⟨e, he, e.target,
        ⟨List.mem_cons_of_mem _ (List.mem_singleton_self _), by rw [hnot]; rfl⟩, rfl⟩, rfl⟩

/-! ## What a review names -/

section Named

variable {f : Finding}

/-- Findings on the ends of edges name no node. -/
theorem ignoredNode?_of_mem_reviewEnds (h : f ∈ s.reviewEnds) : f.ignoredNode? = none := by
  obtain ⟨-, e, -, -, node, rfl, -⟩ := exists_of_mem_reviewEnds h
  rfl

/-- **A finding on the operation of a node.** -/
inductive FindsOperation (settings : Settings) (operations? : Option Registry) (n : Node) :
    Finding → Prop
  /-- A step that is dispatched names no operation. -/
  | missing : n.operationId? = none → (settings.mappingFor n.typeTag?).stencil = dispatchedStencil →
      FindsOperation settings operations? n (.missingOperation n.id)
  /-- An operation is not registered. -/
  | unknown {registry : Registry} {operation : String} : operations? = some registry →
      n.operationId? = some operation → registry.contains operation = false →
      FindsOperation settings operations? n (.unknownOperation n.id operation)

theorem mem_reviewOperation_iff :
    f ∈ reviewOperation settings operations? n ↔ FindsOperation settings operations? n f := by
  constructor
  · intro h
    unfold reviewOperation at h
    split at h
    · next hnone =>
      split at h
      · next hstencil => exact List.mem_singleton.1 h ▸ .missing hnone hstencil
      · cases h
    · next operation hsome =>
      split at h
      · next registry =>
        split at h
        · cases h
        · next hnot => exact List.mem_singleton.1 h ▸ .unknown rfl hsome (Bool.eq_false_iff.2 hnot)
      · cases h
  · rintro (⟨hnone, hstencil⟩ | ⟨rfl, hsome, hnot⟩)
    · simp only [reviewOperation, hnone, if_pos hstencil, List.mem_singleton]
    · simp only [reviewOperation, hsome, hnot, Bool.false_eq_true, if_false, List.mem_singleton]

/-- The findings of a review that are about nothing that is dropped. -/
def otherFindings (settings : Settings) (operations? : Option Registry) (s : Sketch) :
    List Finding :=
  s.reviewOrphans ++ (if s.hasTag "start" then [] else [.missingStart])
    ++ (if s.hasTag "end" then [] else [.missingEnd])
    ++ s.nodes.flatMap (reviewOperation settings operations?)

/-- **A finding about nothing that is dropped.** -/
inductive FindsOther (settings : Settings) (operations? : Option Registry) (s : Sketch) :
    Finding → Prop
  | orphaned {n : Node} : n ∈ s.nodes → s.isConnected n.id = false →
      FindsOther settings operations? s (.orphanedNode n.id)
  | noStart : s.hasTag "start" = false → FindsOther settings operations? s .missingStart
  | noEnd : s.hasTag "end" = false → FindsOther settings operations? s .missingEnd
  | operation {n : Node} {f : Finding} : n ∈ s.nodes → FindsOperation settings operations? n f →
      FindsOther settings operations? s f

theorem findsOther_of_mem (h : f ∈ s.otherFindings settings operations?) :
    FindsOther settings operations? s f := by
  simp only [otherFindings, List.mem_append] at h
  rcases h with ((h | h) | h) | h
  · unfold reviewOrphans at h
    split at h
    · obtain ⟨n, hn, rfl⟩ := List.mem_map.1 h
      obtain ⟨hmem, hnot⟩ := List.mem_filter.1 hn
      exact .orphaned hmem (Bool.not_eq_true' _ ▸ hnot)
    · cases h
  · split at h
    · cases h
    · next hnot => exact List.mem_singleton.1 h ▸ .noStart (Bool.eq_false_iff.2 hnot)
  · split at h
    · cases h
    · next hnot => exact List.mem_singleton.1 h ▸ .noEnd (Bool.eq_false_iff.2 hnot)
  · obtain ⟨n, hn, h⟩ := List.mem_flatMap.1 h
    exact .operation hn (mem_reviewOperation_iff.1 h)

theorem names_none_of_mem_otherFindings (h : f ∈ s.otherFindings settings operations?) :
    f.ignoredNode? = none ∧ f.droppedEdge? = none := by
  cases findsOther_of_mem h with
  | orphaned | noStart | noEnd => exact ⟨rfl, rfl⟩
  | operation _ hf => cases hf <;> exact ⟨rfl, rfl⟩

/-- **What a review comes to**: findings on the nodes that come behind one with
their shape id, then on the edges that reuse an id, each in the order of the
sketch, then on the ends of edges, and then the others. -/
theorem review_eq (settings : Settings) (operations? : Option Registry) (s : Sketch) :
    ∃ onNodes onIds, Lists s.Recurs IgnoresNode onNodes ∧
      Lists s.Reuses (fun e f => f = .duplicateEdge e.id (sanitizeId e.id)) onIds ∧
      s.review settings operations? =
        onNodes ++ (onIds ++ (s.reviewEnds ++ s.otherFindings settings operations?)) := by
  obtain ⟨hnodes, hclaims⟩ := reviewNodes_spec (s := s) [] rfl noted_nil
  have hholds : s.Holds [] (reviewNodes [] [] s.nodes).2 := fun id => by
    rw [hclaims]
    exact (or_iff_left (by simp)).symm
  refine ⟨_, _, hnodes.congr fun k n => and_iff_right (Nat.zero_le k),
    (reviewEdges_spec [] rfl hholds).congr fun k e => and_iff_right (Nat.zero_le k), ?_⟩
  simp only [review, otherFindings, List.append_assoc]

/-- **What is neither an ignored node nor a dropped edge** is found among the
others. -/
theorem mem_review_iff (hnode : f.ignoredNode? = none) (hedge : f.droppedEdge? = none) :
    f ∈ s.review settings operations? ↔ f ∈ s.otherFindings settings operations? := by
  obtain ⟨onNodes, onIds, hnodes, hids, heq⟩ := review_eq settings operations? s
  rw [heq, List.mem_append, List.mem_append, List.mem_append, or_iff_right, or_iff_right,
    or_iff_right]
  · intro hf
    obtain ⟨-, e, -, -, id, rfl, -⟩ := exists_of_mem_reviewEnds hf
    cases hedge
  · intro hf
    obtain ⟨-, e, -, rfl⟩ := hids.exists_of_mem hf
    cases hedge
  · intro hf
    obtain ⟨-, n, -, hn⟩ := hnodes.exists_of_mem hf
    cases hn.ignoredNode?_eq.symm.trans hnode

/-- **A start is found missing** exactly if no node is tagged as one. -/
theorem missingStart_mem_review_iff : .missingStart ∈ s.review settings operations? ↔
    ∀ n ∈ s.nodes, n.typeTag? ≠ some "start" := by
  have htag : s.hasTag "start" = false ↔ ∀ n ∈ s.nodes, n.typeTag? ≠ some "start" := by
    rw [hasTag, List.any_eq_false]
    exact forall₂_congr fun n _ => by rw [beq_iff_eq]
  rw [mem_review_iff rfl rfl, ← htag]
  constructor
  · intro h
    cases findsOther_of_mem h with
    | noStart hnot => exact hnot
    | operation _ hf => cases hf
  · intro hnot
    simp [otherFindings, hnot]

/-- **What is found on the operation of a node** is found in the review. -/
theorem mem_review_of_findsOperation (hn : n ∈ s.nodes)
    (hf : FindsOperation settings operations? n f) : f ∈ s.review settings operations? := by
  have hnames : f.ignoredNode? = none ∧ f.droppedEdge? = none := by
    cases hf <;> exact ⟨rfl, rfl⟩
  rw [mem_review_iff hnames.1 hnames.2, otherFindings]
  exact List.mem_append_right _ (List.mem_flatMap.2 ⟨n, hn, mem_reviewOperation_iff.2 hf⟩)

/-- **A review has nothing to say on operations** exactly if every node that is
dispatched names one, and every operation that is named is registered. -/
theorem forall_isOnOperation_eq_false_iff {registry : Registry} :
    (∀ f ∈ s.review settings (some registry), f.isOnOperation = false) ↔
      ∀ n ∈ s.nodes,
        (n.operationId? = none → (settings.mappingFor n.typeTag?).stencil ≠ dispatchedStencil) ∧
          ∀ operation, n.operationId? = some operation → registry.contains operation = true := by
  constructor
  · intro h n hn
    refine ⟨fun hnone hstencil => ?_, fun operation hsome => ?_⟩
    · cases h _ (mem_review_of_findsOperation hn (.missing hnone hstencil))
    · by_contra hnot
      cases h _ (mem_review_of_findsOperation hn (.unknown rfl hsome (Bool.eq_false_iff.2 hnot)))
  · intro h f hf
    by_contra hon
    have hnames : f.ignoredNode? = none ∧ f.droppedEdge? = none := by
      cases f <;> first | exact ⟨rfl, rfl⟩ | exact absurd rfl hon
    cases findsOther_of_mem ((mem_review_iff hnames.1 hnames.2).1 hf) with
    | orphaned | noStart | noEnd => exact hon rfl
    | operation hn hfinds =>
      cases hfinds with
      | missing hnone hstencil => exact (h _ hn).1 hnone hstencil
      | unknown hregistry hsome hnot =>
        cases hregistry
        exact Bool.false_ne_true (hnot.symm.trans ((h _ hn).2 _ hsome))

/-- **The nodes that a review names** are those behind one with their shape
id. -/
theorem mem_ignoredNodes_iff : id ∈ s.ignoredNodes settings operations? ↔
    ∃ k n, s.Recurs k n ∧ n.id = id := by
  obtain ⟨onNodes, onIds, hnodes, hids, heq⟩ := review_eq settings operations? s
  rw [ignoredNodes, heq, List.mem_filterMap]
  constructor
  · rintro ⟨f, hf, hid⟩
    rcases List.mem_append.1 hf with hf | hf
    · obtain ⟨k, n, hn, hnf⟩ := hnodes.exists_of_mem hf
      exact ⟨k, n, hn, Option.some.inj (hnf.ignoredNode?_eq.symm.trans hid)⟩
    · -- nothing else names a node
      have hnone : f.ignoredNode? = none := by
        rcases List.mem_append.1 hf with hf | hf
        · obtain ⟨k, e, -, rfl⟩ := hids.exists_of_mem hf
          rfl
        · rcases List.mem_append.1 hf with hf | hf
          · exact ignoredNode?_of_mem_reviewEnds hf
          · exact (names_none_of_mem_otherFindings hf).1
      rw [hnone] at hid
      cases hid
  · rintro ⟨k, n, hn, rfl⟩
    obtain ⟨f, hf, hnf⟩ := hnodes.exists_mem hn
    exact ⟨f, List.mem_append_left _ hf, hnf.ignoredNode?_eq⟩

/-- **The edges that a review names** are those that reuse an id and those
with an end that is no node. -/
theorem mem_droppedEdges_iff : id ∈ s.droppedEdges settings operations? ↔
    (∃ k e, s.Reuses k e ∧ e.id = id) ∨ ∃ e ∈ s.edges, s.Dangles e ∧ e.id = id := by
  obtain ⟨onNodes, onIds, hnodes, hids, heq⟩ := review_eq settings operations? s
  have hnone : ∀ f ∈ onNodes, f.droppedEdge? = none := by
    intro f hf
    obtain ⟨k, n, -, rfl | ⟨existing, rfl⟩⟩ := hnodes.exists_of_mem hf <;> rfl
  have hreuses : id ∈ onIds.filterMap Finding.droppedEdge? ↔ ∃ k e, s.Reuses k e ∧ e.id = id := by
    rw [List.mem_filterMap]
    constructor
    · rintro ⟨f, hf, hid⟩
      obtain ⟨k, e, he, rfl⟩ := hids.exists_of_mem hf
      exact ⟨k, e, he, Option.some.inj hid⟩
    · rintro ⟨k, e, he, rfl⟩
      obtain ⟨f, hf, rfl⟩ := hids.exists_mem he
      exact ⟨_, hf, rfl⟩
  rw [droppedEdges, heq, List.filterMap_append, List.filterMap_append, List.filterMap_append,
    List.filterMap_eq_nil_iff.2 hnone, List.filterMap_eq_nil_iff.2 fun f hf => (names_none_of_mem_otherFindings hf).2,
    List.nil_append, List.append_nil, List.mem_append, hreuses, reviewEnds_spec]

end Named

/-! ## What of the dropped is named -/

/-- An end of the edge is a node that was dropped itself. -/
def EndIgnored (s : Sketch) (e : Edge) : Prop :=
  ∃ id, (id = e.source ∨ id = e.target) ∧ s.hasNode id = true ∧ ¬ s.IsAccepted id

/-- The edge was given an id that had been made up for an edge before it. -/
def MeetsMadeUp (s : Sketch) (k : Nat) (e : Edge) : Prop :=
  (Text.nonBlank? e.id).isSome = true ∧
    ∃ j < k, ∃ b, s.Keeps j b ∧ Text.nonBlank? b.edge.id = none ∧ b.id = sanitizeId e.id

/-- A node that is dropped though its id is not blank comes behind one with
its shape id. -/
theorem recurs_of_not_accepts (hn : s.nodes[k]? = some n)
    (hid : (Text.nonBlank? n.id).isSome = true) (hnot : ¬ s.Accepts k n) : s.Recurs k n := by
  rw [accepts_iff_first] at hnot
  push Not at hnot
  obtain ⟨j, hlt, m, hm, -, heq⟩ := hnot hn hid
  exact ⟨hn, j, hlt, m, hm, heq⟩

/-- **Why an edge is dropped.** -/
inductive Reason (s : Sketch) (k : Nat) (e : Edge) : Prop where
  | dangles (h : s.Dangles e)
  | endIgnored (h : s.EndIgnored e)
  | reuses (h : s.Reuses k e)
  | meetsMadeUp (h : s.MeetsMadeUp k e)

/-- An end that is not accepted is a reason. -/
theorem Reason.of_end (hid : id = e.source ∨ id = e.target) (hnot : ¬ s.IsAccepted id) :
    s.Reason k e := by
  rcases hnode : s.hasNode id with _ | _
  · rcases hid with rfl | rfl
    · exact .dangles (Or.inl hnode)
    · exact .dangles (Or.inr hnode)
  · exact .endIgnored ⟨id, hid, hnode, hnot⟩

/-- An id that is in use is a reason: some node has it, or an edge before,
which was given the id or had it made up. -/
theorem Reason.of_inUse (he : s.edges[k]? = some e) (hid : (Text.nonBlank? e.id).isSome = true)
    (huse : s.InUse k (sanitizeId e.id)) : s.Reason k e := by
  rcases huse with ⟨j, n, hn, heq⟩ | ⟨j, hlt, b, hb, heq⟩
  · exact .reuses ⟨he, hid, Or.inl ⟨n, List.mem_of_getElem? hn.getElem?, heq⟩⟩
  · by_cases hgiven : (Text.nonBlank? b.edge.id).isSome = true
    · have hbid := hb.claimsId.2
      rw [if_pos hgiven] at hbid
      exact .reuses ⟨he, hid, Or.inr ⟨j, hlt, b.edge, hb.getElem?, hgiven, hbid.symm.trans heq⟩⟩
    · exact .meetsMadeUp ⟨hid, j, hlt, b, hb, Option.not_isSome_iff_eq_none.1 hgiven, heq⟩

/-- **There is a reason for every edge that is dropped.** -/
theorem reason_of_not_keeps (he : s.edges[k]? = some e) (hnot : ∀ a, ¬ s.Keeps k a) :
    s.Reason k e := by
  by_cases hsource : s.IsAccepted e.source
  · by_cases htarget : s.IsAccepted e.target
    · have huse : ¬ ((Text.nonBlank? e.id).isSome = true → ¬ s.InUse k (sanitizeId e.id)) := by
        intro hfree
        obtain ⟨a, ha⟩ := (exists_keeps_iff he).2 ⟨hsource, htarget, hfree⟩
        exact hnot a ha
      push Not at huse
      exact .of_inUse he huse.1 huse.2
    · exact .of_end (Or.inr rfl) htarget
  · exact .of_end (Or.inl rfl) hsource

/-- An edge between dropped nodes, or under an id made up for another, is
dropped. -/
theorem not_keeps_of (he : s.edges[k]? = some e) (h : s.EndIgnored e ∨ s.MeetsMadeUp k e)
    (a : Kept) : ¬ s.Keeps k a := by
  intro ha
  obtain ⟨hsource, htarget, hfree⟩ := (exists_keeps_iff he).1 ⟨a, ha⟩
  rcases h with ⟨id, rfl | rfl, -, hnot⟩ | ⟨hid, j, hlt, b, hb, -, heq⟩
  · exact hnot hsource
  · exact hnot htarget
  · exact hfree hid (Or.inr ⟨j, hlt, b, hb, heq⟩)

/-- **What of the dropped a review names.** What is drawn are the accepted
nodes and the kept edges. All other nodes are named exactly if those with a
blank id are, which takes a node of that id that comes behind one with its
shape id. All other edges are named exactly if those are that lead to a
dropped node or were given an id that had been made up, which takes an edge
of that id that is named for another reason. -/
theorem reports_dropped_iff (settings : Settings) (operations? : Option Registry) (s : Sketch) :
    (∃ nodes edges, (Canvas.ofSketch settings s).childShapes = nodes ++ edges ∧
      Lists s.Accepts (Canvas.IsNodeShape settings) nodes ∧
      Lists s.Keeps Canvas.IsEdgeShape edges) ∧
    ((∀ k n, s.nodes[k]? = some n → ¬ s.Accepts k n → n.id ∈ s.ignoredNodes settings operations?) ↔
      ∀ n ∈ s.nodes, Text.nonBlank? n.id = none → ∃ k m, s.Recurs k m ∧ m.id = n.id) ∧
    ((∀ k e, s.edges[k]? = some e → (∀ a, ¬ s.Keeps k a) →
        e.id ∈ s.droppedEdges settings operations?) ↔
      ∀ k e, s.edges[k]? = some e → s.EndIgnored e ∨ s.MeetsMadeUp k e →
        (∃ j d, s.Reuses j d ∧ d.id = e.id) ∨ ∃ d ∈ s.edges, s.Dangles d ∧ d.id = e.id) := by
  refine ⟨⟨_, _, Canvas.childShapes_ofSketch settings s, Canvas.lists_isNodeShape settings s,
    Canvas.lists_isEdgeShape settings s⟩, ?_⟩
  simp only [mem_ignoredNodes_iff, mem_droppedEdges_iff]
  refine ⟨⟨fun h n hn hblank => ?_, fun h k n hn hnot => ?_⟩,
    ⟨fun h k e he hwhy => h k e he (not_keeps_of he hwhy), fun h k e he hnot => ?_⟩⟩
  · obtain ⟨k, hk⟩ := List.mem_iff_getElem?.1 hn
    refine h k n hk fun hacc => ?_
    have hid := hacc.nonBlank
    rw [hblank] at hid
    cases hid
  · by_cases hid : (Text.nonBlank? n.id).isSome = true
    · exact ⟨k, n, recurs_of_not_accepts hn hid hnot, rfl⟩
    · exact h n (List.mem_of_getElem? hn) (Option.not_isSome_iff_eq_none.1 hid)
  · -- two of the reasons name the edge themselves
    cases reason_of_not_keeps he hnot with
    | dangles hdangles => exact Or.inr ⟨e, List.mem_of_getElem? he, hdangles, rfl⟩
    | endIgnored hignored => exact h k e he (Or.inl hignored)
    | reuses hreuses => exact Or.inl ⟨k, e, hreuses, rfl⟩
    | meetsMadeUp hmeets => exact h k e he (Or.inr hmeets)

/-- A sketch with an edge that has no id, and a second one under the id that
is made up for the first. -/
def doubleSketch : Sketch where
  nodes := [{ id := "s", outerTag? := "start" }, { id := "g", outerTag? := "end" }]
  edges := [{ source := "s", target := "g" }, { id := "flow/s__g", source := "s", target := "g" }]

/-- **An edge is dropped in silence.** Its id had been made up for the edge
before it, which the review does not know of: it finds nothing. -/
theorem made_up_id_unnamed :
    (Canvas.ofSketch .standard doubleSketch).childShapes.map (·.resourceId) =
        ["s", "g", "flow_s__g"] ∧
      (doubleSketch.edges[1]?).map (·.id) = some "flow/s__g" ∧
      (∀ a, ¬ doubleSketch.Keeps 1 a) ∧
      doubleSketch.review .standard none = [] ∧
      "flow/s__g" ∉ doubleSketch.droppedEdges .standard none := by
  have hreview : doubleSketch.review .standard none = [] := by decide +kernel
  refine ⟨by decide +kernel, rfl, fun a ha => ?_, hreview, by rw [droppedEdges, hreview]; simp⟩
  obtain ⟨l, hl, hlinked⟩ := (lists_link doubleSketch).exists_mem ha
  have hids : (Canvas.link doubleSketch (Canvas.place doubleSketch)).map (·.edge.id) = [""] := by
    decide +kernel
  have hmem : l.edge.id ∈ [""] := hids ▸ List.mem_map_of_mem hl
  rw [hlinked.edge, ← Option.some.inj ha.getElem?] at hmem
  exact absurd hmem (by decide)

end Sketch

end WorkflowCanvas
