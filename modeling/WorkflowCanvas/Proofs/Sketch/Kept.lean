import WorkflowCanvas.Proofs.Sketch.Accepted
/-!
# The kept edges of a sketch

An edge is kept if both its ends are ids of accepted nodes and the id that
it claims is free, given the accepted nodes and the edges kept before it
(`Sketch.Keeps`). The ids that come to be in use are apart. The kept edges
are what is linked on the canvas, in the order of the sketch (`lists_link`),
and the others might as well not be there (`link_withoutEdge`).
-/


namespace WorkflowCanvas

namespace Sketch

open Canvas (sanitizeId ClaimsId Placed Link)

/-- An edge with the id of its shape. -/
structure Kept where
  edge : Edge
  id : String

/-- **The edge at a position is kept**, under the id that it claims beside
the accepted nodes and the edges kept before it. -/
def Keeps (s : Sketch) (k : Nat) (a : Kept) : Prop :=
  s.edges[k]? = some a.edge ∧ s.IsAccepted a.edge.source ∧ s.IsAccepted a.edge.target ∧
    ClaimsId
      (fun id => (∃ j n, s.Accepts j n ∧ sanitizeId n.id = id) ∨
        ∃ j, ∃ _ : j < k, ∃ b, Keeps s j b ∧ b.id = id)
      a.edge a.id
termination_by k

/-- The ids in use when the edge at a position is reached. -/
def InUse (s : Sketch) (k : Nat) (id : String) : Prop :=
  (∃ j n, s.Accepts j n ∧ sanitizeId n.id = id) ∨ ∃ j, ∃ _ : j < k, ∃ b, s.Keeps j b ∧ b.id = id

variable {s : Sketch} {j k : Nat} {m n : Node} {a b : Kept} {id : String}

/-! ## Kept edges -/

theorem keeps_iff : s.Keeps k a ↔
    s.edges[k]? = some a.edge ∧ s.IsAccepted a.edge.source ∧ s.IsAccepted a.edge.target ∧
      ClaimsId (s.InUse k) a.edge a.id := by
  rw [Keeps]
  rfl

theorem Keeps.getElem? (h : s.Keeps k a) : s.edges[k]? = some a.edge := (keeps_iff.1 h).1

theorem Keeps.source (h : s.Keeps k a) : s.IsAccepted a.edge.source := (keeps_iff.1 h).2.1

theorem Keeps.target (h : s.Keeps k a) : s.IsAccepted a.edge.target := (keeps_iff.1 h).2.2.1

theorem Keeps.claimsId (h : s.Keeps k a) : ClaimsId (s.InUse k) a.edge a.id :=
  (keeps_iff.1 h).2.2.2

/-- An edge is kept under one id. -/
theorem Keeps.unique (ha : s.Keeps k a) (hb : s.Keeps k b) : a = b := by
  have hedge : a.edge = b.edge := Option.some.inj (ha.getElem?.symm.trans hb.getElem?)
  have hid : a.id = b.id := ha.claimsId.eq (hedge ▸ hb.claimsId)
  cases a
  cases hedge
  cases hid
  rfl

/-- **Kept edges have ids apart.** -/
theorem Keeps.eq (ha : s.Keeps j a) (hb : s.Keeps k b) (h : a.id = b.id) : j = k ∧ a = b := by
  rcases Nat.lt_trichotomy j k with hlt | rfl | hlt
  · exact absurd (Or.inr ⟨j, hlt, a, ha, h⟩) hb.claimsId.1
  · exact ⟨rfl, ha.unique hb⟩
  · exact absurd (Or.inr ⟨k, hlt, b, hb, h.symm⟩) ha.claimsId.1

/-- **No kept edge has the shape id of an accepted node.** -/
theorem Keeps.ne_shapeId (ha : s.Keeps j a) (hn : s.Accepts k n) : sanitizeId n.id ≠ a.id :=
  fun h => ha.claimsId.1 (Or.inl ⟨k, n, hn, h⟩)

/-- What is in use one edge later. -/
theorem inUse_succ : s.InUse (k + 1) id ↔ s.InUse k id ∨ ∃ a, s.Keeps k a ∧ a.id = id := by
  constructor
  · rintro (h | ⟨j, hlt, a, ha, hid⟩)
    · exact Or.inl (Or.inl h)
    · rcases Nat.lt_succ_iff_lt_or_eq.1 hlt with hlt | rfl
      · exact Or.inl (Or.inr ⟨j, hlt, a, ha, hid⟩)
      · exact Or.inr ⟨a, ha, hid⟩
  · rintro ((h | ⟨j, hlt, a, ha, hid⟩) | ⟨a, ha, hid⟩)
    · exact Or.inl h
    · exact Or.inr ⟨j, Nat.lt_succ_of_lt hlt, a, ha, hid⟩
    · exact Or.inr ⟨k, Nat.lt_succ_self k, a, ha, hid⟩

/-! ## The kept edges in order -/

/-- A kept edge and its link between the places of its ends. -/
structure IsLinkedAs (s : Sketch) (a : Kept) (l : Link) : Prop where
  edge : l.edge = a.edge
  resourceId : l.resourceId = a.id
  source : l.source ∈ Canvas.place s
  source_id : l.source.node.id = a.edge.source
  target : l.target ∈ Canvas.place s
  target_id : l.target.node.id = a.edge.target

/-- The shape id of the end that a linked edge comes from. -/
theorem IsLinkedAs.source_resourceId {l : Link} (h : s.IsLinkedAs a l) :
    l.source.resourceId = sanitizeId a.edge.source := by
  obtain ⟨-, -, hid⟩ := mem_place_iff.1 h.source
  rw [hid, h.source_id]

/-- The shape id of the end that a linked edge leads to. -/
theorem IsLinkedAs.target_resourceId {l : Link} (h : s.IsLinkedAs a l) :
    l.target.resourceId = sanitizeId a.edge.target := by
  obtain ⟨-, -, hid⟩ := mem_place_iff.1 h.target
  rw [hid, h.target_id]

/-- The link of an edge, if it is kept. -/
def linkOf? (placed : List Placed) (taken : List String) (e : Edge) : Option Link :=
  match Canvas.placed? placed e.source, Canvas.placed? placed e.target with
  | some source, some target => (Canvas.claimId taken e).1.map fun id => ⟨e, id, source, target⟩
  | _, _ => none

theorem linkFrom_cons (placed : List Placed) (taken : List String) (e : Edge) (rest : List Edge) :
    Canvas.linkFrom placed taken (e :: rest) =
      match linkOf? placed taken e with
      | some l => l :: Canvas.linkFrom placed (l.resourceId :: taken) rest
      | none => Canvas.linkFrom placed taken rest := by
  rw [Canvas.linkFrom, linkOf?]
  rcases Canvas.placed? placed e.source with _ | source
  · rfl
  · rcases Canvas.placed? placed e.target with _ | target
    · rfl
    · have htaken := Canvas.claimId_snd taken e
      generalize Canvas.claimId taken e = claimed at htaken ⊢
      rcases claimed with ⟨_ | id, taken'⟩
      · obtain rfl : taken' = taken := htaken
        rfl
      · obtain rfl : taken' = id :: taken := htaken
        rfl

/-- **An edge is linked exactly if it is kept.** -/
theorem linkOf?_eq_some_iff {taken : List String} {e : Edge} {l : Link}
    (ht : ∀ id, id ∈ taken ↔ s.InUse k id) (he : s.edges[k]? = some e) :
    linkOf? (Canvas.place s) taken e = some l ↔
      s.Keeps k ⟨e, l.resourceId⟩ ∧ s.IsLinkedAs ⟨e, l.resourceId⟩ l := by
  have hinUse : (· ∈ taken) = s.InUse k := funext fun id => propext (ht id)
  constructor
  · intro h
    unfold linkOf? at h
    split at h
    · next source target hsource htarget =>
      obtain ⟨id, hid, rfl⟩ := Option.map_eq_some_iff.1 h
      obtain ⟨hsmem, hsid⟩ := placed?_eq_some_iff.1 hsource
      obtain ⟨htmem, htid⟩ := placed?_eq_some_iff.1 htarget
      rw [Canvas.claimId_fst_eq_some_iff, hinUse] at hid
      exact ⟨keeps_iff.2 ⟨he, isAccepted_iff.2 ⟨source, hsmem, hsid⟩,
        isAccepted_iff.2 ⟨target, htmem, htid⟩, hid⟩, ⟨rfl, rfl, hsmem, hsid, htmem, htid⟩⟩
    · cases h
  · rintro ⟨hkeeps, hlinked⟩
    have hid := hkeeps.claimsId
    rw [← hinUse, ← Canvas.claimId_fst_eq_some_iff] at hid
    rw [linkOf?, placed?_eq_some_iff.2 ⟨hlinked.source, hlinked.source_id⟩,
      placed?_eq_some_iff.2 ⟨hlinked.target, hlinked.target_id⟩]
    show (Canvas.claimId taken e).1.map _ = _
    rw [hid, Option.map_some, ← show l.edge = e from hlinked.edge]

/-- An edge that is not linked is not kept. -/
theorem not_keeps_of_linkOf? {taken : List String} {e : Edge}
    (ht : ∀ id, id ∈ taken ↔ s.InUse k id) (he : s.edges[k]? = some e)
    (h : linkOf? (Canvas.place s) taken e = none) : ¬ s.Keeps k a := by
  intro ha
  have hedge : e = a.edge := Option.some.inj (he.symm.trans ha.getElem?)
  obtain ⟨source, hsource, hsid⟩ := isAccepted_iff.1 ha.source
  obtain ⟨target, htarget, htid⟩ := isAccepted_iff.1 ha.target
  have hsome : linkOf? (Canvas.place s) taken e = some ⟨e, a.id, source, target⟩ := by
    refine (linkOf?_eq_some_iff ht he).2 ⟨by rw [hedge]; exact ha, ⟨rfl, rfl, hsource, ?_,
      htarget, ?_⟩⟩
    · rw [hedge]
      exact hsid
    · rw [hedge]
      exact htid
  rw [h] at hsome
  cases hsome

section Linking

variable {before rest : List Edge} {taken : List String} {e : Edge} {l : Link}

/-- The ids in use after an edge that is linked. -/
theorem inUse_of_linked (ht : ∀ id, id ∈ taken ↔ s.InUse k id) (he : s.edges[k]? = some e)
    (hl : linkOf? (Canvas.place s) taken e = some l) (id : String) :
    id ∈ l.resourceId :: taken ↔ s.InUse (k + 1) id := by
  obtain ⟨hkeeps, -⟩ := (linkOf?_eq_some_iff ht he).1 hl
  rw [inUse_succ, List.mem_cons, ht, or_comm]
  refine or_congr_right ⟨fun h => ⟨_, hkeeps, h.symm⟩, ?_⟩
  rintro ⟨a, ha, rfl⟩
  rw [ha.unique hkeeps]

/-- The ids in use after an edge that is not linked. -/
theorem inUse_of_not_linked (ht : ∀ id, id ∈ taken ↔ s.InUse k id) (he : s.edges[k]? = some e)
    (hl : linkOf? (Canvas.place s) taken e = none) (id : String) :
    id ∈ taken ↔ s.InUse (k + 1) id := by
  rw [inUse_succ, ht]
  refine (or_iff_left ?_).symm
  rintro ⟨a, ha, -⟩
  exact not_keeps_of_linkOf? ht he hl ha

theorem lists_linkFrom (before : List Edge) (hs : s.edges = before ++ rest)
    (ht : ∀ id, id ∈ taken ↔ s.InUse before.length id) :
    Lists (fun k a => before.length ≤ k ∧ s.Keeps k a) s.IsLinkedAs
      (Canvas.linkFrom (Canvas.place s) taken rest) := by
  induction rest generalizing before taken with
  | nil =>
    exact Lists.nil fun k a h => Nat.not_lt.2 h.1 (lt_of_cut_nil hs h.2.getElem?)
  | cons e rest ih =>
    obtain ⟨he, hs', hlen⟩ := cut_succ hs
    rw [linkFrom_cons]
    split
    · next l hl =>
      obtain ⟨hkeeps, hlinked⟩ := (linkOf?_eq_some_iff ht he).1 hl
      have hahead := ih _ hs' (hlen ▸ inUse_of_linked ht he hl)
      rw [hlen] at hahead
      refine hahead.cons_ahead (fun a => ⟨fun ha => ha.unique hkeeps, ?_⟩) hlinked
      rintro rfl
      exact hkeeps
    · next hl =>
      have hahead := ih _ hs' (hlen ▸ inUse_of_not_linked ht he hl)
      rw [hlen] at hahead
      exact hahead.skip_ahead fun a => not_keeps_of_linkOf? ht he hl

/-- An edge that is not kept makes no difference. -/
theorem linkFrom_eraseIdx (before : List Edge) {i : Nat} (hs : s.edges = before ++ rest)
    (ht : ∀ id, id ∈ taken ↔ s.InUse before.length id)
    (hnot : ∀ a, ¬ s.Keeps (before.length + i) a) :
    Canvas.linkFrom (Canvas.place s) taken (rest.eraseIdx i) =
      Canvas.linkFrom (Canvas.place s) taken rest := by
  induction rest generalizing before taken i with
  | nil => rfl
  | cons e rest ih =>
    obtain ⟨he, hs', hlen⟩ := cut_succ hs
    rcases hl : linkOf? (Canvas.place s) taken e with _ | l
    · cases i with
      | zero => rw [List.eraseIdx_zero, List.tail_cons, linkFrom_cons, hl]
      | succ i =>
        rw [List.eraseIdx_cons_succ, linkFrom_cons, linkFrom_cons, hl]
        exact ih _ hs' (hlen ▸ inUse_of_not_linked ht he hl) (by rwa [hlen, Nat.add_right_comm])
    · cases i with
      | zero => exact absurd ((linkOf?_eq_some_iff ht he).1 hl).1 (hnot _)
      | succ i =>
        rw [List.eraseIdx_cons_succ, linkFrom_cons, linkFrom_cons, hl]
        exact congrArg _
          (ih _ hs' (hlen ▸ inUse_of_linked ht he hl) (by rwa [hlen, Nat.add_right_comm]))

end Linking

/-- At first the shape ids of the accepted nodes are in use. -/
theorem mem_shapeIds_iff : id ∈ (Canvas.place s).map (·.resourceId) ↔ s.InUse 0 id := by
  rw [List.mem_map]
  constructor
  · rintro ⟨p, hp, rfl⟩
    obtain ⟨k, hn, hid⟩ := mem_place_iff.1 hp
    exact Or.inl ⟨k, p.node, hn, hid.symm⟩
  · rintro (⟨k, n, hn, rfl⟩ | ⟨j, hlt, -⟩)
    · exact ⟨⟨n, sanitizeId n.id⟩, mem_place_iff.2 ⟨k, hn, rfl⟩, rfl⟩
    · exact absurd hlt (Nat.not_lt_zero j)

/-- **The kept edges are linked in order.** -/
theorem lists_link (s : Sketch) :
    Lists s.Keeps s.IsLinkedAs (Canvas.link s (Canvas.place s)) :=
  (lists_linkFrom [] rfl fun _ => mem_shapeIds_iff).congr fun _ _ =>
    and_iff_right (Nat.zero_le _)

/-- Finitely many ids are in use. -/
theorem exists_taken (s : Sketch) (k : Nat) :
    ∃ taken : List String, ∀ id, id ∈ taken ↔ s.InUse k id := by
  induction k with
  | zero => exact ⟨_, fun _ => mem_shapeIds_iff⟩
  | succ k ih =>
    obtain ⟨taken, ht⟩ := ih
    by_cases hkeeps : ∃ a, s.Keeps k a
    · obtain ⟨a, ha⟩ := hkeeps
      refine ⟨a.id :: taken, fun id => ?_⟩
      rw [inUse_succ, List.mem_cons, ht, or_comm]
      exact or_congr_right ⟨fun h => ⟨a, ha, h.symm⟩, fun ⟨b, hb, h⟩ => hb.unique ha ▸ h.symm⟩
    · refine ⟨taken, fun id => ?_⟩
      rw [inUse_succ, ht]
      exact (or_iff_left fun ⟨a, ha, _⟩ => hkeeps ⟨a, ha⟩).symm

/-- **When an edge is kept**: both its ends are accepted, and the id that it
was given, if any, is free. -/
theorem exists_keeps_iff {e : Edge} (he : s.edges[k]? = some e) :
    (∃ a, s.Keeps k a) ↔ s.IsAccepted e.source ∧ s.IsAccepted e.target ∧
      ((Text.nonBlank? e.id).isSome = true → ¬ s.InUse k (sanitizeId e.id)) := by
  constructor
  · rintro ⟨a, ha⟩
    obtain rfl : a.edge = e := Option.some.inj (ha.getElem?.symm.trans he)
    refine ⟨ha.source, ha.target, fun hid => ?_⟩
    obtain ⟨hfree, hclaim⟩ := ha.claimsId
    rw [if_pos hid] at hclaim
    exact hclaim ▸ hfree
  · rintro ⟨hsource, htarget, hfree⟩
    obtain ⟨taken, ht⟩ := exists_taken s k
    have hinUse : (· ∈ taken) = s.InUse k := funext fun id => propext (ht id)
    have hclaim : ∃ id, (Canvas.claimId taken e).1 = some id := by
      by_cases hid : (Text.nonBlank? e.id).isSome = true
      · refine ⟨sanitizeId e.id, Canvas.claimId_fst_eq_some_iff.2 ?_⟩
        rw [hinUse]
        exact ⟨hfree hid, by rw [if_pos hid]⟩
      · obtain ⟨n, hn, -⟩ := Canvas.exists_isLeast_free taken (Canvas.flowBase e)
        exact ⟨_, congrArg Prod.fst (Canvas.claimId_of_blank hid hn)⟩
    obtain ⟨id, hid⟩ := hclaim
    rw [Canvas.claimId_fst_eq_some_iff, hinUse] at hid
    exact ⟨⟨e, id⟩, keeps_iff.2 ⟨he, hsource, htarget, hid⟩⟩

/-- What is in use stays in use. -/
theorem InUse.mono (h : s.InUse j id) (hle : j ≤ k) : s.InUse k id :=
  h.imp_right fun ⟨i, hlt, a, ha, hid⟩ => ⟨i, Nat.lt_of_lt_of_le hlt hle, a, ha, hid⟩

/-- The shape id of a node is in use if the id of the node is not blank. -/
theorem inUse_of_mem (hn : n ∈ s.nodes) (hid : (Text.nonBlank? n.id).isSome = true) :
    s.InUse k (sanitizeId n.id) := by
  obtain ⟨i, hi⟩ := List.mem_iff_getElem?.1 hn
  obtain ⟨j, -, m, hm, heq⟩ := exists_accepts hi hid
  exact Or.inl ⟨j, m, hm, heq⟩

/-- After an edge between accepted nodes the id that it was given is in
use, be it its own or that of something before. -/
theorem inUse_after_given (he : s.edges[j]? = some e) (hlt : j < k)
    (hid : (Text.nonBlank? e.id).isSome = true) (hsource : s.IsAccepted e.source)
    (htarget : s.IsAccepted e.target) : s.InUse k (sanitizeId e.id) := by
  by_cases huse : s.InUse j (sanitizeId e.id)
  · exact huse.mono (Nat.le_of_lt hlt)
  · obtain ⟨a, ha⟩ := (exists_keeps_iff he).2 ⟨hsource, htarget, fun _ => huse⟩
    obtain rfl : a.edge = e := Option.some.inj (ha.getElem?.symm.trans he)
    have hclaim := ha.claimsId.2
    rw [if_pos hid] at hclaim
    exact Or.inr ⟨j, hlt, a, ha, hclaim⟩

/-- The sketch without the edge at a position. -/
def withoutEdge (s : Sketch) (k : Nat) : Sketch := { s with edges := s.edges.eraseIdx k }

/-- **An edge that is not kept leaves no trace** among the links. -/
theorem link_withoutEdge (hnot : ∀ a, ¬ s.Keeps k a) :
    Canvas.link (s.withoutEdge k) (Canvas.place s) = Canvas.link s (Canvas.place s) :=
  linkFrom_eraseIdx [] rfl (fun _ => mem_shapeIds_iff) (by simpa using hnot)

end Sketch

end WorkflowCanvas
