import WorkflowCanvas.Proofs.Canvas.Wiring
import WorkflowCanvas.Sketch.Draft
/-!
# Drafted connections

A draft is made by calls, one after the other. Of these `edge` adds an edge
under a given id and `connect` one under an id that it numbers; the others
leave the edges alone (`edges_apply`). The numbers count the connections and
nothing else, so an id such as `edge-1` may be given to an edge or to a node
as well. No other id is sanitized to it, and no made-up id comes to it, so a
connection between nodes has a flow of its own exactly if its id was given
neither to a node nor, before it, to an edge between nodes (`own_flow_iff`).
Where it was, the connection is dropped (`numbered_connection_dropped`).
-/


namespace WorkflowCanvas

/-! ## Sketches with their names apart -/

namespace Sketch

open Canvas (sanitizeId)

variable {s : Sketch} {j k : Nat} {n : Node} {e : Edge} {id : String}

/-- **The nodes have their names apart**: no id is blank, and no two of them are
sanitized to the same. -/
structure NamesApart (s : Sketch) : Prop where
  nonBlank : ∀ n ∈ s.nodes, (Text.nonBlank? n.id).isSome = true
  apart : (s.nodes.map fun n => sanitizeId n.id).Nodup

/-- Then all nodes are accepted. -/
theorem NamesApart.accepts (h : s.NamesApart) (hn : s.nodes[k]? = some n) : s.Accepts k n := by
  refine accepts_iff_first.2 ⟨hn, h.nonBlank n (List.mem_of_getElem? hn),
    fun j hlt m hm _ heq => ?_⟩
  obtain ⟨hk, -⟩ := List.getElem?_eq_some_iff.1 hn
  refine List.nodup_iff_getElem?_ne_getElem?.1 h.apart j k hlt (by rwa [List.length_map]) ?_
  rw [List.getElem?_map, List.getElem?_map, hm, hn, Option.map_some, Option.map_some, heq]

theorem NamesApart.isAccepted_iff (h : s.NamesApart) :
    s.IsAccepted id ↔ ∃ n ∈ s.nodes, n.id = id := by
  constructor
  · rintro ⟨k, n, hn, hid⟩
    exact ⟨n, List.mem_of_getElem? hn.getElem?, hid⟩
  · rintro ⟨n, hn, hid⟩
    obtain ⟨k, hk⟩ := List.mem_iff_getElem?.1 hn
    exact ⟨k, n, h.accepts hk, hid⟩

end Sketch

namespace Draft

open Canvas (IsEdgeShape Shape isIdChar sanitizeId)
open Sketch (Edge)

/-! ## Calls -/

/-- A call that goes on with a draft. -/
inductive Call where
  | node (id tag : String)
  | moveTo (x y : Float)
  | label (text : String)
  | parameters (value : Json)
  | delegation (id kind : String)
  | selectedFields (value : Json)
  | customFields (value : Json)
  | edge (id source target : String)
  | connect (source target : String)

/-- A draft after one more call. -/
def apply (d : Draft) : Call → Draft
  | .node id tag => d.node id tag
  | .moveTo x y => d.moveTo x y
  | .label text => d.label text
  | .parameters value => d.parameters value
  | .delegation id kind => d.delegation id kind
  | .selectedFields value => d.selectedFields value
  | .customFields value => d.customFields value
  | .edge id source target => d.edge id source target
  | .connect source target => d.connect source target

/-- The draft that calls make. -/
def ofCalls (calls : List Call) : Draft := calls.foldl apply {}

/-- The id that the `n`-th connection is given. -/
def connectionId (n : Nat) : String := "edge-" ++ toString n

/-- The edge that a call adds behind `n` connections. -/
def Call.edge? (n : Nat) : Call → Option Edge
  | .edge id source target => some { id, source, target }
  | .connect source target => some { id := connectionId (n + 1), source, target }
  | _ => none

/-- How many connections a call adds. -/
def Call.connections : Call → Nat
  | .connect .. => 1
  | _ => 0

variable {d : Draft} {calls before after : List Call} {c : Call} {id source target : String}
variable {m n : Nat}

/-- **What a call does to the edges.** -/
theorem edges_apply (d : Draft) (c : Call) :
    (d.apply c).edges = d.edges ++ (c.edge? d.connections).toList := by
  cases c with
  | edge id source target => rfl
  | connect source target => rfl
  | parameters value => cases value <;> exact (List.append_nil _).symm
  | _ => exact (List.append_nil _).symm

theorem connections_apply (d : Draft) (c : Call) :
    (d.apply c).connections = d.connections + c.connections := by
  cases c with
  | parameters value => cases value <;> rfl
  | _ => rfl

theorem ofCalls_concat : ofCalls (before ++ [c]) = (ofCalls before).apply c :=
  List.foldl_concat ..

/-- Calls add edges behind those that are there. -/
theorem exists_edges_foldl (d : Draft) (calls : List Call) :
    ∃ more, (calls.foldl apply d).edges = d.edges ++ more := by
  induction calls generalizing d with
  | nil => exact ⟨[], (List.append_nil _).symm⟩
  | cons c rest ih =>
    obtain ⟨more, hmore⟩ := ih (d.apply c)
    exact ⟨(c.edge? d.connections).toList ++ more, by
      rw [List.foldl_cons, hmore, edges_apply, List.append_assoc]⟩

/-- **A connection stands behind the edges that were there**, under the next
number. -/
theorem exists_edges_connect (before after : List Call) (source target : String) :
    ∃ more, (ofCalls (before ++ .connect source target :: after)).edges =
      (ofCalls before).edges ++
        { id := connectionId ((ofCalls before).connections + 1), source, target } :: more := by
  obtain ⟨more, hmore⟩ := exists_edges_foldl ((ofCalls before).apply (.connect source target)) after
  refine ⟨more, ?_⟩
  rw [ofCalls, List.foldl_append, List.foldl_cons]
  exact hmore.trans (by rw [edges_apply, List.append_assoc]; rfl)

/-- **Where the edges of a draft come from**: each was added under its id, or
numbered as a connection. -/
structure Traced (calls : List Call) (d : Draft) : Prop where
  origin : ∀ e ∈ d.edges, .edge e.id e.source e.target ∈ calls ∨
    ∃ n ≤ d.connections, e.id = connectionId n
  given : ∀ id source target, .edge id source target ∈ calls → { id, source, target } ∈ d.edges

theorem Traced.apply (h : Traced calls d) (c : Call) : Traced (calls ++ [c]) (d.apply c) := by
  have hmore := connections_apply d c
  constructor
  · intro e he
    rw [edges_apply, List.mem_append] at he
    rcases he with he | he
    · rcases h.origin e he with hmem | ⟨n, hle, hid⟩
      · exact Or.inl (List.mem_append_left _ hmem)
      · exact Or.inr ⟨n, by omega, hid⟩
    · cases c with
      | edge id source target =>
        obtain rfl := List.mem_singleton.1 he
        exact Or.inl (List.mem_append_right _ (List.mem_singleton_self _))
      | connect source target =>
        obtain rfl := List.mem_singleton.1 he
        exact Or.inr ⟨d.connections + 1, Nat.le_of_eq hmore.symm, rfl⟩
      | _ => cases he
  · intro id source target hmem
    rw [edges_apply, List.mem_append]
    rcases List.mem_append.1 hmem with hmem | hmem
    · exact Or.inl (h.given id source target hmem)
    · rw [List.mem_singleton] at hmem
      subst hmem
      exact Or.inr (List.mem_singleton_self _)

theorem traced_ofCalls (calls : List Call) : Traced calls (ofCalls calls) := by
  induction calls using List.reverseRecOn with
  | nil => exact ⟨nofun, nofun⟩
  | append_singleton before c ih => exact ofCalls_concat ▸ ih.apply c

/-! ## Ids of connections -/

theorem toList_connectionId (n : Nat) :
    (connectionId n).toList = ['e', 'd', 'g', 'e', '-'] ++ Nat.toDigits 10 n := by
  simp [connectionId, Nat.toString_eq_repr, Nat.toList_repr]

/-- **Connections are numbered apart.** -/
theorem connectionId_injective : Function.Injective connectionId := by
  intro m n h
  have hdigits := congrArg String.toList h
  rw [toList_connectionId, toList_connectionId] at hdigits
  have hread := congrArg (fun digits => Nat.ofDigitChars 10 digits 0)
    (List.append_cancel_left hdigits)
  simpa using hread

/-- The id of a connection has characters of an id only, and none that stands
for another. -/
theorem isIdChar_connectionId {ch : Char} (h : ch ∈ (connectionId n).toList) :
    isIdChar ch = true ∧ ch ≠ '_' := by
  rw [toList_connectionId, List.mem_append] at h
  rcases h with h | h
  · simp only [List.mem_cons, List.not_mem_nil, or_false] at h
    rcases h with rfl | rfl | rfl | rfl | rfl <;> decide
  · have hdigit : ch.isDigit = true := Nat.isDigit_of_mem_toDigits (by omega) (by omega) h
    refine ⟨by simp [isIdChar, Char.isAlphanum, hdigit], ?_⟩
    rintro rfl
    exact absurd hdigit (by decide)

/-- **No other id is sanitized to that of a connection.** -/
theorem sanitizeId_eq_connectionId_iff : sanitizeId id = connectionId n ↔ id = connectionId n := by
  have hfixed : ∀ {text : String}, (∀ ch ∈ text.toList, isIdChar ch = true) →
      sanitizeId text = text := by
    intro text htext
    rw [sanitizeId, List.map_congr_left fun ch hch => if_pos (htext ch hch), List.map_id',
      String.ofList_toList]
  constructor
  · intro h
    rw [← h, eq_comm]
    refine hfixed fun ch hch => ?_
    by_contra hnot
    -- the character would have left a `_`
    have hmem : '_' ∈ (connectionId n).toList := by
      rw [← h, sanitizeId, String.toList_ofList]
      exact List.mem_map.2 ⟨ch, hch, if_neg hnot⟩
    exact (isIdChar_connectionId hmem).2 rfl
  · rintro rfl
    exact hfixed fun ch hch => (isIdChar_connectionId hch).1

theorem nonBlank?_connectionId (n : Nat) :
    (Text.nonBlank? (connectionId n)).isSome = true := by
  have hshape : Canvas.IsShapeId (connectionId n) := by
    refine ⟨fun hempty => ?_, fun ch hch => (isIdChar_connectionId hch).1⟩
    have hnil := congrArg String.toList hempty
    rw [toList_connectionId] at hnil
    cases hnil
  rw [hshape.nonBlank?_eq]
  rfl

/-- No made-up id is that of a connection. -/
theorem candidate_ne_connectionId (e : Edge) (m n : Nat) :
    Canvas.candidate (Canvas.flowBase e) m ≠ connectionId n := by
  intro h
  have hhead := congrArg (fun text => text.toList.head?) h
  simp only [Canvas.toList_candidate, toList_connectionId, Canvas.flowBase, sanitizeId,
    String.toList_ofList, String.toList_append, List.map_append, List.append_assoc] at hhead
  change some 'f' = some 'e' at hhead
  cases hhead

/-! ## Flows of connections -/

section Flows

variable {settings : Settings} {s : Sketch} {j k : Nat} {sh : Shape}

/-- **The id of a connection is in use** if a node has it, or if it was given to an
edge between nodes. -/
theorem inUse_connectionId_iff (hnames : s.NamesApart) : s.InUse k (connectionId n) ↔
    (∃ m ∈ s.nodes, m.id = connectionId n) ∨
      ∃ j < k, ∃ e, s.edges[j]? = some e ∧ e.id = connectionId n ∧
        s.IsAccepted e.source ∧ s.IsAccepted e.target := by
  constructor
  · rintro (⟨i, m, hm, hid⟩ | ⟨j, hlt, a, ha, hid⟩)
    · exact Or.inl ⟨m, List.mem_of_getElem? hm.getElem?, sanitizeId_eq_connectionId_iff.1 hid⟩
    · obtain ⟨-, hclaim⟩ := ha.claimsId
      rw [hid] at hclaim
      split at hclaim
      · exact Or.inr ⟨j, hlt, a.edge, ha.getElem?, sanitizeId_eq_connectionId_iff.1 hclaim.symm,
          ha.source, ha.target⟩
      · obtain ⟨m, -, hmade, -⟩ := hclaim
        exact absurd hmade.symm (candidate_ne_connectionId a.edge m n)
  · rintro (⟨m, hm, hid⟩ | ⟨j, hlt, e, he, hid, hsource, htarget⟩)
    · exact sanitizeId_eq_connectionId_iff.2 hid ▸ Sketch.inUse_of_mem hm (hnames.nonBlank m hm)
    · rw [← sanitizeId_eq_connectionId_iff.2 hid]
      exact Sketch.inUse_after_given he hlt (hid ▸ nonBlank?_connectionId n) hsource htarget

/-- **The edge at a position has the shape for a flow of its own**: it is kept, and
the shape draws it on the canvas. -/
def OwnFlow (settings : Settings) (s : Sketch) (k : Nat) (sh : Shape) : Prop :=
  ∃ a, s.Keeps k a ∧ IsEdgeShape a sh ∧ sh ∈ (Canvas.ofSketch settings s).childShapes

theorem exists_ownFlow_iff : (∃ sh, OwnFlow settings s k sh) ↔ ∃ a, s.Keeps k a := by
  constructor
  · rintro ⟨sh, a, ha, -⟩
    exact ⟨a, ha⟩
  · rintro ⟨a, ha⟩
    obtain ⟨sh, hmem, hsh⟩ := (Canvas.lists_isEdgeShape settings s).exists_mem ha
    exact ⟨sh, a, ha, hsh, List.mem_append_right _ hmem⟩

/-- No flow is that of two edges. -/
theorem OwnFlow.eq (hj : OwnFlow settings s j sh) (hk : OwnFlow settings s k sh) : j = k := by
  obtain ⟨a, ha, hshape, -⟩ := hj
  obtain ⟨b, hb, hshape', -⟩ := hk
  exact (ha.eq hb (hshape.resourceId.symm.trans hshape'.resourceId)).1

/-- The id that the next connection is given. -/
def nextId (calls : List Call) : String := connectionId ((ofCalls calls).connections + 1)

/-- A node of the draft has the id. -/
def IsNodeId (calls : List Call) (id : String) : Prop := ∃ n ∈ (ofCalls calls).nodes, n.id = id

/-- **The id of the connection that comes next is free**: no node of the whole
draft has it, and no call gave it to an edge between nodes before. -/
structure NextIdFree (calls before : List Call) : Prop where
  nodes : ¬ IsNodeId calls (nextId before)
  edges : ∀ source target, .edge (nextId before) source target ∈ before →
    IsNodeId calls source → ¬ IsNodeId calls target

/-- Edges between nodes with the next id were given it. -/
theorem exists_edge_nextId_iff {P : String → String → Prop} :
    (∃ e ∈ (ofCalls before).edges, e.id = nextId before ∧ P e.source e.target) ↔
      ∃ source target, .edge (nextId before) source target ∈ before ∧ P source target := by
  have htraced := traced_ofCalls before
  constructor
  · rintro ⟨e, he, hid, hP⟩
    rcases htraced.origin e he with hmem | ⟨n, hle, hn⟩
    · exact ⟨e.source, e.target, hid ▸ hmem, hP⟩
    · -- the number is past those of all connections so far
      have hnext := connectionId_injective (hn.symm.trans hid)
      omega
  · rintro ⟨source, target, hmem, hP⟩
    exact ⟨_, htraced.given _ source target hmem, rfl, hP⟩

/-- The edge of a connection, at its position in the whole draft. -/
theorem edges_ofCalls (hcalls : calls = before ++ .connect source target :: after) :
    ∃ more, (ofCalls calls).sketch.edges =
      (ofCalls before).edges ++ { id := nextId before, source, target } :: more := by
  subst hcalls
  exact exists_edges_connect before after source target

theorem nonBlank?_nextId (calls : List Call) : (Text.nonBlank? (nextId calls)).isSome = true :=
  nonBlank?_connectionId _

theorem sanitizeId_nextId (calls : List Call) : sanitizeId (nextId calls) = nextId calls :=
  sanitizeId_eq_connectionId_iff.2 rfl

/-- **When a drafted connection is kept.** -/
theorem exists_keeps_connect_iff (hnames : (ofCalls calls).sketch.NamesApart)
    (hcalls : calls = before ++ .connect source target :: after)
    (hsource : IsNodeId calls source) (htarget : IsNodeId calls target) :
    (∃ a, (ofCalls calls).sketch.Keeps (ofCalls before).edges.length a) ↔
      NextIdFree calls before := by
  obtain ⟨more, hedges⟩ := edges_ofCalls hcalls
  have haccepted : ∀ id, (ofCalls calls).sketch.IsAccepted id ↔ IsNodeId calls id :=
    fun _ => hnames.isAccepted_iff
  have hinUse : (ofCalls calls).sketch.InUse (ofCalls before).edges.length (nextId before) ↔
      IsNodeId calls (nextId before) ∨ ∃ source target,
        .edge (nextId before) source target ∈ before ∧
          IsNodeId calls source ∧ IsNodeId calls target := by
    rw [← exists_edge_nextId_iff (P := fun source target =>
      IsNodeId calls source ∧ IsNodeId calls target), nextId, inUse_connectionId_iff hnames,
      exists_lt_getElem?_iff hedges]
    simp only [haccepted]
    rfl
  obtain ⟨he, -, -⟩ := cut_succ hedges
  rw [Sketch.exists_keeps_iff he, haccepted, haccepted, and_iff_right hsource,
    and_iff_right htarget]
  dsimp only
  rw [forall_prop_of_true (nonBlank?_nextId before), sanitizeId_nextId, hinUse, not_or]
  constructor
  · rintro ⟨hnodes, hgiven⟩
    exact ⟨hnodes, fun source target hmem hs ht => hgiven ⟨source, target, hmem, hs, ht⟩⟩
  · rintro ⟨hnodes, hgiven⟩
    exact ⟨hnodes, fun ⟨source, target, hmem, hs, ht⟩ => hgiven source target hmem hs ht⟩

/-- The flow of a connection goes by its number, from the one end to the other. -/
theorem OwnFlow.connect
    (h : OwnFlow settings (ofCalls calls).sketch (ofCalls before).edges.length sh)
    (hcalls : calls = before ++ .connect source target :: after) :
    sh.resourceId = nextId before ∧ sh.stencil = Canvas.flowStencil ∧
      sh.incoming = [sanitizeId source] ∧ sh.outgoing = [sanitizeId target] := by
  obtain ⟨a, ha, hshape, -⟩ := h
  obtain ⟨more, hedges⟩ := edges_ofCalls hcalls
  obtain ⟨he, -, -⟩ := cut_succ hedges
  have hedge : a.edge = { id := nextId before, source, target } :=
    Option.some.inj (ha.getElem?.symm.trans he)
  have hclaim := ha.claimsId.2
  rw [hedge, if_pos (nonBlank?_nextId before), sanitizeId_nextId] at hclaim
  exact ⟨hshape.resourceId.trans hclaim, hshape.stencil, by rw [hshape.incoming, hedge],
    by rw [hshape.outgoing, hedge]⟩

end Flows

/-- **When connections have flows of their own.** In a draft whose nodes have
their names apart no two edges share a flow. A connection between nodes has
one exactly if the id that its number makes is free: no node has it, and it
was not given before to an edge between nodes. The flow then has this id, and
leads from the one end of the connection to the other. -/
theorem own_flow_iff (settings : Settings) (calls : List Call)
    (hnames : (ofCalls calls).sketch.NamesApart) :
    (∀ j k sh, OwnFlow settings (ofCalls calls).sketch j sh →
      OwnFlow settings (ofCalls calls).sketch k sh → j = k) ∧
    ∀ before source target after, calls = before ++ .connect source target :: after →
      IsNodeId calls source → IsNodeId calls target →
        ((∃ sh, OwnFlow settings (ofCalls calls).sketch (ofCalls before).edges.length sh) ↔
          NextIdFree calls before) ∧
        ∀ sh, OwnFlow settings (ofCalls calls).sketch (ofCalls before).edges.length sh →
          sh.resourceId = nextId before ∧ sh.stencil = Canvas.flowStencil ∧
            sh.incoming = [sanitizeId source] ∧ sh.outgoing = [sanitizeId target] := by
  refine ⟨fun j k sh hj hk => hj.eq hk, fun before source target after hcalls hsource htarget =>
    ⟨?_, fun sh h => h.connect hcalls⟩⟩
  rw [exists_ownFlow_iff, exists_keeps_connect_iff hnames hcalls hsource htarget]

/-- Two nodes and an edge between them under an id. -/
def linkedCalls (id : String) : List Call :=
  [.node "a" "start", .node "b" "end", .edge id "a" "b"]

/-- The same with a connection behind. -/
def connectedCalls (id : String) : List Call := linkedCalls id ++ [.connect "a" "b"]

theorem namesApart_connectedCalls (id : String) :
    (ofCalls (connectedCalls id)).sketch.NamesApart where
  nonBlank n hn := by
    have hall : ∀ n ∈ ["a", "b"], (Text.nonBlank? n).isSome = true := by decide
    exact hall n.id (List.mem_map_of_mem (f := (·.id)) hn)
  apart := by
    have hnodup : (["a", "b"].map sanitizeId).Nodup := by decide
    exact hnodup

theorem isNodeId_connectedCalls (id : String) :
    IsNodeId (connectedCalls id) "a" ∧ IsNodeId (connectedCalls id) "b" :=
  ⟨⟨_, List.mem_cons_self, rfl⟩, ⟨_, List.mem_cons_of_mem _ List.mem_cons_self, rfl⟩⟩

theorem nextId_linkedCalls (id : String) : nextId (linkedCalls id) = "edge-1" := by
  show connectionId 1 = "edge-1"
  decide

/-- With another number on the edge the connection has a flow of its own. -/
theorem connection_beside_edge :
    (ofCalls (connectedCalls "edge-2")).sketch.NamesApart ∧
      ∃ sh, OwnFlow .standard (ofCalls (connectedCalls "edge-2")).sketch 1 sh ∧
        sh.resourceId = "edge-1" ∧ sh.incoming = ["a"] ∧ sh.outgoing = ["b"] := by
  have hnames := namesApart_connectedCalls "edge-2"
  obtain ⟨ha, hb⟩ := isNodeId_connectedCalls "edge-2"
  have hfree : NextIdFree (connectedCalls "edge-2") (linkedCalls "edge-2") := by
    constructor
    · rintro ⟨n, hn, hid⟩
      rw [nextId_linkedCalls] at hid
      have hall : ∀ id ∈ ["a", "b"], id ≠ "edge-1" := by decide
      exact hall n.id (List.mem_map_of_mem (f := (·.id)) hn) hid
    · intro source target hmem
      rw [nextId_linkedCalls] at hmem
      simp [linkedCalls] at hmem
  obtain ⟨-, hall⟩ := own_flow_iff .standard _ hnames
  obtain ⟨hiff, hends⟩ := hall (linkedCalls "edge-2") "a" "b" [] rfl ha hb
  obtain ⟨sh, hsh⟩ := hiff.2 hfree
  obtain ⟨hid, -, hincoming, houtgoing⟩ := hends sh hsh
  have hsame : sanitizeId "a" = "a" ∧ sanitizeId "b" = "b" := by decide
  exact ⟨hnames, sh, hsh, hid.trans (nextId_linkedCalls _), hsame.1 ▸ hincoming,
    hsame.2 ▸ houtgoing⟩

/-- **A connection is dropped for its number.** The edge before it was given the
id that it is numbered with, and is the only one on the canvas. -/
theorem numbered_connection_dropped :
    (ofCalls (connectedCalls "edge-1")).sketch.NamesApart ∧
      IsNodeId (connectedCalls "edge-1") "a" ∧ IsNodeId (connectedCalls "edge-1") "b" ∧
      (¬ ∃ sh, OwnFlow .standard (ofCalls (connectedCalls "edge-1")).sketch
        (ofCalls (linkedCalls "edge-1")).edges.length sh) ∧
      (Canvas.ofSketch .standard (ofCalls (connectedCalls "edge-1")).sketch).flowShapes.map
        (fun sh => (sh.resourceId, sh.incoming, sh.outgoing)) = [("edge-1", ["a"], ["b"])] := by
  have hnames := namesApart_connectedCalls "edge-1"
  obtain ⟨ha, hb⟩ := isNodeId_connectedCalls "edge-1"
  refine ⟨hnames, ha, hb, fun hflow => ?_, by decide +kernel⟩
  have hfree : NextIdFree (connectedCalls "edge-1") (linkedCalls "edge-1") :=
    (exists_keeps_connect_iff hnames rfl ha hb).1 (exists_ownFlow_iff.1 hflow)
  refine hfree.edges "a" "b" ?_ ha hb
  rw [nextId_linkedCalls]
  simp [linkedCalls]

end Draft

end WorkflowCanvas
