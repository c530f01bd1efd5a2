import WorkflowCanvas.Proofs.Engine.Tokens
import Mathlib.Algebra.Order.Group.Multiset
import Mathlib.Data.List.Induction
/-!
# What a join waits for

A join counts the tokens that come, not the ways they come by. Tokens leave
the queue in the order in which they came to it, so that each visit has an
origin: the way that its token took (`origins`). The arrivals at a join
fall into batches, each as long as the join has incoming flows, and the
join passes when a batch is full. Whether it has waited for every flow is
then a question about its batches: it has exactly if each of them has a
token from each flow (`joins_by_count`). That need not be so: two tokens
may come by one flow and none by the other (`join_without_branch`).
-/


namespace WorkflowCanvas

open Workflow (Way)

namespace Engine

/-! ## Full batches -/

section Batches

variable {α : Type} [DecidableEq α] {s l : List α} {k c n : Nat} {x : α}

/-- How often a value is in a list. -/
def times (x : α) (l : List α) : Nat := l.countP fun y => decide (y = x)

/-- Values that fill a list to its length with `c` of each have no more
than `c` of each. -/
theorem times_eq_of_full (hs : s.Nodup) (hc : ∀ x ∈ s, c ≤ times x l)
    (hlen : l.length ≤ c * s.length) (hx : x ∈ s) : times x l = c := by
  -- `c` copies of the values fit into the list, and leave no room
  have hle : c • (s : Multiset α) ≤ l := by
    refine Multiset.le_iff_count.2 fun y => ?_
    rw [Multiset.count_nsmul, Multiset.coe_count]
    by_cases hy : y ∈ s
    · rw [Multiset.coe_count, List.count_eq_one_of_mem hs hy, Nat.mul_one]
      exact hc y hy
    · rw [Multiset.coe_count, List.count_eq_zero_of_not_mem hy, Nat.mul_zero]
      exact Nat.zero_le _
  have heq := Multiset.eq_of_le_of_card_le hle (by simpa using hlen)
  have hcount := congrArg (Multiset.count x) heq
  rw [Multiset.count_nsmul, Multiset.coe_count, Multiset.coe_count,
    List.count_eq_one_of_mem hs hx, Nat.mul_one] at hcount
  exact hcount.symm

/-- A batch of a list: the values from `b * k` on, `k` of them. -/
def batch (k : Nat) (l : List α) (b : Nat) : List α := (l.drop (b * k)).take k

theorem times_take_succ (k : Nat) (l : List α) (b : Nat) (x : α) :
    times x (l.take ((b + 1) * k)) = times x (l.take (b * k)) + times x (batch k l b) := by
  rw [Nat.succ_mul, List.take_add]
  exact List.countP_append

theorem times_pos_iff : 0 < times x l ↔ x ∈ l := List.count_pos_iff

/-- Values that are in each of the first batches are there as often. -/
theorem le_times_of_batches {q : Nat} (h : ∀ b < q, x ∈ batch k l b) :
    q ≤ times x (l.take (q * k)) := by
  induction q with
  | zero => exact Nat.zero_le _
  | succ q ih =>
    have hbatch := times_pos_iff.2 (h q (Nat.lt_succ_self q))
    have hbefore := ih fun b hb => h b (Nat.lt_succ_of_lt hb)
    rw [times_take_succ]
    omega

/-- **Batches are full** exactly if every initial segment has each value as
often as it has had batches. -/
theorem batches_iff (hs : s.Nodup) (hk : s.length = k) (hpos : 0 < k) :
    (∀ n ≤ l.length, ∀ x ∈ s, n / k ≤ times x (l.take n)) ↔
      ∀ b < l.length / k, ∀ x ∈ s, x ∈ batch k l b := by
  constructor
  · intro h b hb x hx
    have hfits : (b + 1) * k ≤ l.length :=
      (Nat.mul_le_mul_right k hb).trans (Nat.div_mul_le_self _ _)
    have hstart : b * k ≤ l.length := (Nat.mul_le_mul_right k (Nat.le_succ b)).trans hfits
    -- what came before the batch has used up its values
    have hbefore : times x (l.take (b * k)) = b := by
      refine times_eq_of_full hs (fun y hy => ?_) ?_ hx
      · have := h (b * k) hstart y hy
        rwa [Nat.mul_div_cancel b hpos] at this
      · rw [hk]
        exact List.length_take_le _ _
    have hafter := h ((b + 1) * k) hfits x hx
    rw [Nat.mul_div_cancel (b + 1) hpos, times_take_succ, hbefore] at hafter
    exact times_pos_iff.1 (by omega)
  · intro h n hn x hx
    have hbatches := le_times_of_batches (q := n / k) fun b hb =>
      h b (Nat.lt_of_lt_of_le hb (Nat.div_le_div_right hn)) x hx
    have hsub : l.take (n / k * k) <+: l.take n :=
      List.take_prefix_take_left (Nat.div_mul_le_self n k)
    exact hbatches.trans hsub.sublist.countP_le

end Batches

/-! ## Where tokens come from -/

/-- The ways by which the tokens of an instance came to its queue, in
order: the first tokens by none. -/
def origins (p : Workflow) (h : List Mark) : List (Option Way) :=
  p.startEvents.map (fun _ => none) ++ (ways h).map some

/-- **The ways by which tokens have arrived** at an element, in order. -/
def arrived (p : Workflow) (h : List Mark) (id : String) : List (Option Way) :=
  (((visited h).zip (origins p h)).filter fun v => v.1 == id).map (·.2)

/-- How many tokens have arrived over a way. -/
def arrivedOver (p : Workflow) (h : List Mark) (w : Way) : Nat :=
  times (some w) (arrived p h w.1.target)

/-- A zip grows at the end, if its second list was long enough. -/
theorem zip_isPrefix {α β : Type} {xs xs' : List α} {ys ys' : List β} (hxs : xs <+: xs')
    (hys : ys <+: ys') (hlen : xs.length ≤ ys.length) : xs.zip ys <+: xs'.zip ys' := by
  obtain ⟨zs, rfl⟩ := hys
  obtain ⟨us, rfl⟩ := hxs
  induction xs generalizing ys with
  | nil => exact List.nil_prefix
  | cons x xs ih =>
    cases ys with
    | nil => simp at hlen
    | cons y ys =>
      simp only [List.length_cons, Nat.add_le_add_iff_right] at hlen
      exact (List.prefix_cons_inj _).2 (ih hlen)

/-- At some moment there were as many visits as one likes, up to those that
there are. -/
theorem exists_prefix_of_le_count (h : List Mark) {id : String} {n : Nat}
    (hn : n ≤ (visited h).count id) : ∃ h', h' <+: h ∧ (visited h').count id = n := by
  induction h using List.reverseRecOn with
  | nil => exact ⟨[], List.prefix_rfl, (Nat.le_zero.1 hn).symm⟩
  | append_singleton h m ih =>
    by_cases hlt : n ≤ (visited h).count id
    · obtain ⟨h', hp, hcount⟩ := ih hlt
      exact ⟨h', hp.trans (List.prefix_append ..), hcount⟩
    · refine ⟨h ++ [m], List.prefix_rfl, ?_⟩
      rcases hitem : m.item? with _ | item
      · rw [visited_concat_visit hitem, List.count_append, List.count_singleton] at hn ⊢
        by_cases hid : (m.element.id == id) = true
        · rw [if_pos hid] at hn ⊢
          omega
        · rw [if_neg hid] at hn ⊢
          omega
      · rw [visited_concat_item hitem] at hn
        exact absurd hn hlt

end Engine

namespace Workflow

variable {p : Workflow} {id : String} {w : Way}

theorem mem_waysFrom : w ∈ p.waysFrom id ↔ w ∈ p.flows.zipIdx ∧ w.1.source = id := by
  simp [waysFrom]

theorem mem_waysTo : w ∈ p.waysTo id ↔ w ∈ p.flows.zipIdx ∧ w.1.target = id := by
  simp [waysTo]

/-- A way enters an element once, as its place says. -/
theorem nodup_waysTo (p : Workflow) (id : String) : (p.waysTo id).Nodup := by
  have hplaces : (p.flows.zipIdx.map Prod.snd).Nodup := by
    rw [List.zipIdx_map_snd]
    exact List.nodup_range'
  exact (List.Nodup.of_map _ hplaces).filter _

theorem length_waysTo (p : Workflow) (id : String) :
    (p.waysTo id).length = (p.incoming id).length := by
  rw [← p.map_waysTo, List.length_map]

end Workflow

/-- The ways that a mark takes leave its element. -/
theorem Mark.mem_waysFrom {m : Mark} {w : Way} (h : w ∈ m.ways) :
    w ∈ m.after.workflow.waysFrom m.element.id := by
  have hopen : w ∈ m.openWays → w ∈ m.after.workflow.waysFrom m.element.id :=
    fun h => (List.mem_filter.1 h).1
  unfold Mark.ways at h
  split at h
  · cases h
  · split at h
    · split at h
      · cases h
      · cases h
      · rcases Option.or_eq_some_iff.1 (Option.mem_toList.1 h) with h | ⟨-, h⟩ <;>
          exact List.mem_of_find?_eq_some h
      · split at h
        · cases h
        · exact hopen h
      all_goals exact hopen h
    · exact hopen h

open Engine (visited ways passes origins arrived arrivedOver batch)

namespace Course

variable {h h' : List Mark} {i j : Instance}

/-- The tokens that an instance has visited came from somewhere. -/
theorem length_visited_le (hc : Course h i) :
    (visited h).length ≤ (origins i.workflow h).length := by
  obtain ⟨left, hq, -⟩ := hc.queue
  have hlen := congrArg List.length hq
  simp only [List.length_append, List.length_map, Instance.starts] at hlen
  simp only [origins, List.length_append, List.length_map]
  omega

theorem length_arrived (hc : Course h i) (id : String) :
    (arrived i.workflow h id).length = (visited h).count id := by
  have hfst : ((visited h).zip (origins i.workflow h)).map (·.1) = visited h :=
    List.map_fst_zip hc.length_visited_le
  rw [arrived, List.length_map, ← List.countP_eq_length_filter]
  conv => rhs; rw [← hfst]
  rw [List.count, List.countP_map]
  rfl

/-- Arrivals come one after another. -/
theorem arrived_isPrefix (hc : Course h i) (hp : h <+: h') (id : String) :
    arrived i.workflow h id <+: arrived i.workflow h' id := by
  obtain ⟨t, rfl⟩ := hp
  have hvisited : visited h <+: visited (h ++ t) := by
    rw [Engine.visited_append]
    exact List.prefix_append ..
  have horigins : origins i.workflow h <+: origins i.workflow (h ++ t) := by
    rw [origins, origins, ways, ways, List.flatMap_append, List.map_append, ← List.append_assoc]
    exact List.prefix_append ..
  exact ((Engine.zip_isPrefix hvisited horigins hc.length_visited_le).filter _).map _

/-- **An element does something only once a token has come to it.** -/
theorem visited_of_mem (hc : Course h i) {m : Mark} (hm : m ∈ h) : m.element.id ∈ visited h := by
  obtain ⟨before, hp⟩ := Engine.exists_isPrefix hm
  cases hv : m.isVisit with
  | true => exact Engine.mem_visited hm hv
  | false =>
    obtain ⟨m', hm', hparks, helement⟩ := hc.exists_parks hp hv
    rw [← helement]
    have hm' := hp.subset (List.mem_append_left _ hm')
    exact Engine.mem_visited hm' (Bool.and_eq_true_iff.1 hparks).1

/-- A token visits the element that its way leads to. -/
theorem target_of_mem_zip {id : String} {w : Way} (hc : Course h i)
    (hw : (id, some w) ∈ (visited h).zip (origins i.workflow h)) :
    w ∈ ways h ∧ w.1.target = id := by
  obtain ⟨left, hq, -⟩ := hc.queue
  have hpre : visited h <+: i.starts ++ (ways h).map fun w => w.1.target := ⟨left, hq⟩
  have hmem := (Engine.zip_isPrefix hpre List.prefix_rfl hc.length_visited_le).subset hw
  rw [origins, List.zip_append (by simp [Instance.starts]), List.zip_map', List.mem_append] at hmem
  rcases hmem with hnone | hsome
  · obtain ⟨-, hnone⟩ := List.of_mem_zip hnone
    simp at hnone
  · obtain ⟨w', hw', heq⟩ := List.mem_map.1 hsome
    cases heq
    exact ⟨hw', rfl⟩

/-- **What has arrived by a way** came to its target from its source. -/
theorem of_arrived {id : String} {w : Way} (hc : Course h i)
    (hw : some w ∈ arrived i.workflow h id) :
    w ∈ i.workflow.waysTo id ∧ w.1.source ∈ visited h := by
  rw [arrived, List.mem_map] at hw
  obtain ⟨⟨id', o⟩, hmem, rfl⟩ := hw
  rw [List.mem_filter] at hmem
  obtain ⟨hmem, hid⟩ := hmem
  obtain rfl : id' = id := by simpa using hid
  obtain ⟨hway, htarget⟩ := hc.target_of_mem_zip hmem
  obtain ⟨m, hm, hmw⟩ := List.mem_flatMap.1 hway
  obtain ⟨hof, -⟩ := hc.sound m hm
  have hfrom := Mark.mem_waysFrom hmw
  rw [hof.workflow_eq, Workflow.mem_waysFrom] at hfrom
  exact ⟨Workflow.mem_waysTo.2 ⟨hfrom.1, htarget⟩, hfrom.2 ▸ hc.visited_of_mem hm⟩

/-! ## When a join has waited for every flow -/

section Joins

variable {g : String} {e : Workflow.Element} {k : Nat}

/-- A join passes once for each full batch. -/
theorem passes_eq (hc : Course h i) (hg : i.workflow.element? g = some e)
    (hkind : e.kind = .parallelGateway) (hk : (i.workflow.incoming g).length = k) (hmany : 1 < k) :
    passes h g = (arrived i.workflow h g).length / k := by
  obtain ⟨hcount, hlt⟩ := hc.joins hg hkind hk hmany
  rw [hc.length_arrived, hcount, Nat.mul_add_div (by omega), Nat.div_eq_of_lt hlt, Nat.add_zero]

/-- **A join has waited for every flow** at every moment exactly if each
batch that it let go has a token from each flow. -/
theorem waited_iff (hc : Course h i) (hg : i.workflow.element? g = some e)
    (hkind : e.kind = .parallelGateway) (hk : (i.workflow.incoming g).length = k) (hmany : 1 < k) :
    (∀ h', h' <+: h → ∀ w ∈ i.workflow.waysTo g, passes h' g ≤ arrivedOver i.workflow h' w) ↔
      ∀ b < passes h g, ∀ w ∈ i.workflow.waysTo g, some w ∈ batch k (arrived i.workflow h g) b := by
  have hnodup : ((i.workflow.waysTo g).map some).Nodup :=
    (i.workflow.nodup_waysTo g).map (Option.some_injective _)
  have hbatches := Engine.batches_iff (l := arrived i.workflow h g) hnodup
    (by rw [List.length_map, i.workflow.length_waysTo, hk]) (Nat.zero_lt_of_lt hmany)
  simp only [List.forall_mem_map] at hbatches
  rw [hc.passes_eq hg hkind hk hmany, ← hbatches]
  -- the moments of the join are the initial segments of its arrivals
  have hmoment : ∀ h₁, h₁ <+: h → ∃ n ≤ (arrived i.workflow h g).length,
      (visited h₁).count g = n ∧ passes h₁ g = n / k ∧
        arrived i.workflow h₁ g = (arrived i.workflow h g).take n := by
    intro h₁ hp
    obtain ⟨j, hj, hjw⟩ := hc.of_isPrefix hp
    have hpre := hj.arrived_isPrefix hp g
    have hpasses := hj.passes_eq (hjw ▸ hg) hkind (hjw ▸ hk) hmany
    have hlength := hj.length_arrived g
    rw [hjw] at hpre hpasses hlength
    exact ⟨_, hpre.length_le, hlength.symm, hpasses, List.prefix_iff_eq_take.1 hpre⟩
  constructor
  · intro hwaited n hn w hw
    rw [hc.length_arrived] at hn
    obtain ⟨h₁, hp, hcount⟩ := Engine.exists_prefix_of_le_count h hn
    obtain ⟨m, -, hm, hpasses, harrived⟩ := hmoment h₁ hp
    obtain rfl : m = n := hm.symm.trans hcount
    have hover := hwaited h₁ hp w hw
    rwa [hpasses, arrivedOver, (Workflow.mem_waysTo.1 hw).2, harrived] at hover
  · intro hbatch h₁ hp w hw
    obtain ⟨n, hn, -, hpasses, harrived⟩ := hmoment h₁ hp
    rw [hpasses, arrivedOver, (Workflow.mem_waysTo.1 hw).2, harrived]
    exact hbatch n hn w hw

end Joins

end Course

namespace Engine

open Operation (Library)

/-- **A join passes by count.** At every moment of every instance, a
parallel gateway with several incoming flows has passed once for each full
batch of arrivals. So it has at every moment passed no more often than
tokens came over each of its flows exactly if each batch has a token from
each flow; and a token comes over a flow only if the source of the flow was
visited. -/
theorem joins_by_count (library : Library) (stepLimit drawn now : Nat) (turns : List Turn) :
    let e := new library stepLimit drawn now
    ∀ i ∈ (e.after turns).instances, ∀ g element, i.workflow.element? g = some element →
      element.kind = .parallelGateway → 1 < (i.workflow.incoming g).length →
      ∀ h, h <+: e.history turns i.id →
        passes h g = (arrived i.workflow h g).length / (i.workflow.incoming g).length ∧
        ((∀ h', h' <+: h → ∀ w ∈ i.workflow.waysTo g,
            passes h' g ≤ arrivedOver i.workflow h' w) ↔
          ∀ b < passes h g, ∀ w ∈ i.workflow.waysTo g,
            some w ∈ batch (i.workflow.incoming g).length (arrived i.workflow h g) b) ∧
        ∀ w, some w ∈ arrived i.workflow h g →
          w ∈ i.workflow.waysTo g ∧ w.1.source ∈ visited h := by
  intro e i hi g element hg hkind hmany h hp
  obtain ⟨j, hj, hjw⟩ := (course_after library stepLimit drawn now turns i hi).of_isPrefix hp
  rw [← hjw] at hg hmany ⊢
  exact ⟨hj.passes_eq hg hkind rfl hmany, hj.waited_iff hg hkind rfl hmany,
    fun w hw => hj.of_arrived hw⟩

/-- The signature joins its two branches once both have come. -/
theorem signature_joined :
    let e := new {} 20 0 0
    ∃ i ∈ (e.after signedTurns).instances,
      passes (e.history signedTurns i.id) "join" = 1 ∧
      ∀ h', h' <+: e.history signedTurns i.id → ∀ w ∈ i.workflow.waysTo "join",
        passes h' "join" ≤ arrivedOver i.workflow h' w := by
  intro e
  have hfound : ((e.after signedTurns).instance? (identifier 1)).map (·.workflow) =
      some signatureWorkflow := by decide +kernel
  obtain ⟨i, hi, hw⟩ := Option.map_eq_some_iff.1 hfound
  obtain ⟨hmem, hid⟩ := mem_of_instance? hi
  obtain ⟨-, hwaited, -⟩ := joins_by_count {} 20 0 0 signedTurns i hmem "join"
    { id := "join", kind := .parallelGateway } (by rw [hw]; decide) rfl (by rw [hw]; decide)
    _ List.prefix_rfl
  rw [hid, hw] at hwaited
  have hpasses : passes (e.history signedTurns (identifier 1)) "join" = 1 := by decide +kernel
  have hways : signatureWorkflow.waysTo "join" =
      [({ id := "d", source := "sign", target := "join" }, 3),
        ({ id := "e", source := "note", target := "join" }, 4)] := rfl
  have harrived : arrived signatureWorkflow (e.history signedTurns (identifier 1)) "join" =
      [some ({ id := "e", source := "note", target := "join" }, 4),
        some ({ id := "d", source := "sign", target := "join" }, 3)] := by decide +kernel
  refine ⟨i, hmem, ?_⟩
  rw [hid, hw]
  refine ⟨hpasses, hwaited.2 fun b hb w hmem => ?_⟩
  rw [hpasses, Nat.lt_one_iff] at hb
  rw [hb, harrived]
  rw [hways] at hmem
  rcases hmem with _ | ⟨_, _ | ⟨_, hmem⟩⟩
  · exact List.mem_cons_of_mem _ List.mem_cons_self
  · exact List.mem_cons_self
  · cases hmem

/-- A workflow that forks to the same script twice, and joins what comes
from it with what a user has signed. -/
def doubledWorkflow : Workflow where
  id := "doubled"
  elements := [{ id := "begin", kind := .startEvent }, { id := "fork", kind := .parallelGateway },
    { id := "note", kind := .scriptTask none none }, { id := "sign", kind := .userTask none [] none },
    { id := "join", kind := .parallelGateway }, { id := "file", kind := .userTask none [] none }]
  flows := [{ id := "a", source := "begin", target := "fork" },
    { id := "b", source := "fork", target := "note" },
    { id := "c", source := "fork", target := "note" },
    { id := "d", source := "note", target := "join" },
    { id := "e", source := "sign", target := "join" },
    { id := "f", source := "join", target := "file" }]

/-- An instance of the doubled workflow is started. -/
def doubledTurns : List Turn := [.call (.deploy doubledWorkflow), .call (.start "doubled" [])]

/-- **A join may pass without a branch**: both tokens have come over the
flow of the script, none over that of the signature, and nobody was asked
to sign. -/
theorem join_without_branch :
    let e := new {} 20 0 0
    ∃ i ∈ (e.after doubledTurns).instances,
      i.workflow.element? "join" = some { id := "join", kind := .parallelGateway } ∧
      1 < (i.workflow.incoming "join").length ∧
      passes (e.history doubledTurns i.id) "join" = 1 ∧
      ∃ w ∈ i.workflow.waysTo "join",
        arrivedOver i.workflow (e.history doubledTurns i.id) w = 0 ∧
        w.1.source ∉ visited (e.history doubledTurns i.id) := by
  intro e
  have hfound : ((e.after doubledTurns).instance? (identifier 1)).map (·.workflow) =
      some doubledWorkflow := by decide +kernel
  obtain ⟨i, hi, hw⟩ := Option.map_eq_some_iff.1 hfound
  obtain ⟨hmem, hid⟩ := mem_of_instance? hi
  refine ⟨i, hmem, ?_⟩
  rw [hid, hw]
  exact ⟨by decide, by decide, by decide +kernel,
    ({ id := "e", source := "sign", target := "join" }, 4),
    List.mem_cons_of_mem _ List.mem_cons_self, by decide +kernel, by decide +kernel⟩

end Engine

end WorkflowCanvas
