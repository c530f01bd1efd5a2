import WorkflowCanvas.Proofs.Engine.Course
import WorkflowCanvas.Proofs.Engine.Lifecycle
/-!
# No token is lost or doubled

The tokens of an instance form one queue. What was visited, followed by
what still waits in the queue, is what the instance was started with,
followed by what its marks have queued (`Course.queue`). Where a token does
not go on at once, something counts it: a work item at a user step
(`Course.work`), an arrival at a join (`Course.joins`). Between calls the
queue is empty, so that every token is accounted for
(`tokens_conserved`).
-/


namespace WorkflowCanvas

/-! ## What a history counts -/

namespace Engine

variable {h h' : List Mark} {m : Mark} {id : String}

/-- The ids of the elements that tokens have visited, in order. -/
def visited (h : List Mark) : List String := (h.filter (·.isVisit)).map (·.element.id)

/-- The ids that were queued, in order. -/
def queued (h : List Mark) : List String := h.flatMap (·.queued)

/-- The ways that tokens have taken, in order. -/
def ways (h : List Mark) : List Workflow.Way := h.flatMap (·.ways)

/-- The work items that were completed, in order. -/
def finished (h : List Mark) : List WorkItem := h.filterMap (·.item?)

/-- How often a gateway has passed. -/
def passes (h : List Mark) (gateway : String) : Nat :=
  h.countP fun m => m.passes && m.element.id == gateway

/-- What was marked was marked behind what came before. -/
theorem exists_isPrefix (hm : m ∈ h) : ∃ before, before ++ [m] <+: h := by
  obtain ⟨before, later, rfl⟩ := List.append_of_mem hm
  exact ⟨before, later, by simp⟩

theorem mem_visited (hm : m ∈ h) (hv : m.isVisit = true) : m.element.id ∈ visited h :=
  List.mem_map_of_mem (List.mem_filter.2 ⟨hm, hv⟩)

theorem visited_append (h h' : List Mark) : visited (h ++ h') = visited h ++ visited h' := by
  rw [visited, List.filter_append, List.map_append]
  rfl

theorem visited_concat_visit (hm : m.item? = none) :
    visited (h ++ [m]) = visited h ++ [m.element.id] := by
  simp [visited, List.filter_append, Mark.isVisit, hm]

theorem visited_concat_item {item : WorkItem} (hm : m.item? = some item) :
    visited (h ++ [m]) = visited h := by
  simp [visited, List.filter_append, Mark.isVisit, hm]

theorem finished_concat (h : List Mark) (m : Mark) :
    finished (h ++ [m]) = finished h ++ m.item?.toList := by
  rcases hm : m.item? with _ | w <;> simp [finished, hm]

theorem ways_concat (h : List Mark) (m : Mark) : ways (h ++ [m]) = ways h ++ m.ways := by
  rw [ways, List.flatMap_append, List.flatMap_singleton]
  rfl

theorem passes_concat (h : List Mark) (m : Mark) (gateway : String) :
    passes (h ++ [m]) gateway =
      passes h gateway + if m.passes = true ∧ m.element.id = gateway then 1 else 0 := by
  rw [passes, List.countP_append, List.countP_singleton]
  simp [passes]

/-- What lawful marks have queued are the targets of the ways taken. -/
theorem queued_eq (h : ∀ m ∈ h', m.Lawful) : queued h' = (ways h').map fun w => w.1.target := by
  rw [queued, ways, List.map_flatMap]
  exact List.flatMap_congr fun m hm => (h m hm).queued_eq

/-- Taking a work item leaves the others. -/
theorem perm_takeItem? {name : String} {ws others : List WorkItem} {item : WorkItem}
    (h : takeItem? name ws = some (item, others)) : ws.Perm (item :: others) := by
  induction ws generalizing others with
  | nil => cases h
  | cons w ws ih =>
    unfold takeItem? at h
    split at h
    · cases h
      exact List.Perm.refl _
    · rcases ht : takeItem? name ws with _ | ⟨found, rest⟩ <;> rw [ht] at h
      · cases h
      · cases h
        exact ((ih ht).cons w).trans (List.Perm.swap ..)

end Engine

/-- The flow that is chosen leaves the gateway. -/
theorem Run.mem_of_chooseFlow? {p : Workflow} {gateway : String} {vars : Table Json}
    {f : Workflow.Flow} (h : chooseFlow? p gateway vars = some f) : f ∈ p.outgoing gateway := by
  rcases Option.or_eq_some_iff.1 h with h | ⟨-, h⟩ <;> exact List.mem_of_find?_eq_some h

namespace Mark

variable {h : List Mark} {i : Instance} {m : Mark}

/-- A token is left for a user. -/
def parks (m : Mark) : Bool := m.isVisit && m.element.kind.isUserTask

/-- A failed mark takes no way. -/
theorem Fatal.ways_eq (h : m.Fatal) : m.ways = [] := by
  rw [ways, if_pos (by simp [failed, h.state_eq])]

theorem Fatal.waiting_eq (h : m.Fatal) (g : String) : m.after.waiting g = m.before.waiting g := by
  rw [Instance.waiting, h.arrivals_eq]
  rfl

/-- A mark that did not stop its instance is lawful. -/
theorem Sound.lawful (h : m.Sound) (hh : m.after.state.isHalted = false) : m.Lawful := by
  refine h.resolve_right fun hf => ?_
  rw [hf.state_eq] at hh
  cases hh

theorem Of.eq_element {p : Workflow} {e : Workflow.Element} (h : m.Of p)
    (he : p.element? m.element.id = some e) : m.element = e :=
  Option.some.inj (h.element?_eq.symm.trans he)

/-- A token that was taken off the queue: the visits are one longer. -/
theorem Takes.queue {left origins : List String} (ht : m.Takes i)
    (hleft : left = i.tokens) (hq : Engine.visited h ++ left = origins) :
    Engine.visited (h ++ [m]) ++ m.before.tokens = origins := by
  cases ht with
  | @token id rest htokens he hitem hm =>
    rw [Engine.visited_concat_visit hitem, Workflow.id_of_element? he, ← hq, hleft, htokens, hm,
      List.append_assoc]
    rfl
  | item _ _ hitem hm =>
    rw [Engine.visited_concat_item hitem, ← hq, hleft, hm]
    rfl

/-- A mark that takes all open ways queues the targets of the open flows. -/
theorem Lawful.queued_of_openWays (h : m.Lawful) (hw : m.ways = m.openWays) :
    m.queued = m.openFlows.map (·.target) := by
  rw [h.queued_eq, hw, ← m.map_openWays, List.map_map]
  rfl

theorem Lawful.queued_of_through (h : m.Lawful)
    (hk : m.isVisit = true → m.element.kind = .startEvent ∨ m.element.kind.isAutomatic = true) :
    m.queued = m.openFlows.map (·.target) :=
  h.queued_of_openWays (Run.ways_of_through h.state_eq hk)

theorem Lawful.queued_of_kept (h : m.Lawful) (hv : m.isVisit = true)
    (hk : m.element.kind = .endEvent ∨ m.element.kind.isUserTask = true) : m.queued = [] := by
  rw [h.queued_eq, Run.ways_of_kept h.state_eq hv hk]
  rfl

theorem Lawful.queued_of_gateway (h : m.Lawful) (hk : m.element.kind = .parallelGateway) :
    m.queued =
      if m.isJoin = true ∧ m.passes = false then [] else m.openFlows.map (·.target) := by
  have hw := Run.ways_of_gateway h.state_eq hk
  split
  · next hwait =>
    rw [h.queued_eq, hw, if_pos hwait]
    rfl
  · next hgo => exact h.queued_of_openWays (by rw [hw, if_neg hgo])

/-- An exclusive gateway queues one target. -/
theorem Lawful.queued_of_choice (h : m.Lawful) (hv : m.isVisit = true)
    (hk : m.element.kind = .exclusiveGateway) :
    ∃ f, Run.chooseFlow? m.after.workflow m.element.id m.after.vars = some f ∧
      f ∈ m.after.workflow.outgoing m.element.id ∧ m.queued = [f.target] := by
  have hways := Run.ways_of_choice h.state_eq hv hk
  have hflow := m.after.workflow.map_chosenWay? m.element.id m.after.vars
  rcases hw : m.after.workflow.chosenWay? m.element.id m.after.vars with _ | w
  · rw [hw] at hways
    exact absurd hways (h.choice hv hk)
  · rw [hw] at hways hflow
    refine ⟨w.1, hflow.symm, Run.mem_of_chooseFlow? hflow.symm, ?_⟩
    rw [h.queued_eq, hways]
    rfl

/-- A join that a token arrives at counts one more, or passes. -/
theorem Lawful.arrive {g : String} {k : Nat} (hl : m.Lawful)
    (hjoin : m.isJoin = true) (hid : m.element.id = g)
    (hk : (m.after.workflow.incoming g).length = k) (hlt : m.before.waiting g < k) :
    (m.passes = true ∧ m.before.waiting g + 1 = k ∧ m.after.waiting g = 0) ∨
    (m.passes = false ∧ m.before.waiting g + 1 < k ∧ m.after.waiting g = m.before.waiting g + 1) := by
  have hw := hl.waiting_eq g
  rw [if_pos ⟨hjoin, hid⟩, hk] at hw
  have hpasses : m.passes = (m.after.waiting g == 0) := by
    rw [passes, hjoin, hid, Bool.true_and]
  by_cases hlast : m.before.waiting g + 1 < k
  · rw [if_pos hlast] at hw
    exact Or.inr ⟨by simp [hpasses, hw], hlast, hw⟩
  · rw [if_neg hlast] at hw
    exact Or.inl ⟨by simp [hpasses, hw], by omega, hw⟩

/-- A join that no token arrives at neither counts nor passes. -/
theorem Sound.alone {g : String} (hs : m.Sound) (hv : ¬ (m.isVisit = true ∧ m.element.id = g)) :
    m.after.waiting g = m.before.waiting g ∧ ¬ (m.passes = true ∧ m.element.id = g) := by
  have hjoin : ¬ (m.isJoin = true ∧ m.element.id = g) := by
    rintro ⟨hjoin, hid⟩
    simp only [isJoin, Bool.and_eq_true] at hjoin
    exact hv ⟨hjoin.1.1, hid⟩
  constructor
  · rcases hs with hl | hf
    · rw [hl.waiting_eq g, if_neg hjoin]
    · exact hf.waiting_eq g
  · rintro ⟨hp, hid⟩
    simp only [passes, Bool.and_eq_true] at hp
    exact hjoin ⟨hp.1, hid⟩

end Mark

open Engine (visited queued ways finished passes)

namespace Course

variable {h before : List Mark} {i : Instance} {m : Mark}

/-! ## The queue -/

/-- **The queue of an instance.** The ids visited, and then those that
wait, are the ids of the first tokens and then those that were queued. An
instance that was halted has lost the ones that waited. -/
theorem queue (hc : Course h i) :
    ∃ left, visited h ++ left = i.starts ++ (ways h).map (fun w => w.1.target) ∧
      (i.state.isHalted = false → left = i.tokens) := by
  induction hc with
  | @opened i hs htokens _ _ _ =>
    exact ⟨i.tokens, by rw [htokens]; exact (List.append_nil _).symm, fun _ => rfl⟩
  | @marked h i m hc hactive ht hs ih =>
    obtain ⟨left, hq, hleft⟩ := ih
    have hbefore := ht.queue (hleft (by rw [hactive]; rfl)) hq
    have hstarts : m.after.starts = i.starts := by
      rw [Instance.starts, (ht.of_sound hs).workflow_eq]
      rfl
    rw [hstarts, Engine.ways_concat, List.map_append, ← List.append_assoc, ← hbefore]
    rcases hs with hl | hf
    · refine ⟨m.after.tokens, ?_, fun _ => rfl⟩
      rw [hl.tokens_eq, List.append_assoc]
    · refine ⟨m.before.tokens, ?_, fun hh => ?_⟩
      · rw [hf.ways_eq, List.map_nil, List.append_nil]
      · rw [hf.state_eq] at hh
        cases hh
  | halted _ hw _ hh ih =>
    -- the queue is gone, and what waited in it is what is left over
    obtain ⟨left, hq, -⟩ := ih
    refine ⟨left, ?_, fun hh' => ?_⟩
    · rw [hq, Instance.starts, Instance.starts, hw]
    · rw [hh] at hh'
      cases hh'
  | moved _ hh _ ih =>
    obtain ⟨left, hq, hleft⟩ := ih
    exact ⟨left, hq, fun _ => hleft hh⟩

/-- **The marks of an instance that was not halted are lawful**, and the
visits are as many as it counts. -/
theorem lawful (hc : Course h i) (hh : i.state.isHalted = false) :
    (∀ m ∈ h, m.Lawful) ∧ (visited h).length = i.steps := by
  induction hc with
  | opened _ _ _ _ hsteps => exact ⟨fun m hm => absurd hm List.not_mem_nil, hsteps.symm⟩
  | @marked h i m hc hactive ht hs ih =>
    obtain ⟨hall, hsteps⟩ := ih (by rw [hactive]; rfl)
    have hl := hs.lawful hh
    refine ⟨fun m' hm' => ?_, ?_⟩
    · rcases List.mem_append.1 hm' with hm' | hm'
      · exact hall m' hm'
      · rw [List.mem_singleton.1 hm']
        exact hl
    · rw [hl.steps_eq]
      cases ht with
      | token _ _ hitem hm => simp [Engine.visited_concat_visit hitem, hsteps, hm]
      | item _ _ hitem hm =>
        rw [Engine.visited_concat_item hitem, hsteps, hm]
        rfl
  | halted _ _ _ hh' =>
    rw [hh'] at hh
    cases hh
  | moved _ hh' _ ih => exact ih hh'

/-! ## Work items -/

/-- **A visit of a user step is a work item**, pending or completed. -/
theorem work {u : String} {e : Workflow.Element} (hc : Course h i)
    (hh : i.state.isHalted = false) (hu : i.workflow.element? u = some e)
    (hk : e.kind.isUserTask = true) :
    (visited h).count u =
      i.pending.countP (·.nodeId == u) + (finished h).countP (·.nodeId == u) := by
  induction hc with
  | opened _ _ _ hpend => simp [visited, finished, hpend]
  | @marked h i m hc hactive ht hs ih =>
    have hof := ht.of_sound hs
    -- the instance goes on, so that its last mark is lawful
    have hl := hs.lawful hh
    rw [hof.workflow_eq] at hu
    have ih := ih (by rw [hactive]; rfl) hu
    rw [hl.pending_eq u]
    cases ht with
    | @token id rest _ he hitem hm =>
      have hvisit : m.isVisit = true := by simp [Mark.isVisit, hitem]
      have hpend : m.before.pending = i.pending := by rw [hm]
      rw [Engine.visited_concat_visit hitem, List.count_append, List.count_singleton, ih, hpend,
        Engine.finished_concat, hitem, Option.toList_none, List.append_nil]
      by_cases hid : m.element.id = u
      · -- a token that visits `u` visits the user step
        have hkind : m.element.kind.isUserTask = true := by
          rw [hof.eq_element (hid ▸ hu), hk]
        rw [if_pos (by simp [hid]), if_pos ⟨hvisit, hkind, hid⟩]
        omega
      · rw [if_neg (by simp [hid]), if_neg (fun h => hid h.2.2)]
        omega
    | @item name w others vars htake he hitem hm =>
      have hkept : ¬ (m.isVisit = true ∧ m.element.kind.isUserTask = true ∧ m.element.id = u) := by
        simp [Mark.isVisit, hitem]
      have hpend : m.before.pending = others := by
        rw [hm]
        rfl
      rw [Engine.visited_concat_item hitem, ih, hpend, Engine.finished_concat, hitem,
        (Engine.perm_takeItem? htake).countP_eq, List.countP_cons, List.countP_append,
        Option.toList_some, List.countP_singleton, if_neg hkept]
      omega
  | halted _ _ _ hh' =>
    rw [hh'] at hh
    cases hh
  | moved _ hh' _ ih => exact ih hh' hu

/-- **A pending item was left by a visit** of its user step. -/
theorem parked_of_pending (hc : Course h i) (hh : i.state.isHalted = false) {w : WorkItem}
    (hw : w ∈ i.pending) : ∃ m ∈ h, m.parks = true ∧ m.element.id = w.nodeId := by
  induction hc generalizing w with
  | opened _ _ _ hpend =>
    rw [hpend] at hw
    cases hw
  | @marked h i m hc hactive ht hs ih =>
    have hcount : 0 < m.after.pending.countP (·.nodeId == w.nodeId) :=
      List.countP_pos_iff.2 ⟨w, hw, by simp⟩
    rw [(hs.lawful hh).pending_eq] at hcount
    by_cases hv : m.isVisit = true ∧ m.element.kind.isUserTask = true ∧ m.element.id = w.nodeId
    · refine ⟨m, List.mem_append_right _ (List.mem_singleton_self m), ?_, hv.2.2⟩
      rw [Mark.parks, hv.1, hv.2.1, Bool.and_true]
    · -- an item of the same element was pending before
      rw [if_neg hv, Nat.add_zero] at hcount
      obtain ⟨w', hw', hid⟩ := List.countP_pos_iff.1 hcount
      have hbefore : w' ∈ i.pending := by
        cases ht with
        | token _ _ _ hm => rwa [hm] at hw'
        | item htake _ _ hm =>
          rw [hm] at hw'
          exact (Engine.perm_takeItem? htake).mem_iff.2 (List.mem_cons_of_mem _ hw')
      obtain ⟨m', hm', hparks, hid'⟩ := ih (by rw [hactive]; rfl) hbefore
      exact ⟨m', List.mem_append_left _ hm', hparks, hid'.trans (beq_iff_eq.1 hid)⟩
  | halted _ _ _ hh' =>
    rw [hh'] at hh
    cases hh
  | moved _ hh' _ ih => exact ih hh' hw

/-- The last thing that an instance has done, it did where its course had led
before. -/
theorem exists_takes (hc : Course (h ++ [m]) i) :
    ∃ j, Course h j ∧ j.state = .active ∧ m.Takes j ∧ j.workflow = i.workflow := by
  generalize hh : h ++ [m] = h' at hc
  induction hc with
  | opened => exact absurd hh (by simp)
  | @marked h' j m' hc hactive ht hs =>
    obtain ⟨rfl, hm⟩ := List.append_inj' hh rfl
    rw [List.singleton_inj.1 hm]
    exact ⟨j, hc, hactive, ht, (ht.of_sound hs).workflow_eq.symm⟩
  | halted _ hw _ _ ih =>
    obtain ⟨j, hj, hactive, ht, hjw⟩ := ih hh
    exact ⟨j, hj, hactive, ht, hjw.trans hw.symm⟩
  | moved _ _ _ ih => exact ih hh

/-- **A completion comes after the visit that has left its work item.** -/
theorem exists_parks (hc : Course h i) (hp : before ++ [m] <+: h) (hv : m.isVisit = false) :
    ∃ m' ∈ before, m'.parks = true ∧ m'.element = m.element := by
  obtain ⟨j, hj, -⟩ := hc.of_isPrefix hp
  obtain ⟨k, hk, hactive, ht, -⟩ := hj.exists_takes
  cases ht with
  | token _ _ hitem _ =>
    rw [Mark.isVisit, hitem] at hv
    cases hv
  | @item name w others vars htake he _ _ =>
    have hmem := (Engine.perm_takeItem? htake).mem_iff.2 List.mem_cons_self
    obtain ⟨m', hm', hparks, hid⟩ := hk.parked_of_pending (by rw [hactive]; rfl) hmem
    have hof := (hk.sound m' hm').1
    exact ⟨m', hm', hparks, hof.eq_element (hid ▸ he)⟩

/-! ## Joins -/

/-- **A join counts its tokens.** It has passed once for each full number of
its flows, and the tokens over wait. -/
theorem joins {g : String} {e : Workflow.Element} {k : Nat} (hc : Course h i)
    (hg : i.workflow.element? g = some e) (hkind : e.kind = .parallelGateway)
    (hk : (i.workflow.incoming g).length = k) (hmany : 1 < k) :
    (visited h).count g = k * passes h g + i.waiting g ∧ i.waiting g < k := by
  induction hc with
  | @opened i _ _ ha _ _ =>
    have hw : i.waiting g = 0 := by
      rw [Instance.waiting, ha]
      rfl
    rw [hw]
    exact ⟨by simp [visited, passes], by omega⟩
  | @marked h i m hc hactive ht hs ih =>
    have hof := ht.of_sound hs
    rw [hof.workflow_eq] at hg hk
    obtain ⟨hcount, hlt⟩ := ih hg hk
    have hbefore : m.before.waiting g = i.waiting g := by
      cases ht with
      | token _ _ _ hm => rw [hm]; rfl
      | item _ _ _ hm => rw [hm]; rfl
    by_cases hv : m.isVisit = true ∧ m.element.id = g
    · -- a token arrives at the join
      obtain ⟨hvisit, hid⟩ := hv
      have helem := hof.eq_element (hid ▸ hg)
      have hjoin : m.isJoin = true := by
        simp [Mark.isJoin, hvisit, hid, helem ▸ hkind, hof.workflow_eq, hk, hmany]
      have hl : m.Lawful := hs.resolve_right fun hf => by
        rw [hf.not_join] at hjoin
        cases hjoin
      rw [Engine.visited_concat_visit (Option.isNone_iff_eq_none.1 hvisit), List.count_append, hcount,
        List.count_singleton, if_pos (by simp [hid]), Engine.passes_concat]
      rcases hl.arrive hjoin hid (by rw [hof.workflow_eq, hk]) (hbefore ▸ hlt) with
        ⟨hp, hlast, hw⟩ | ⟨hp, hmore, hw⟩
      · rw [if_pos ⟨hp, hid⟩, hw, Nat.mul_add]
        omega
      · rw [if_neg (by simp [hp]), hw, Nat.mul_add]
        omega
    · -- the join is left alone
      obtain ⟨hw, hpass⟩ := hs.alone hv
      rw [hw, hbefore, Engine.passes_concat, if_neg hpass, Nat.add_zero]
      refine ⟨?_, hlt⟩
      rcases hitem : m.item? with _ | w
      · have hid : m.element.id ≠ g := fun hid => hv ⟨by simp [Mark.isVisit, hitem], hid⟩
        rw [Engine.visited_concat_visit hitem, List.count_append, hcount, List.count_singleton,
          if_neg (by simpa using hid), Nat.add_zero]
      · rw [Engine.visited_concat_item hitem, hcount]
  | halted _ hw ha _ ih =>
    rw [hw] at hg hk
    rw [Instance.waiting, ha]
    exact ih hg hk
  | moved _ _ _ ih => exact ih hg hk

end Course

/-! ## Between calls -/

/-- **Every token of an instance is accounted for** by what it has done. -/
structure Instance.Conserved (i : Instance) (h : List Mark) : Prop where
  /-- What was done has led to where the instance is. -/
  course : Course h i
  /-- It was done at elements of its workflow. -/
  marks_of : ∀ m ∈ h, m.Of i.workflow
  /-- An element is visited for each of its initial tokens, and for each
  time that its id was queued. -/
  visits_eq : ∀ id, (visited h).count id = i.starts.count id + (queued h).count id
  steps_eq : (visited h).length = i.steps
  /-- Tokens are queued at the end. -/
  tokens_eq : ∀ m ∈ h, m.after.tokens = m.before.tokens ++ m.queued
  /-- Start events and automatic steps that are visited, and work items that
  are completed, queue the targets of the flows that are open then. -/
  through : ∀ m ∈ h,
    (m.isVisit = true → m.element.kind = .startEvent ∨ m.element.kind.isAutomatic = true) →
    m.queued = m.openFlows.map (·.target)
  /-- So does a parallel gateway, unless it waits for more tokens. -/
  gateways : ∀ m ∈ h, m.isVisit = true → m.element.kind = .parallelGateway →
    m.queued = if m.isJoin = true ∧ m.passes = false then [] else m.openFlows.map (·.target)
  /-- An exclusive gateway queues one target. -/
  choices : ∀ m ∈ h, m.isVisit = true → m.element.kind = .exclusiveGateway →
    ∃ f, Run.chooseFlow? m.after.workflow m.element.id m.after.vars = some f ∧
      f ∈ m.after.workflow.outgoing m.element.id ∧ m.queued = [f.target]
  /-- Visits of end events and user steps queue nothing. -/
  kept : ∀ m ∈ h, m.isVisit = true →
    m.element.kind = .endEvent ∨ m.element.kind.isUserTask = true → m.queued = []
  /-- A user step is visited for each of its work items, pending or
  completed. -/
  user_tasks : ∀ u e, i.workflow.element? u = some e → e.kind.isUserTask = true →
    (visited h).count u =
      i.pending.countP (·.nodeId == u) + (finished h).countP (·.nodeId == u)
  /-- A join passes once for as many visits as it has flows, and the visits
  over are its arrivals. -/
  joins : ∀ g e, i.workflow.element? g = some e → e.kind = .parallelGateway →
    1 < (i.workflow.incoming g).length →
    passes h g = (visited h).count g / (i.workflow.incoming g).length ∧
    i.waiting g = (visited h).count g % (i.workflow.incoming g).length

/-- **A course loses no token**, once its queue is empty. -/
theorem Course.conserved {h : List Mark} {i : Instance} (hc : Course h i)
    (hh : i.state.isHalted = false) (htokens : i.tokens = []) : i.Conserved h := by
  obtain ⟨hlawful, hsteps⟩ := hc.lawful hh
  refine ⟨hc, fun m hm => (hc.sound m hm).1, fun id => ?_, hsteps, fun m hm => ?_,
    fun m hm => (hlawful m hm).queued_of_through, fun m hm _ => (hlawful m hm).queued_of_gateway,
    fun m hm => (hlawful m hm).queued_of_choice, fun m hm => (hlawful m hm).queued_of_kept,
    fun u e hu hk => hc.work hh hu hk, fun g e hg hk hmany => ?_⟩
  · obtain ⟨left, hq, hleft⟩ := hc.queue
    rw [hleft hh, htokens, List.append_nil] at hq
    rw [hq, List.count_append, Engine.queued_eq hlawful]
  · rw [(hlawful m hm).queued_eq, (hlawful m hm).tokens_eq]
  · obtain ⟨hcount, hlt⟩ := hc.joins hg hk rfl hmany
    obtain ⟨hdiv, hmod⟩ := (Nat.div_mod_unique (by omega)).2
      ⟨(Nat.add_comm ..).trans hcount.symm, hlt⟩
    exact ⟨hdiv.symm, hmod.symm⟩

namespace Engine

open Operation (Library)

/-- **No token is lost or doubled.** After any turns, every token of an
instance that has neither failed nor been terminated is accounted for by
its history. -/
theorem tokens_conserved (library : Library) (stepLimit drawn now : Nat) (turns : List Turn) :
    let e := new library stepLimit drawn now
    ∀ i ∈ (e.after turns).instances, i.state ≠ .failed → i.state ≠ .terminated →
      i.Conserved (e.history turns i.id) := by
  intro e i hi hf ht
  have hsettled := (orderly_after library stepLimit drawn now turns).settled i hi
  refine (course_after library stepLimit drawn now turns i hi).conserved ?_ hsettled.tokens_eq
  revert hf ht
  cases i.state <;> simp [InstanceState.isHalted]

/-- A workflow that forks to a user and to a script, and joins again. -/
def signatureWorkflow : Workflow where
  id := "signature"
  elements := [{ id := "begin", kind := .startEvent }, { id := "fork", kind := .parallelGateway },
    { id := "sign", kind := .userTask none [] none }, { id := "note", kind := .scriptTask none none },
    { id := "join", kind := .parallelGateway }, { id := "end", kind := .endEvent }]
  flows := [{ id := "a", source := "begin", target := "fork" },
    { id := "b", source := "fork", target := "sign" },
    { id := "c", source := "fork", target := "note" },
    { id := "d", source := "sign", target := "join" },
    { id := "e", source := "note", target := "join" },
    { id := "f", source := "join", target := "end" }]

/-- The signature is started and signed. -/
def signedTurns : List Turn :=
  [.call (.deploy signatureWorkflow), .call (.start "signature" []),
    .call (.complete (identifier 1) "sign" [])]

/-- The signed instance has come to its end: both tokens of the fork have
reached the join, which has let one go on. -/
theorem signature_conserved :
    let e := new {} 20 0 0
    ∃ i ∈ (e.after signedTurns).instances, i.state = .completed ∧
      i.Conserved (e.history signedTurns i.id) ∧
      visited (e.history signedTurns i.id) =
        ["begin", "fork", "sign", "note", "join", "join", "end"] ∧
      passes (e.history signedTurns i.id) "join" = 1 := by
  intro e
  have hfound : ((e.after signedTurns).instance? (identifier 1)).map (·.state) =
      some .completed := by decide +kernel
  obtain ⟨i, hi, hstate⟩ := Option.map_eq_some_iff.1 hfound
  obtain ⟨hmem, hid⟩ := mem_of_instance? hi
  refine ⟨i, hmem, hstate, tokens_conserved {} 20 0 0 signedTurns i hmem ?_ ?_, ?_⟩
  · simp [hstate]
  · simp [hstate]
  · rw [hid]
    exact ⟨by decide +kernel, by decide +kernel⟩

end Engine

end WorkflowCanvas
