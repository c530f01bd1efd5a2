import WorkflowCanvas.Proofs.Engine.Advance
import WorkflowCanvas.Proofs.Table
/-!
# What an instance does, mark by mark

An engine keeps where an instance is, not how it came there. A mark
records one thing that the instance did: a token visited an element, or
the work item of an element was completed, with the instance right before
and right after. `Run.marks` are the marks of a run, in order. `Lawful`
says what a mark that did not fail changes: the tokens it queues are the
targets of the ways it takes, and it touches the arrivals and the pending
items of its own element alone.
-/


namespace WorkflowCanvas

namespace Workflow

/-- A flow with its place among all flows, which tells equal flows apart. -/
abbrev Way := Flow × Nat

/-- The ways that leave an id, in order. -/
def waysFrom (p : Workflow) (id : String) : List Way :=
  p.flows.zipIdx.filter fun w => w.1.source == id

/-- The ways that enter an id, in order. -/
def waysTo (p : Workflow) (id : String) : List Way :=
  p.flows.zipIdx.filter fun w => w.1.target == id

/-- The way that an exclusive gateway takes. -/
def chosenWay? (p : Workflow) (gateway : String) (vars : Table Json) : Option Way :=
  let ways := p.waysFrom gateway
  let conditioned := ways.find? fun w =>
    match w.1.condition? with
    | some condition => Condition.holds condition vars
    | none => false
  conditioned.or (ways.find? fun w => w.1.condition?.isNone)

theorem map_filter_zipIdx (p : Workflow) (q : Flow → Bool) :
    (p.flows.zipIdx.filter fun w => q w.1).map (·.1) = p.flows.filter q := by
  have h : (p.flows.zipIdx.map Prod.fst).filter q =
      (p.flows.zipIdx.filter (q ∘ Prod.fst)).map Prod.fst := List.filter_map
  rw [List.zipIdx_map_fst] at h
  exact h.symm

/-- The ways that leave an id are its outgoing flows. -/
theorem map_waysFrom (p : Workflow) (id : String) : (p.waysFrom id).map (·.1) = p.outgoing id :=
  p.map_filter_zipIdx fun f => f.source == id

/-- The ways that enter an id are its incoming flows. -/
theorem map_waysTo (p : Workflow) (id : String) : (p.waysTo id).map (·.1) = p.incoming id :=
  p.map_filter_zipIdx fun f => f.target == id

/-- The way that is taken is the flow that is chosen. -/
theorem map_chosenWay? (p : Workflow) (gateway : String) (vars : Table Json) :
    (p.chosenWay? gateway vars).map (·.1) = Run.chooseFlow? p gateway vars := by
  simp only [chosenWay?, Run.chooseFlow?, ← map_waysFrom, List.find?_map, Option.map_or]
  rfl

end Workflow

open Workflow (Way)

/-- One thing that an instance did. -/
structure Mark where
  /-- The work item, if one was completed; otherwise a token visited the
  element. -/
  item? : Option WorkItem
  element : Workflow.Element
  /-- The instance with the token or the work item taken away. -/
  before : Instance
  after : Instance

namespace Mark

/-- A token visited the element. -/
def isVisit (m : Mark) : Bool := m.item?.isNone

/-- The instance has failed at it. -/
def failed (m : Mark) : Bool := m.after.state == .failed

/-- The tokens that were queued. -/
def queued (m : Mark) : List String := m.after.tokens.drop m.before.tokens.length

/-- The flows that leave the element and could be taken at that moment. -/
def openFlows (m : Mark) : List Workflow.Flow :=
  (m.after.workflow.outgoing m.element.id).filter (Run.isOpen m.after.vars)

/-- The element is a parallel gateway that joins several flows. -/
def isJoin (m : Mark) : Bool :=
  m.isVisit && decide (m.element.kind = .parallelGateway) &&
    decide (1 < (m.after.workflow.incoming m.element.id).length)

/-- The join has let its tokens go on: none of them waits any more. -/
def passes (m : Mark) : Bool := m.isJoin && m.after.waiting m.element.id == 0

/-- The ways that leave the element and could be taken at that moment. -/
def openWays (m : Mark) : List Way :=
  (m.after.workflow.waysFrom m.element.id).filter fun w => Run.isOpen m.after.vars w.1

/-- **The ways that tokens took** away from the element, in order. -/
def ways (m : Mark) : List Way :=
  if m.failed then []
  else if m.isVisit then
    match m.element.kind with
    | .endEvent | .userTask .. => []
    | .exclusiveGateway =>
      (m.after.workflow.chosenWay? m.element.id m.after.vars).toList
    | .parallelGateway => if m.isJoin && !m.passes then [] else m.openWays
    | .startEvent | .serviceTask .. | .scriptTask .. => m.openWays
  else m.openWays

theorem map_openWays (m : Mark) : m.openWays.map (·.1) = m.openFlows := by
  rw [openWays, openFlows, ← Workflow.map_waysFrom, List.filter_map]
  rfl

/-- **What a mark changes**, if it did not fail. -/
structure Lawful (m : Mark) : Prop where
  workflow_eq : m.after.workflow = m.before.workflow
  steps_eq : m.after.steps = m.before.steps
  state_eq : m.after.state = .active
  tokens_eq : m.after.tokens = m.before.tokens ++ m.ways.map fun w => w.1.target
  /-- A join counts its tokens up to the number of its flows. -/
  waiting_eq : ∀ g, m.after.waiting g =
    if m.isJoin = true ∧ m.element.id = g then
      if m.before.waiting g + 1 < (m.after.workflow.incoming g).length then
        m.before.waiting g + 1
      else 0
    else m.before.waiting g
  /-- A visit of a user step leaves a work item. -/
  pending_eq : ∀ u, m.after.pending.countP (·.nodeId == u) =
    m.before.pending.countP (·.nodeId == u) +
      if m.isVisit = true ∧ m.element.kind.isUserTask = true ∧ m.element.id = u then 1 else 0
  /-- An exclusive gateway has a way to take. -/
  choice : m.isVisit = true → m.element.kind = .exclusiveGateway → m.ways ≠ []

/-- **What a mark leaves** at which the instance has failed. -/
structure Fatal (m : Mark) : Prop where
  workflow_eq : m.after.workflow = m.before.workflow
  state_eq : m.after.state = .failed
  arrivals_eq : m.after.arrivals = m.before.arrivals
  not_join : m.isJoin = false

/-- What every mark is. -/
def Sound (m : Mark) : Prop := m.Lawful ∨ m.Fatal

theorem Sound.workflow_eq {m : Mark} (h : m.Sound) : m.after.workflow = m.before.workflow :=
  h.elim Lawful.workflow_eq Fatal.workflow_eq

theorem Lawful.queued_eq {m : Mark} (h : m.Lawful) : m.queued = m.ways.map fun w => w.1.target := by
  rw [queued, h.tokens_eq, List.drop_left]

/-- A mark that touches neither arrivals nor pending items. -/
theorem Lawful.of_eq {m : Mark} (hw : m.after.workflow = m.before.workflow)
    (hsteps : m.after.steps = m.before.steps) (hs : m.after.state = .active)
    (ht : m.after.tokens = m.before.tokens ++ m.ways.map fun w => w.1.target)
    (ha : m.after.arrivals = m.before.arrivals) (hp : m.after.pending = m.before.pending)
    (hjoin : m.isJoin = false) (huser : m.isVisit = true → m.element.kind.isUserTask = false)
    (hchoice : m.isVisit = true → m.element.kind = .exclusiveGateway → m.ways ≠ []) :
    m.Lawful where
  workflow_eq := hw
  steps_eq := hsteps
  state_eq := hs
  tokens_eq := ht
  waiting_eq g := by simp [hjoin, Instance.waiting, ha]
  pending_eq u := by
    rw [hp, if_neg]
    · rfl
    · rintro ⟨hv, hk, -⟩
      rw [huser hv] at hk
      cases hk
  choice := hchoice

end Mark

namespace Run

variable {s : Surroundings} {r : Run} {e : Workflow.Element} {o : Except Failure Unit × Run}

/-- The mark of something that a run does at an element. -/
def mark (r : Run) (item? : Option WorkItem) (e : Workflow.Element)
    (o : Except Failure Unit × Run) : Mark :=
  ⟨item?, e, r.inst, o.2.inst⟩

theorem not_failed_of_underway {m : Mark} (h : m.after.state = .active) : m.failed = false := by
  simp [Mark.failed, h]

theorem isJoin_eq_false {m : Mark} (h : m.isVisit = true → m.element.kind ≠ .parallelGateway) :
    m.isJoin = false := by
  by_cases hv : m.isVisit = true
  · simp [Mark.isJoin, h hv]
  · simp [Mark.isJoin, hv]

/-- Following the flows of an element is taking its open ways. -/
theorem tokens_follow (m : Mark) {i : Instance} (hi : m.after.tokens = i.tokens ++
      ((i.workflow.outgoing m.element.id).filter (isOpen i.vars)).map (·.target))
    (hw : m.after.workflow = i.workflow) (hv : m.after.vars = i.vars) :
    m.after.tokens = i.tokens ++ m.openWays.map fun w => w.1.target := by
  have hopen : m.openWays.map (fun w => w.1.target) = m.openFlows.map (·.target) := by
    rw [← m.map_openWays, List.map_map]
    rfl
  rw [hi, hopen, Mark.openFlows, hw, hv]

/-- What lets a token through takes all open ways, and so does a work item
that is completed. -/
theorem ways_of_through {m : Mark} (hactive : m.after.state = .active)
    (hk : m.isVisit = true → m.element.kind = .startEvent ∨ m.element.kind.isAutomatic = true) :
    m.ways = m.openWays := by
  unfold Mark.ways
  rw [not_failed_of_underway hactive]
  by_cases hv : m.isVisit = true
  · rcases hk hv with hk | hk
    · simp [hk]
    · cases hkind : m.element.kind <;> simp_all [Workflow.ElementKind.isAutomatic]
  · simp [hv]

theorem ways_of_gateway {m : Mark} (hactive : m.after.state = .active)
    (hk : m.element.kind = .parallelGateway) :
    m.ways = if m.isJoin = true ∧ m.passes = false then [] else m.openWays := by
  unfold Mark.ways
  rw [not_failed_of_underway hactive]
  by_cases hv : m.isVisit = true
  · simp [hv, hk]
  · simp [hv, Mark.isJoin]

theorem ways_of_choice {m : Mark} (hactive : m.after.state = .active) (hv : m.isVisit = true)
    (hk : m.element.kind = .exclusiveGateway) :
    m.ways = (m.after.workflow.chosenWay? m.element.id m.after.vars).toList := by
  unfold Mark.ways
  rw [not_failed_of_underway hactive]
  simp [hv, hk]

/-- An element that keeps its token takes no way. -/
theorem ways_of_kept {m : Mark} (hactive : m.after.state = .active) (hv : m.isVisit = true)
    (hk : m.element.kind = .endEvent ∨ m.element.kind.isUserTask = true) : m.ways = [] := by
  unfold Mark.ways
  rw [not_failed_of_underway hactive]
  rcases hk with hk | hk
  · simp [hv, hk]
  · cases hkind : m.element.kind <;> simp_all [Workflow.ElementKind.isUserTask]

/-! ## A visit leaves a lawful mark -/

theorem waiting_await (r : Run) (gateway g : String) :
    (r.await gateway).inst.waiting g =
      if gateway = g then r.inst.waiting g + 1 else r.inst.waiting g := by
  by_cases h : gateway = g
  · subst h
    simp [Instance.waiting, await, Table.get?_insert_self]
  · rw [if_neg h]
    simp only [Instance.waiting, await, Table.get?_insert_of_ne _ _ (Ne.symm h)]

theorem waiting_release (r : Run) (gateway g : String) :
    (r.release gateway).inst.waiting g = if gateway = g then 0 else r.inst.waiting g := by
  by_cases h : gateway = g
  · subst h
    simp [Instance.waiting, release, Table.get?_erase_self]
  · rw [if_neg h]
    simp only [Instance.waiting, release, Table.get?_erase_of_ne _ (Ne.symm h)]

/-- A token goes through an element, or a work item is completed there; the
operation of the element may have changed the variables. -/
theorem lawful_through {item? : Option WorkItem} {i : Instance} {store vars : Table Json}
    {emitted : List Event} {drawn : Nat} (hi : i = { r.inst with store, vars })
    (hactive : r.inst.state = .active)
    (hk : item? = none → e.kind = .startEvent ∨ e.kind.isAutomatic = true) :
    (r.mark item? e (.ok (), (Run.mk i emitted drawn).follow e.id)).Lawful := by
  subst hi
  -- a visit is one of a start event or of an automatic step; a completion
  -- may be at any element
  have hvisit : (r.mark item? e (.ok (), (Run.mk { r.inst with store, vars } emitted drawn).follow
      e.id)).isVisit = true → e.kind = .startEvent ∨ e.kind.isAutomatic = true :=
    fun hv => hk (Option.isNone_iff_eq_none.1 hv)
  refine Mark.Lawful.of_eq rfl rfl hactive ?_ rfl rfl (isJoin_eq_false fun hv hg => ?_)
    (fun hv => ?_) fun hv hg => ?_
  · rw [ways_of_through hactive hvisit]
    exact tokens_follow _ (i := { r.inst with store, vars }) rfl rfl rfl
  · change e.kind = _ at hg
    rcases hvisit hv with hk | hk <;> simp [hg, Workflow.ElementKind.isAutomatic] at hk
  · show e.kind.isUserTask = false
    rcases hvisit hv with hk | hk
    · rw [hk]
      rfl
    · cases hkind : e.kind <;> simp_all [Workflow.ElementKind.isAutomatic,
        Workflow.ElementKind.isUserTask]
  · change e.kind = _ at hg
    rcases hvisit hv with hk | hk <;> simp [hg, Workflow.ElementKind.isAutomatic] at hk

theorem lawful_park (hactive : r.inst.state = .active) (hk : e.kind.isUserTask = true) :
    (r.mark none e (.ok (), r.park e)).Lawful where
  workflow_eq := rfl
  steps_eq := rfl
  state_eq := hactive
  tokens_eq := by
    rw [ways_of_kept hactive rfl (Or.inr hk)]
    exact (List.append_nil _).symm
  waiting_eq g := by
    have hjoin : (r.mark none e (.ok (), r.park e)).isJoin = false := by
      refine isJoin_eq_false fun _ hg => ?_
      change e.kind = _ at hg
      simp [hg, Workflow.ElementKind.isUserTask] at hk
    rw [hjoin]
    simp only [Bool.false_eq_true, false_and, if_false]
    rfl
  pending_eq u := by
    show (r.inst.pending ++ [_]).countP _ = _
    rw [List.countP_append, List.countP_singleton]
    show r.inst.pending.countP _ + (if (e.id == u) = true then 1 else 0) =
      r.inst.pending.countP _ + if true = true ∧ e.kind.isUserTask = true ∧ e.id = u then 1 else 0
    simp [hk]
  choice _ hg := by
    change e.kind = _ at hg
    simp [hg, Workflow.ElementKind.isUserTask] at hk

theorem lawful_choose {flow : Workflow.Flow} (hactive : r.inst.state = .active)
    (hk : e.kind = .exclusiveGateway)
    (hflow : chooseFlow? r.inst.workflow e.id r.inst.vars = some flow) :
    (r.mark none e (.ok (), r.push flow.target)).Lawful := by
  have hways : (r.mark none e (.ok (), r.push flow.target)).ways =
      (r.inst.workflow.chosenWay? e.id r.inst.vars).toList := ways_of_choice hactive rfl hk
  obtain ⟨w, hw, hwf⟩ := Option.map_eq_some_iff.1
    ((Workflow.map_chosenWay? r.inst.workflow e.id r.inst.vars).trans hflow)
  rw [hw] at hways
  refine Mark.Lawful.of_eq rfl rfl hactive ?_ rfl rfl (isJoin_eq_false ?_) (fun _ => ?_) fun _ _ => ?_
  · rw [hways, ← hwf]
    rfl
  · show _ → e.kind ≠ _
    simp [hk]
  · show e.kind.isUserTask = false
    rw [hk]
    rfl
  · rw [hways]
    exact List.cons_ne_nil w []

theorem isJoin_mark {r' : Run} (hk : e.kind = .parallelGateway)
    (hw : r'.inst.workflow = r.inst.workflow) (hjoin : 1 < (r.inst.workflow.incoming e.id).length) :
    (r.mark none e (.ok (), r')).isJoin = true := by
  simp [Mark.isJoin, Mark.isVisit, mark, hk, hw, hjoin]

/-- A join changes its own count, and queues tokens if it passes. -/
theorem lawful_join {r' : Run} (hactive : r'.inst.state = .active) (hk : e.kind = .parallelGateway)
    (hjoin : 1 < (r.inst.workflow.incoming e.id).length)
    (hw : r'.inst.workflow = r.inst.workflow) (hsteps : r'.inst.steps = r.inst.steps)
    (hpending : r'.inst.pending = r.inst.pending)
    (hwaiting : ∀ g, r'.inst.waiting g = if e.id = g then
      if r.inst.waiting g + 1 < (r.inst.workflow.incoming g).length then r.inst.waiting g + 1 else 0
      else r.inst.waiting g)
    (htokens : r'.inst.tokens =
      r.inst.tokens ++ (r.mark none e (.ok (), r')).ways.map fun w => w.1.target) :
    (r.mark none e (.ok (), r')).Lawful := by
  refine ⟨hw, hsteps, hactive, htokens, fun g => ?_, fun u => ?_, fun _ hg => ?_⟩
  · rw [isJoin_mark hk hw hjoin]
    show r'.inst.waiting g = if true = true ∧ e.id = g then
      (if r.inst.waiting g + 1 < (r'.inst.workflow.incoming g).length then r.inst.waiting g + 1
        else 0) else r.inst.waiting g
    simp only [hwaiting g, hw, true_and]
  · show r'.inst.pending.countP _ = r.inst.pending.countP _ +
      if true = true ∧ e.kind.isUserTask = true ∧ e.id = u then 1 else 0
    simp [hk, hpending, Workflow.ElementKind.isUserTask]
  · cases hk.symm.trans hg

theorem lawful_await (hactive : r.inst.state = .active) (hk : e.kind = .parallelGateway)
    (hjoin : 1 < (r.inst.workflow.incoming e.id).length)
    (hwait : r.inst.waiting e.id + 1 < (r.inst.workflow.incoming e.id).length) :
    (r.mark none e (.ok (), r.await e.id)).Lawful := by
  have hj : (r.mark none e (.ok (), r.await e.id)).isJoin = true := isJoin_mark hk rfl hjoin
  have hp : (r.mark none e (.ok (), r.await e.id)).passes = false := by
    have hself : (r.await e.id).inst.waiting e.id = r.inst.waiting e.id + 1 := by
      simp [waiting_await]
    rw [Mark.passes, hj]
    show (true && (r.await e.id).inst.waiting e.id == 0) = false
    simp [hself]
  refine lawful_join hactive hk hjoin rfl rfl rfl (fun g => ?_) ?_
  · rw [waiting_await]
    by_cases hg : e.id = g
    · subst hg
      simp [hwait]
    · simp [hg]
  · rw [ways_of_gateway hactive hk, if_pos ⟨hj, hp⟩]
    exact (List.append_nil _).symm

theorem lawful_release (hactive : r.inst.state = .active) (hk : e.kind = .parallelGateway)
    (hjoin : 1 < (r.inst.workflow.incoming e.id).length)
    (hfull : ¬ r.inst.waiting e.id + 1 < (r.inst.workflow.incoming e.id).length) :
    (r.mark none e (.ok (), (r.release e.id).follow e.id)).Lawful := by
  have hj : (r.mark none e (.ok (), (r.release e.id).follow e.id)).isJoin = true :=
    isJoin_mark hk rfl hjoin
  have hw : ∀ g, ((r.release e.id).follow e.id).inst.waiting g =
      if e.id = g then 0 else r.inst.waiting g := waiting_release r e.id
  have hp : (r.mark none e (.ok (), (r.release e.id).follow e.id)).passes = true := by
    have hself : ((r.release e.id).follow e.id).inst.waiting e.id = 0 := by simp [hw]
    rw [Mark.passes, hj]
    show (true && ((r.release e.id).follow e.id).inst.waiting e.id == 0) = true
    simp [hself]
  refine lawful_join hactive hk hjoin rfl rfl rfl (fun g => ?_) ?_
  · rw [hw]
    by_cases hg : e.id = g
    · subst hg
      simp [hfull]
    · simp [hg]
  · rw [ways_of_gateway hactive hk, if_neg (by simp [hp])]
    exact tokens_follow (r.mark none e (.ok (), (r.release e.id).follow e.id))
      (i := (r.release e.id).inst) rfl rfl rfl

/-- A gateway with one flow, or none, is no join. -/
theorem lawful_fork (hactive : r.inst.state = .active) (hk : e.kind = .parallelGateway)
    (hjoin : ¬ 1 < (r.inst.workflow.incoming e.id).length) :
    (r.mark none e (.ok (), r.follow e.id)).Lawful := by
  have hj : (r.mark none e (.ok (), r.follow e.id)).isJoin = false := by
    have : (r.mark none e (.ok (), r.follow e.id)).after.workflow.incoming e.id =
      r.inst.workflow.incoming e.id := rfl
    simp only [Mark.isJoin, mark] at this ⊢
    simp [this, hjoin]
  refine Mark.Lawful.of_eq rfl rfl hactive ?_ rfl rfl hj (fun _ => ?_) fun _ hg => ?_
  · rw [ways_of_gateway hactive hk, if_neg (by simp [hj])]
    exact tokens_follow _ (i := r.inst) rfl rfl rfl
  · show e.kind.isUserTask = false
    rw [hk]
    rfl
  · cases hk.symm.trans hg

/-- **A visit that succeeds leaves a lawful mark.** -/
theorem Visited.lawful (hv : Visited s r e o) (hactive : r.inst.state = .active)
    (ho : o.1 = .ok ()) : (r.mark none e o).Lawful := by
  cases hv with
  | ended hk =>
    refine Mark.Lawful.of_eq rfl rfl hactive ?_ rfl rfl (isJoin_eq_false ?_) (fun _ => ?_)
      fun _ hg => ?_
    · rw [ways_of_kept hactive rfl (Or.inl hk)]
      exact (List.append_nil _).symm
    · show _ → e.kind ≠ _
      simp [hk]
    · show e.kind.isUserTask = false
      rw [hk]
      rfl
    · cases hk.symm.trans hg
  | passed hk =>
    refine lawful_through (i := r.inst) rfl hactive fun _ => hk.imp_right fun h => ?_
    cases hkind : e.kind <;> simp_all [Workflow.ElementKind.isScriptTask,
      Workflow.ElementKind.isAutomatic]
  | worked hk hd => exact lawful_through rfl hactive fun _ => Or.inr hk
  | gaveUp => cases ho
  | parked hk => exact lawful_park hactive hk
  | joined hk =>
    rw [join_eq]
    split
    · next hjoin =>
      split
      · next hwait => exact lawful_await hactive hk hjoin hwait
      · next hfull => exact lawful_release hactive hk hjoin hfull
    · next hjoin => exact lawful_fork hactive hk hjoin
  | chose hk hflow => exact lawful_choose hactive hk hflow
  | stuck => cases ho

theorem fatal_fail {item? : Option WorkItem} {i : Instance} {emitted : List Event} {drawn : Nat}
    {f : Failure} (hw : i.workflow = r.inst.workflow) (ha : i.arrivals = r.inst.arrivals)
    (hk : item? = none → e.kind ≠ .parallelGateway) :
    (r.mark item? e (.error f, (Run.mk i emitted drawn).fail f)).Fatal where
  workflow_eq := hw
  state_eq := rfl
  arrivals_eq := ha
  not_join := isJoin_eq_false fun hv => hk (Option.isNone_iff_eq_none.1 hv)

/-- A visit that gives up leaves a fatal mark. -/
theorem Visited.fatal {f : Failure} (hv : Visited s r e o) (ho : o.1 = .error f) :
    (r.mark none e o).Fatal := by
  cases hv with
  | ended => cases ho
  | passed => cases ho
  | worked => cases ho
  | gaveUp hk => exact fatal_fail rfl rfl fun _ hg => by rw [hg] at hk; cases hk
  | parked => cases ho
  | joined => cases ho
  | chose => cases ho
  | stuck hk => exact fatal_fail rfl rfl fun _ hg => by rw [hg] at hk; cases hk

/-- A mark is lawful or fatal as the outcome says. -/
theorem sound_mark {item? : Option WorkItem} (hok : o.1 = .ok () → (r.mark item? e o).Lawful)
    (herror : ∀ f, o.1 = .error f → (r.mark item? e o).Fatal) : (r.mark item? e o).Sound := by
  rcases ho : o.1 with f | ⟨⟩
  · exact Or.inr (herror f ho)
  · exact Or.inl (hok ho)

theorem sound_visit (s : Surroundings) (e : Workflow.Element) (hactive : r.inst.state = .active) :
    (r.mark none e (r.visit s e)).Sound :=
  sound_mark ((visited_visit s r e).lawful hactive) fun _ => (visited_visit s r e).fatal

theorem active_of_visit (hactive : r.inst.state = .active) {r' : Run}
    (hr : r.visit s e = (.ok (), r')) : r'.inst.state = .active := by
  have hlawful := (visited_visit s r e).lawful hactive (by rw [hr])
  have hstate := hlawful.state_eq
  rw [hr] at hstate
  exact hstate

/-! ## A completion leaves a lawful mark -/

/-- **What the completion of a work item comes to.** -/
inductive Completed (s : Surroundings) (r : Run) (e : Workflow.Element) :
    Except Failure Unit × Run → Prop
  /-- The element names no operation, or its operation has succeeded. -/
  | done {i : Instance} {store vars : Table Json} {emitted : List Event} {drawn : Nat} :
      i = { r.inst with store, vars } →
      Completed s r e (.ok (), (Run.mk i emitted drawn).follow e.id)
  /-- The operation has given up. -/
  | gaveUp {i : Instance} {emitted : List Event} {drawn : Nat} {f : Failure} :
      i.workflow = r.inst.workflow → i.arrivals = r.inst.arrivals →
      Completed s r e (.error f, (Run.mk i emitted drawn).fail f)

theorem completed_completeItem (s : Surroundings) {item : WorkItem}
    (he : r.inst.workflow.element? item.nodeId = some e) :
    Completed s r e (r.completeItem s item) := by
  simp only [completeItem, he, Engine.completeStep]
  by_cases hop : e.operationId?.isSome = true
  · rw [if_pos hop, runStep_eq]
    rcases s.library.dispatch (r.stepContext s e) with ⟨f | ⟨⟩, c⟩
    · exact Completed.gaveUp rfl rfl
    · exact Completed.done rfl
  · rw [if_neg hop]
    exact Completed.done rfl

theorem Completed.lawful {item : WorkItem} (hc : Completed s r e o)
    (hactive : r.inst.state = .active) (ho : o.1 = .ok ()) :
    (r.mark (some item) e o).Lawful := by
  cases hc with
  | done hi => exact lawful_through hi hactive nofun
  | gaveUp => cases ho

theorem Completed.fatal {item : WorkItem} {f : Failure} (hc : Completed s r e o)
    (ho : o.1 = .error f) : (r.mark (some item) e o).Fatal := by
  cases hc with
  | done => cases ho
  | gaveUp hw ha => exact fatal_fail hw ha nofun

theorem sound_completeItem (s : Surroundings) {item : WorkItem} (hactive : r.inst.state = .active)
    (he : r.inst.workflow.element? item.nodeId = some e) :
    (r.mark (some item) e (r.completeItem s item)).Sound :=
  sound_mark ((completed_completeItem s he).lawful hactive) fun _ =>
    (completed_completeItem s he).fatal

theorem active_of_completeItem {item : WorkItem} (hactive : r.inst.state = .active)
    (he : r.inst.workflow.element? item.nodeId = some e) {r' : Run}
    (hr : r.completeItem s item = (.ok (), r')) : r'.inst.state = .active := by
  have hlawful : (r.mark (some item) e (r.completeItem s item)).Lawful :=
    (completed_completeItem s he).lawful hactive (by rw [hr])
  have hstate := hlawful.state_eq
  rw [hr] at hstate
  exact hstate

/-! ## The marks of a run -/

/-- **The marks of a run** with `fuel` visits left. -/
def marksFrom (s : Surroundings) (fuel : Nat) (r : Run) : List Mark :=
  match r.inst.tokens, fuel with
  | id :: rest, fuel + 1 =>
    match r.inst.workflow.element? id with
    | some e =>
      let o := (r.pop rest).visit s e
      (r.pop rest).mark none e o ::
        match o with
        | (.ok (), r) => marksFrom s fuel r
        | (.error _, _) => []
    | none => []
  | _, _ => []

/-- The marks that visiting elements leaves. -/
def marks (r : Run) (s : Surroundings) : List Mark := marksFrom s (s.stepLimit - r.inst.steps) r

/-- The marks that the completion of a work item leaves. -/
def resumeMarks (r : Run) (s : Surroundings) (item : WorkItem) : List Mark :=
  match r.inst.workflow.element? item.nodeId with
  | some e =>
    let o := r.completeItem s item
    r.mark (some item) e o ::
      match o with
      | (.ok (), r) => r.marks s
      | (.error _, _) => []
  | none => []

theorem marksFrom_nil {fuel : Nat} (h : r.inst.tokens = []) : marksFrom s fuel r = [] := by
  unfold marksFrom
  rw [h]

theorem marksFrom_zero (s : Surroundings) (r : Run) : marksFrom s 0 r = [] := by
  unfold marksFrom
  split
  · contradiction
  · rfl

theorem marksFrom_succ {fuel : Nat} {id : String} {rest : List String}
    (h : r.inst.tokens = id :: rest) :
    marksFrom s (fuel + 1) r =
      match r.inst.workflow.element? id with
      | some e =>
        (r.pop rest).mark none e ((r.pop rest).visit s e) ::
          match (r.pop rest).visit s e with
          | (.ok (), r) => marksFrom s fuel r
          | (.error _, _) => []
      | none => [] := by
  rw [marksFrom.eq_def, h]

/-- The marks of a run are of its instance. -/
theorem id_of_mem_marksFrom {fuel : Nat} {m : Mark} (hm : m ∈ marksFrom s fuel r) :
    m.before.id = r.inst.id := by
  induction fuel generalizing r with
  | zero =>
    rw [marksFrom_zero] at hm
    cases hm
  | succ fuel ih =>
    rcases ht : r.inst.tokens with _ | ⟨id, rest⟩
    · rw [marksFrom_nil ht] at hm
      cases hm
    · rw [marksFrom_succ ht] at hm
      rcases he : r.inst.workflow.element? id with _ | e <;> simp only [he] at hm
      · cases hm
      · have hid := (extends_visit s (r.pop rest) e).id_eq
        rcases hm with _ | ⟨_, hm⟩
        · rfl
        · split at hm
          · next hv =>
            rw [hv] at hid
            exact (ih hm).trans hid
          · cases hm

theorem id_of_mem_resumeMarks {item : WorkItem} {m : Mark} (hm : m ∈ r.resumeMarks s item) :
    m.before.id = r.inst.id := by
  have hid := (extends_completeItem s r item).id_eq
  unfold resumeMarks at hm
  rcases he : r.inst.workflow.element? item.nodeId with _ | e <;> simp only [he] at hm
  · cases hm
  · rcases hm with _ | ⟨_, hm⟩
    · rfl
    · split at hm
      · next hi =>
        rw [hi] at hid
        exact (id_of_mem_marksFrom hm).trans hid
      · cases hm

end Run

end WorkflowCanvas
