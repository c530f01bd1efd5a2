import WorkflowCanvas.Engine.Run
/-!
# What a token does at an element

`Visited` lists all that a visit can come to, one constructor a way, and
`visited_visit` says that a visit comes to one of them. A run only ever
adds to itself: `Extends` says what stays, and every operation of a run
extends it. A visit that succeeds leaves the instance as open as it was
(`goes_visit`), and one that fails leaves it failed (`FailedWith`).
-/


namespace WorkflowCanvas

open Operation (Context Library)

/-- The failure refuses a call before anything has run. -/
def Failure.isRefusal : Failure → Bool
  | .unknownWorkflow _ | .unknownInstance _ | .workItemNotFound _ _ | .wrongState _ _
  | .noStartEvent _ => true
  | _ => false

/-- The event reports what an instance does while it runs. -/
def Event.isProgress : Event → Bool
  | .stepStarted .. | .stepCompleted .. | .stepFailed .. | .waitingForUser ..
  | .instanceCompleted _ | .instanceFailed .. => true
  | _ => false

namespace Operation.Library

theorem not_isRefusal_of_resolve {l : Library} {operation : String} {f : Failure}
    (h : l.resolve operation = .error f) : f.isRefusal = false := by
  unfold resolve at h
  split at h
  · cases h; rfl
  · split at h
    · cases h; rfl
    · split at h <;> cases h <;> rfl

/-- An operation gives up, or cannot be run; it does not refuse a call. -/
theorem not_isRefusal_of_dispatch {l : Library} {c c' : Context} {f : Failure}
    (h : l.dispatch c = (.error f, c')) : f.isRefusal = false := by
  unfold dispatch at h
  split at h
  · cases h; rfl
  · split at h
    · rename_i hr
      cases h
      exact not_isRefusal_of_resolve hr
    · split at h
      · cases h
      · rename_i refusal _ _
        cases h
        cases refusal <;> rfl

end Operation.Library

/-- How many tokens wait at a join. -/
def Instance.waiting (i : Instance) (gateway : String) : Nat := (i.arrivals.get? gateway).getD 0

namespace Workflow.ElementKind

/-- The element waits for a user. -/
def isUserTask : ElementKind → Bool
  | .userTask .. => true
  | _ => false

/-- The element is a script. -/
def isScriptTask : ElementKind → Bool
  | .scriptTask .. => true
  | _ => false

/-- The element runs its operation when it is visited; a script may do
without. -/
def isAutomatic : ElementKind → Bool
  | .serviceTask .. | .scriptTask .. => true
  | _ => false

end Workflow.ElementKind

namespace Run

variable {s : Surroundings} {r r' r'' : Run} {e : Workflow.Element} {f : Failure}

/-! ## The pieces of a visit -/

/-- A run with the next token taken off and the visit counted. -/
def pop (r : Run) (rest : List String) : Run :=
  { r with inst := { r.inst with tokens := rest, steps := r.inst.steps + 1 } }

/-- The context that an element's operation runs in. -/
def stepContext (s : Surroundings) (r : Run) (e : Workflow.Element) : Context where
  instanceId := r.inst.id
  workflowKey := r.inst.workflow.id
  step := e
  occasion := { now := s.now, draw := r.drawn }
  store := r.inst.store

/-- A run after the operation of an element has succeeded. -/
def worked (r : Run) (e : Workflow.Element) (c : Context) : Run where
  inst := { r.inst with store := c.store, vars := absorb c.store c.written r.inst.vars }
  emitted := .stepCompleted r.inst.id e.id :: .stepStarted r.inst.id e.id e.operationId? :: r.emitted
  drawn := r.drawn + 1

/-- A run after the operation of an element has given up, just before it
fails. -/
def interrupted (r : Run) (e : Workflow.Element) (c : Context) (f : Failure) : Run where
  inst := { r.inst with store := c.store }
  emitted :=
    .stepFailed r.inst.id e.id f.message :: .stepStarted r.inst.id e.id e.operationId? :: r.emitted
  drawn := r.drawn + 1

/-- **An operation runs once**, and how it ends decides how the step ends. -/
theorem runStep_eq (s : Surroundings) (r : Run) (e : Workflow.Element) :
    r.runStep s e =
      match s.library.dispatch (r.stepContext s e) with
      | (.ok (), c) => (.ok (), r.worked e c)
      | (.error f, c) => (.error f, (r.interrupted e c f).fail f) := by
  rcases h : s.library.dispatch (r.stepContext s e) with ⟨_ | _, c⟩ <;>
    · simp only [stepContext] at h
      simp [runStep, emit, worked, interrupted, fail, h]

/-- A run with a token more at the end of the queue. -/
def push (r : Run) (target : String) : Run :=
  { r with inst := { r.inst with tokens := r.inst.tokens ++ [target] } }

/-- A run in which a join has counted one token more. -/
def await (r : Run) (gateway : String) : Run :=
  { r with inst := { r.inst with
      arrivals := r.inst.arrivals.insert gateway (r.inst.waiting gateway + 1) } }

/-- A run in which a join has let its tokens go. -/
def release (r : Run) (gateway : String) : Run :=
  { r with inst := { r.inst with arrivals := r.inst.arrivals.erase gateway } }

/-- **A join** of several flows waits for as many tokens. -/
theorem join_eq (r : Run) (gateway : String) :
    r.join gateway =
      if 1 < (r.inst.workflow.incoming gateway).length then
        if r.inst.waiting gateway + 1 < (r.inst.workflow.incoming gateway).length then
          r.await gateway
        else (r.release gateway).follow gateway
      else r.follow gateway := rfl

/-! ## What a visit comes to -/

/-- **What a visit of an element comes to.** -/
inductive Visited (s : Surroundings) (r : Run) (e : Workflow.Element) :
    Except Failure Unit × Run → Prop
  /-- An end event keeps the token. -/
  | ended : e.kind = .endEvent → Visited s r e (.ok (), r)
  /-- A start event lets the token through, and so does a script that
  names no operation. -/
  | passed : e.kind = .startEvent ∨ e.kind.isScriptTask = true ∧ e.operationId? = none →
      Visited s r e (.ok (), r.follow e.id)
  /-- The operation has succeeded. -/
  | worked {c : Context} : e.kind.isAutomatic = true →
      s.library.dispatch (r.stepContext s e) = (.ok (), c) →
      Visited s r e (.ok (), (r.worked e c).follow e.id)
  /-- The operation has given up. -/
  | gaveUp {c : Context} {f : Failure} : e.kind.isAutomatic = true →
      s.library.dispatch (r.stepContext s e) = (.error f, c) →
      Visited s r e (.error f, (r.interrupted e c f).fail f)
  /-- The token waits for a user. -/
  | parked : e.kind.isUserTask = true → Visited s r e (.ok (), r.park e)
  /-- A parallel gateway joins and forks. -/
  | joined : e.kind = .parallelGateway → Visited s r e (.ok (), r.join e.id)
  /-- An exclusive gateway takes one way. -/
  | chose {flow : Workflow.Flow} : e.kind = .exclusiveGateway →
      chooseFlow? r.inst.workflow e.id r.inst.vars = some flow →
      Visited s r e (.ok (), r.push flow.target)
  /-- An exclusive gateway has no way to take. -/
  | stuck : e.kind = .exclusiveGateway →
      chooseFlow? r.inst.workflow e.id r.inst.vars = none →
      Visited s r e (.error (.noOpenFlow e.id), r.fail (.noOpenFlow e.id))

/-- The step of an automatic element, and the flows after it. -/
theorem visited_runStep (h : e.kind.isAutomatic = true) :
    Visited s r e
      (match r.runStep s e with
      | (.ok (), r) => (.ok (), r.follow e.id)
      | (.error failure, r) => (.error failure, r)) := by
  rw [runStep_eq]
  rcases hd : s.library.dispatch (r.stepContext s e) with ⟨f | ⟨⟩, c⟩
  · exact Visited.gaveUp h hd
  · exact Visited.worked h hd

/-- **A visit comes to one of these.** -/
theorem visited_visit (s : Surroundings) (r : Run) (e : Workflow.Element) :
    Visited s r e (r.visit s e) := by
  unfold visit
  split
  · next h => exact Visited.passed (Or.inl h)
  · next h => exact Visited.ended h
  · next h => exact visited_runStep (by rw [h]; rfl)
  · next h =>
    split
    · exact visited_runStep (by rw [h]; rfl)
    · next hop => exact Visited.passed (Or.inr ⟨by rw [h]; rfl, by simpa using hop⟩)
  · next h => exact Visited.parked (by rw [h]; rfl)
  · next h => exact Visited.joined h
  · next h =>
    split
    · next hf => exact Visited.chose h hf
    · next hf => exact Visited.stuck h hf

/-! ## What stays -/

/-- **A run goes on from another one**: it is of the same instance, draws
further numbers, and has emitted further events, all of them reports of
this instance's progress. -/
structure Extends (r r' : Run) : Prop where
  id_eq : r'.inst.id = r.inst.id
  workflow_eq : r'.inst.workflow = r.inst.workflow
  drawn_le : r.drawn ≤ r'.drawn
  emitted_eq : ∃ events, r'.emitted = events ++ r.emitted ∧
    ∀ v ∈ events, v.instanceId? = some r.inst.id ∧ v.isProgress = true

namespace Extends

theorem refl (r : Run) : Extends r r := ⟨rfl, rfl, Nat.le_refl _, [], rfl, by simp⟩

theorem trans (h : Extends r r') (h' : Extends r' r'') : Extends r r'' := by
  obtain ⟨events, hev, hown⟩ := h.emitted_eq
  obtain ⟨events', hev', hown'⟩ := h'.emitted_eq
  refine ⟨h'.id_eq.trans h.id_eq, h'.workflow_eq.trans h.workflow_eq,
    Nat.le_trans h.drawn_le h'.drawn_le, events' ++ events, by rw [hev', hev, List.append_assoc], ?_⟩
  intro v hv
  rcases List.mem_append.1 hv with hv | hv
  · exact h.id_eq ▸ hown' v hv
  · exact hown v hv

/-- A run that differs in its instance alone, and there in what may
change. -/
theorem of_inst {i : Instance} (hid : i.id = r.inst.id) (hw : i.workflow = r.inst.workflow) :
    Extends r { r with inst := i } :=
  ⟨hid, hw, Nat.le_refl _, [], rfl, by simp⟩

end Extends

theorem extends_emit {v : Event} (hid : v.instanceId? = some r.inst.id)
    (hv : v.isProgress = true) : Extends r (r.emit v) :=
  ⟨rfl, rfl, Nat.le_refl _, [v], rfl, by simp [hid, hv]⟩

theorem extends_fail (r : Run) (f : Failure) : Extends r (r.fail f) :=
  ⟨rfl, rfl, Nat.le_refl _, [.instanceFailed r.inst.id f.message], rfl,
    by simp [Event.instanceId?, Event.isProgress]⟩

theorem extends_follow (r : Run) (element : String) : Extends r (r.follow element) :=
  Extends.of_inst rfl rfl

theorem extends_push (r : Run) (target : String) : Extends r (r.push target) :=
  Extends.of_inst rfl rfl

theorem extends_pop (r : Run) (rest : List String) : Extends r (r.pop rest) :=
  Extends.of_inst rfl rfl

theorem extends_park (r : Run) (e : Workflow.Element) : Extends r (r.park e) :=
  ⟨rfl, rfl, Nat.le_succ _, [.waitingForUser r.inst.id e.id (identifier r.drawn)], rfl,
    by simp [Event.instanceId?, Event.isProgress]⟩

theorem extends_worked (r : Run) (e : Workflow.Element) (c : Context) :
    Extends r (r.worked e c) :=
  ⟨rfl, rfl, Nat.le_succ _,
    [.stepCompleted r.inst.id e.id, .stepStarted r.inst.id e.id e.operationId?], rfl,
    by simp [Event.instanceId?, Event.isProgress]⟩

theorem extends_interrupted (r : Run) (e : Workflow.Element) (c : Context) (f : Failure) :
    Extends r (r.interrupted e c f) :=
  ⟨rfl, rfl, Nat.le_succ _,
    [.stepFailed r.inst.id e.id f.message, .stepStarted r.inst.id e.id e.operationId?], rfl,
    by simp [Event.instanceId?, Event.isProgress]⟩

theorem extends_join (r : Run) (gateway : String) : Extends r (r.join gateway) := by
  rw [join_eq]
  split
  · split
    · exact Extends.of_inst rfl rfl
    · exact (Extends.of_inst rfl rfl : Extends r (r.release gateway)).trans (extends_follow _ _)
  · exact extends_follow r gateway

theorem extends_settle (r : Run) : Extends r r.settle := by
  unfold settle
  split
  · exact ⟨rfl, rfl, Nat.le_refl _, [.instanceCompleted r.inst.id], rfl,
      by simp [Event.instanceId?, Event.isProgress]⟩
  · exact Extends.refl r

theorem extends_runStep (s : Surroundings) (r : Run) (e : Workflow.Element) :
    Extends r (r.runStep s e).2 := by
  rw [runStep_eq]
  split
  · exact extends_worked r e _
  · exact (extends_interrupted r e _ _).trans (extends_fail _ _)

theorem Visited.extends {o : Except Failure Unit × Run} (h : Visited s r e o) :
    Extends r o.2 := by
  cases h with
  | ended => exact Extends.refl r
  | passed => exact extends_follow r e.id
  | worked => exact (extends_worked r e _).trans (extends_follow _ _)
  | gaveUp => exact (extends_interrupted r e _ _).trans (extends_fail _ _)
  | parked => exact extends_park r e
  | joined => exact extends_join r e.id
  | chose => exact extends_push r _
  | stuck => exact extends_fail r _

/-- **A visit extends the run.** -/
theorem extends_visit (s : Surroundings) (r : Run) (e : Workflow.Element) :
    Extends r (r.visit s e).2 :=
  (visited_visit s r e).extends

/-! ## How a visit ends -/

/-- The run has failed, with nothing left to do. -/
structure FailedWith (f : Failure) (r : Run) : Prop where
  state_eq : r.inst.state = .failed
  detail_eq : r.inst.detail? = some f.message
  tokens_eq : r.inst.tokens = []
  pending_eq : r.inst.pending = []
  head_emitted : r.emitted.head? = some (.instanceFailed r.inst.id f.message)
  not_isRefusal : f.isRefusal = false

theorem failedWith_fail (r : Run) (hf : f.isRefusal = false) : FailedWith f (r.fail f) :=
  ⟨rfl, rfl, rfl, rfl, rfl, hf⟩

/-- The instance is at work and nothing has been said of its end. -/
def Underway (r : Run) : Prop := r.inst.state = .active ∧ r.inst.detail? = none

/-- How something that a run does ends: the run is still underway, or it
has failed. -/
def Goes : Except Failure Unit × Run → Prop
  | (.ok (), r) => r.Underway
  | (.error f, r) => r.FailedWith f

theorem underway_join (h : r.Underway) (gateway : String) : (r.join gateway).Underway := by
  rw [join_eq]
  split
  · split <;> exact h
  · exact h

theorem goes_runStep (h : r.Underway) : Goes (r.runStep s e) := by
  rw [runStep_eq]
  split
  · exact h
  · next hd => exact failedWith_fail _ (Library.not_isRefusal_of_dispatch hd)

theorem Visited.goes {o : Except Failure Unit × Run} (hv : Visited s r e o) (h : r.Underway) :
    Goes o := by
  cases hv with
  | ended => exact h
  | passed => exact h
  | worked => exact h
  | gaveUp _ hd => exact failedWith_fail _ (Library.not_isRefusal_of_dispatch hd)
  | parked => exact h
  | joined => exact underway_join h e.id
  | chose => exact h
  | stuck => exact failedWith_fail r rfl

/-- **A visit keeps a run underway, or fails it.** -/
theorem goes_visit (h : r.Underway) : Goes (r.visit s e) := (visited_visit s r e).goes h

end Run

end WorkflowCanvas
