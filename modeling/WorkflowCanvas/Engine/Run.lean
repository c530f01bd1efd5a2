import WorkflowCanvas.Condition
import WorkflowCanvas.Engine.Instance
import WorkflowCanvas.Operation.Dispatch
/-!
# Running an instance

A run is an instance on its way, with the events it has emitted and the
numbers it has drawn. `visit` is what one token does at an element:
service steps are dispatched, script steps only if they name an operation,
user steps wait as work items, a parallel gateway waits for a token from
every incoming flow, and an exclusive gateway takes one way. `advance`
visits elements until no token is left or the run fails. Every visit
counts towards the limit of the instance, which bounds the recursion.
-/


namespace WorkflowCanvas

open Operation (Library Occasion Context)

/-- What holds for all instances of an engine during a call. -/
structure Surroundings where
  library : Library
  /-- How many elements an instance may visit. -/
  stepLimit : Nat
  /-- Milliseconds since the epoch. -/
  now : Nat

/-- Eight hexadecimal digits and more, in groups, for a number drawn. -/
def identifier (n : Nat) : String :=
  let digits := Nat.toDigits 16 n
  let padded := List.replicate (32 - digits.length) '0' ++ digits
  String.ofList (padded.take 8 ++ '-' :: (padded.drop 8).take 4 ++ '-' :: (padded.drop 12).take 4
    ++ '-' :: (padded.drop 16).take 4 ++ '-' :: padded.drop 20)

/-- An instance on its way. -/
structure Run where
  inst : Instance
  /-- The events emitted, last one first. -/
  emitted : List Event := []
  /-- How many numbers were drawn. -/
  drawn : Nat

namespace Run

/-- Emits an event. -/
def emit (r : Run) (e : Event) : Run := { r with emitted := e :: r.emitted }

/-- The run fails: nothing is left to visit or to complete. -/
def fail (r : Run) (f : Failure) : Run :=
  { r with
    inst := { r.inst with
      state := .failed
      detail? := some f.message
      tokens := []
      pending := [] } }.emit (.instanceFailed r.inst.id f.message)

/-- A flow can be taken. -/
def isOpen (vars : Table Json) (f : Workflow.Flow) : Bool :=
  match f.condition? with
  | some condition => Condition.holds condition vars
  | none => true

/-- Queues the targets of the open flows that leave an element. -/
def follow (r : Run) (element : String) : Run :=
  let targets :=
    ((r.inst.workflow.outgoing element).filter (isOpen r.inst.vars)).map (·.target)
  { r with inst := { r.inst with tokens := r.inst.tokens ++ targets } }

/-- Leaves a token at a user step. -/
def park (r : Run) (e : Workflow.Element) : Run :=
  let item : WorkItem :=
    { taskId := identifier r.drawn, nodeId := e.id, name? := e.name?
      operationId? := e.operationId? }
  { r with
    inst := { r.inst with pending := r.inst.pending ++ [item] }
    drawn := r.drawn + 1 }.emit (.waitingForUser r.inst.id e.id item.taskId)

/-- Takes the written variables over into the snapshot. -/
def absorb (store : Table Json) (written : List String) (vars : Table Json) : Table Json :=
  written.foldl (fun vars key => vars.insertSome key (store.get? key)) vars

/-- **Runs the operation of an element.** -/
def runStep (s : Surroundings) (r : Run) (e : Workflow.Element) : Except Failure Unit × Run :=
  let r := r.emit (.stepStarted r.inst.id e.id e.operationId?)
  let context : Context :=
    { instanceId := r.inst.id
      workflowKey := r.inst.workflow.id
      step := e
      occasion := { now := s.now, draw := r.drawn }
      store := r.inst.store }
  let (result, context) := s.library.dispatch context
  let r := { r with drawn := r.drawn + 1, inst := { r.inst with store := context.store } }
  match result with
  | .ok () =>
    (.ok (), { r with
      inst := { r.inst with
        vars := absorb context.store context.written r.inst.vars } }.emit
      (.stepCompleted r.inst.id e.id))
  | .error failure =>
    (.error failure, (r.emit (.stepFailed r.inst.id e.id failure.message)).fail failure)

/-- The flow that an exclusive gateway takes: the first one whose condition
holds, else the first one without a condition. -/
def chooseFlow? (p : Workflow) (gateway : String) (vars : Table Json) :
    Option Workflow.Flow :=
  let flows := p.outgoing gateway
  let conditioned := flows.find? fun f =>
    match f.condition? with
    | some condition => Condition.holds condition vars
    | none => false
  conditioned.or (flows.find? fun f => f.condition?.isNone)

/-- Counts a token at a join, and passes when it is the last one
expected. -/
def join (r : Run) (gateway : String) : Run :=
  let expected := (r.inst.workflow.incoming gateway).length
  if expected > 1 then
    let arrived := (r.inst.arrivals.get? gateway).getD 0 + 1
    if arrived < expected then
      { r with inst := { r.inst with arrivals := r.inst.arrivals.insert gateway arrived } }
    else
      { r with inst := { r.inst with arrivals := r.inst.arrivals.erase gateway } }.follow gateway
  else r.follow gateway

/-- **What a token does at an element.** -/
def visit (s : Surroundings) (r : Run) (e : Workflow.Element) : Except Failure Unit × Run :=
  match e.kind with
  | .startEvent => (.ok (), r.follow e.id)
  | .endEvent => (.ok (), r)
  | .serviceTask .. =>
    match r.runStep s e with
    | (.ok (), r) => (.ok (), r.follow e.id)
    | (.error failure, r) => (.error failure, r)
  | .scriptTask .. =>
    if e.operationId?.isSome then
      match r.runStep s e with
      | (.ok (), r) => (.ok (), r.follow e.id)
      | (.error failure, r) => (.error failure, r)
    else (.ok (), r.follow e.id)
  | .userTask .. => (.ok (), r.park e)
  | .parallelGateway => (.ok (), r.join e.id)
  | .exclusiveGateway =>
    match chooseFlow? r.inst.workflow e.id r.inst.vars with
    | some flow =>
      (.ok (), { r with inst := { r.inst with tokens := r.inst.tokens ++ [flow.target] } })
    | none => (.error (.noOpenFlow e.id), r.fail (.noOpenFlow e.id))

/-- Completes an active instance that waits for nothing. -/
def settle (r : Run) : Run :=
  if r.inst.state = .active ∧ r.inst.pending.isEmpty = true then
    { r with inst := { r.inst with state := .completed } }.emit (.instanceCompleted r.inst.id)
  else r

/-- Visits elements with `fuel` visits left. -/
def advanceFrom (s : Surroundings) (fuel : Nat) (r : Run) : Except Failure Unit × Run :=
  match r.inst.tokens with
  | [] => (.ok (), r.settle)
  | id :: rest =>
    let r := { r with inst := { r.inst with tokens := rest, steps := r.inst.steps + 1 } }
    match fuel with
    | 0 => (.error (.stepLimit r.inst.id s.stepLimit), r.fail (.stepLimit r.inst.id s.stepLimit))
    | fuel + 1 =>
      match r.inst.workflow.element? id with
      | none =>
        (.error (.unknownElement r.inst.id id), r.fail (.unknownElement r.inst.id id))
      | some e =>
        match r.visit s e with
        | (.ok (), r) => advanceFrom s fuel r
        | (.error failure, r) => (.error failure, r)

/-- **Visits elements until no token is left.** -/
def advance (s : Surroundings) (r : Run) : Except Failure Unit × Run :=
  advanceFrom s (s.stepLimit - r.inst.steps) r

end Run

end WorkflowCanvas
