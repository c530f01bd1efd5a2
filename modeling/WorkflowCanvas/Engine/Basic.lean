import WorkflowCanvas.Engine.Roster
import WorkflowCanvas.Engine.Run
/-!
# Engines

An engine keeps the latest workflow deployed under each key and a roster of
all instances, numbered as they are started. A call that is refused changes
nothing; a call that fails while running leaves the one instance it runs
failed. Ids are drawn from a counter. The log holds every event, last one
first.
-/


namespace WorkflowCanvas

/-- What a deployment is known by. -/
structure Deployment where
  deploymentId : String
  workflowKey : String
deriving BEq, DecidableEq

/-- The document of a deployment. -/
def Deployment.toDocument (d : Deployment) : Document :=
  .obj [("deploymentId", .str d.deploymentId), ("processKey", .str d.workflowKey)]

/-- An engine that keeps everything it knows in itself. -/
structure Engine where
  library : Operation.Library
  stepLimit : Nat
  /-- The latest workflow under each key. -/
  deployments : Table Workflow := []
  /-- All instances. -/
  roster : Roster := {}
  /-- All events, last one first. -/
  log : List Event := []
  /-- How many numbers were drawn. -/
  drawn : Nat := 0
  /-- Milliseconds since the epoch, set by the host before a call. -/
  now : Nat := 0

namespace Engine

/-- How many elements an instance may visit where nothing is said. -/
def defaultStepLimit : Nat := 10000

/-- What an engine lends to a run. -/
def surroundings (e : Engine) : Surroundings := ⟨e.library, e.stepLimit, e.now⟩

/-- The keys that workflows are deployed under, in order. -/
def deployedKeys (e : Engine) : List String := e.deployments.keys

/-- The instance with an id. -/
def instance? (e : Engine) (id : String) : Option Instance := e.roster.find? id

/-- The instance with an id, or that there is none. -/
def status (e : Engine) (id : String) : Except Failure Instance :=
  match e.instance? id with
  | some i => .ok i
  | none => .error (.unknownInstance id)

/-- All instances, oldest first. -/
def instances (e : Engine) : List Instance := e.roster.snapshot fun _ => true

/-- The open instances, oldest first. -/
def active (e : Engine) : List Instance := e.roster.snapshot (·.isOpen)

/-- The completed instances, oldest first. -/
def completed (e : Engine) : List Instance := e.roster.snapshot (· == .completed)

/-- The work items of an instance. -/
def pending (e : Engine) (id : String) : Except Failure (List WorkItem) :=
  (e.status id).map (·.pending)

/-- Puts an instance in the place of the one with its id. -/
def replace (e : Engine) (i : Instance) : Engine :=
  { e with roster := e.roster.replace i }

/-- Takes a run back into the engine. -/
def takeBack (e : Engine) (r : Run) : Engine :=
  { e.replace r.inst with log := r.emitted ++ e.log, drawn := r.drawn }

/-- Advances an instance; the answer is the instance afterwards. -/
def finish (e : Engine) (outcome : Except Failure Unit × Run) : Except Failure Instance × Engine :=
  match outcome with
  | (.ok (), r) => (.ok r.inst, e.takeBack r)
  | (.error failure, r) => (.error failure, e.takeBack r)

/-- **Deploys a workflow under its id.** It replaces the one deployed
before; instances keep the workflow they were started with. -/
def deploy (e : Engine) (p : Workflow) : Except Failure Deployment × Engine :=
  if p.startEvents.isEmpty then (.error (.noStartEvent p.id), e)
  else
    let d : Deployment := ⟨identifier e.drawn, p.id⟩
    (.ok d, { e with
      deployments := e.deployments.insert p.id p
      log := .deployed d.deploymentId d.workflowKey :: e.log
      drawn := e.drawn + 1 })

/-- **Starts an instance** of the workflow under a key, with a token on
every start event. -/
def start (e : Engine) (key : String) (vars : Table Json) :
    Except Failure Instance × Engine :=
  match e.deployments.get? key with
  | none => (.error (.unknownWorkflow key), e)
  | some p =>
    let i : Instance :=
      { id := identifier e.drawn, workflow := p, tokens := p.startEvents.map (·.id) }
    let i := i.merge vars
    let e := { e with roster := e.roster.enrol i }
    let r : Run := { inst := i, drawn := e.drawn + 1 }
    e.finish ((r.emit (.instanceStarted i.id key)).advance e.surroundings)

/-- The work item that a node id or a task id names, and the others. -/
def takeItem? (name : String) : List WorkItem → Option (WorkItem × List WorkItem)
  | [] => none
  | w :: rest =>
    if w.nodeId = name ∨ w.taskId = name then some (w, rest)
    else (takeItem? name rest).map fun (found, others) => (found, w :: others)

/-- Runs the operation of a completed user step, if it has one. -/
def completeStep (s : Surroundings) (r : Run) (element : Workflow.Element) :
    Except Failure Unit × Run :=
  if element.operationId?.isSome then r.runStep s element
  else (.ok (), r.emit (.stepCompleted r.inst.id element.id))

/-- **Completes a pending user step** with the variables it yields, and
goes on from there. -/
def complete (e : Engine) (id name : String) (vars : Table Json) :
    Except Failure Instance × Engine :=
  match e.instance? id with
  | none => (.error (.unknownInstance id), e)
  | some i =>
    match i.requireState .active with
    | .error failure => (.error failure, e)
    | .ok () =>
      match takeItem? name i.pending with
      | none => (.error (.workItemNotFound id name), e)
      | some (item, others) =>
        let r : Run := { inst := { i with pending := others }.merge vars, drawn := e.drawn }
        match i.workflow.element? item.nodeId with
        | none =>
          let failure := Failure.workItemWithoutElement item.nodeId
          e.finish (.error failure, r.fail failure)
        | some element =>
          match completeStep e.surroundings r element with
          | (.ok (), r) => e.finish ((r.follow element.id).advance e.surroundings)
          | (.error failure, r) => e.finish (.error failure, r)

/-- Moves an instance to a state and says so. -/
def move (e : Engine) (i : Instance) (event : Event) : Engine :=
  { e.replace i with log := event :: e.log }

/-- Suspends an active instance. -/
def suspend (e : Engine) (id : String) : Except Failure Unit × Engine :=
  match e.instance? id with
  | none => (.error (.unknownInstance id), e)
  | some i =>
    match i.requireState .active with
    | .error failure => (.error failure, e)
    | .ok () => (.ok (), e.move { i with state := .suspended } (.instanceSuspended id))

/-- Resumes a suspended instance. -/
def resume (e : Engine) (id : String) : Except Failure Unit × Engine :=
  match e.instance? id with
  | none => (.error (.unknownInstance id), e)
  | some i =>
    match i.requireState .suspended with
    | .error failure => (.error failure, e)
    | .ok () => (.ok (), e.move { i with state := .active } (.instanceResumed id))

/-- Terminates an open instance, perhaps for a reason. -/
def terminate (e : Engine) (id : String) (reason? : Option String) :
    Except Failure Unit × Engine :=
  match e.instance? id with
  | none => (.error (.unknownInstance id), e)
  | some i =>
    if i.state.isOpen then
      (.ok (), e.move
        { i with state := .terminated, detail? := reason?, tokens := [], pending := [] }
        (.instanceTerminated id reason?))
    else (.error (.wrongState id i.state), e)

end Engine

end WorkflowCanvas
