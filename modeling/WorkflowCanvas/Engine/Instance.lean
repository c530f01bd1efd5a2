import WorkflowCanvas.Engine.Event
import WorkflowCanvas.Failure
import WorkflowCanvas.Workflow.Basic
/-!
# Workflow instances

An instance is one execution of a workflow. Its place in the workflow is the
queue of tokens, each the id of an element to visit, together with the
pending work items and the arrivals counted at joins. Variables are held
twice: in the store that handlers read and write, and in the snapshot that
conditions and reports read, which follows the store after each step that
succeeds.
-/


namespace WorkflowCanvas

/-- A user step that waits to be completed. -/
structure WorkItem where
  taskId : String
  nodeId : String
  name? : Option String
  operationId? : Option String
deriving BEq, DecidableEq

/-- The document of a work item. -/
def WorkItem.toDocument (w : WorkItem) : Document :=
  .obj [("taskId", .str w.taskId), ("nodeId", .str w.nodeId), ("name", Document.text? w.name?),
        ("operationId", Document.text? w.operationId?)]

/-- One execution of a workflow. -/
structure Instance where
  id : String
  workflow : Workflow
  /-- The variables as handlers see them. -/
  store : Table Json := []
  /-- The variables as conditions and reports see them. -/
  vars : Table Json := []
  state : InstanceState := .active
  /-- The ids of the elements to visit, next one first. -/
  tokens : List String := []
  /-- How many tokens wait at each join. -/
  arrivals : Table Nat := []
  pending : List WorkItem := []
  /-- The text of the failure, or the reason of the termination. -/
  detail? : Option String := none
  /-- How many elements were visited. -/
  steps : Nat := 0

namespace Instance

/-- Writes variables from outside. -/
def merge (i : Instance) (vars : Table Json) : Instance :=
  { i with
    store := i.store.insertAll vars
    vars := i.vars.insertAll vars }

/-- The state is the expected one, or the instance refuses. -/
def requireState (i : Instance) (expected : InstanceState) : Except Failure Unit :=
  if i.state = expected then .ok () else .error (.wrongState i.id i.state)

/-- The status of an instance as a document. -/
def toDocument (i : Instance) : Document :=
  .obj <|
    [("instanceId", .str i.id), ("processKey", .str i.workflow.id),
     ("state", i.state.toDocument), ("pending", Document.list WorkItem.toDocument i.pending),
     ("variables", Document.fields i.vars)]
    ++ Document.field? "detail" .str i.detail?

end Instance

end WorkflowCanvas
