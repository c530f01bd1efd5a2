import WorkflowCanvas.Json.Record
/-!
# The lifecycle of a workflow instance

An instance is open while it is active or suspended; the other three
states are final.
-/


namespace WorkflowCanvas

/-- The state of a workflow instance. -/
inductive InstanceState where
  | active
  | suspended
  | completed
  | failed
  | terminated
deriving DecidableEq

namespace InstanceState

/-- The instance can still make progress. -/
def isOpen : InstanceState → Bool
  | .active | .suspended => true
  | .completed | .failed | .terminated => false

/-- The name of a state. -/
def label : InstanceState → String
  | .active => "active"
  | .suspended => "suspended"
  | .completed => "completed"
  | .failed => "failed"
  | .terminated => "terminated"

/-- The state with a name. -/
def ofLabel? : String → Option InstanceState
  | "active" => some .active
  | "suspended" => some .suspended
  | "completed" => some .completed
  | "failed" => some .failed
  | "terminated" => some .terminated
  | _ => none

/-- A state from its document. -/
def ofDocument? (d : Document) : Option InstanceState := d.asName? ofLabel?

/-- The document of a state. -/
def toDocument (s : InstanceState) : Document := .str s.label

/-- The name of a state tells which state it is. -/
theorem ofLabel?_label (s : InstanceState) : ofLabel? s.label = some s := by cases s <;> rfl

end InstanceState

end WorkflowCanvas
