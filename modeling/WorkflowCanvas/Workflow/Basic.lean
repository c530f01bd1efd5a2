import WorkflowCanvas.Geometry
import WorkflowCanvas.Workflow.Extensions
/-!
# Workflows

The executable form of a sketch: an identity, typed elements, and the
sequence flows between them. Ids are not unique by construction; an id
stands for the first element that has it.
-/


namespace WorkflowCanvas

namespace Workflow

/-- How a service task names its implementation. -/
inductive ImplementationKind where
  | className
  | expression
  | delegateExpression
deriving BEq, DecidableEq

/-- The implementation of a service task. -/
structure Implementation where
  kind : ImplementationKind
  reference : String
deriving BEq, DecidableEq

/-- What an element does. -/
inductive ElementKind where
  | startEvent
  | endEvent
  | serviceTask (implementation? : Option Implementation) (asynchronous exclusive : Bool)
  | userTask (assignee? : Option String) (candidateGroups : List String) (priority? : Option Int)
  | scriptTask (format? script? : Option String)
  | parallelGateway
  | exclusiveGateway
deriving BEq, DecidableEq

namespace ElementKind

/-- The name of the kind. -/
def tag : ElementKind → String
  | .startEvent => "startEvent"
  | .endEvent => "endEvent"
  | .serviceTask .. => "serviceTask"
  | .userTask .. => "userTask"
  | .scriptTask .. => "scriptTask"
  | .parallelGateway => "parallelGateway"
  | .exclusiveGateway => "exclusiveGateway"

/-- The element performs work. -/
def isTask : ElementKind → Bool
  | .serviceTask .. | .userTask .. | .scriptTask .. => true
  | _ => false

end ElementKind

/-- A node of a workflow. -/
structure Element where
  id : String
  name? : Option String := none
  kind : ElementKind
  documentation? : Option String := none
  extensions : Extensions := {}
  bounds? : Option Rect := none
deriving BEq, DecidableEq

/-- The extension key of the operation behind an element. -/
def delegationIdKey : String := "delegationId"

/-- The operation behind an element. -/
def Element.operationId? (e : Element) : Option String :=
  (e.extensions.get? delegationIdKey).bind Text.nonBlank?

/-- A sequence flow from one element to another. -/
structure Flow where
  id : String
  source : String
  target : String
  name? : Option String := none
  /-- The expression that must hold for the flow to be taken. -/
  condition? : Option String := none
deriving BEq, DecidableEq

end Workflow

/-- An executable workflow. -/
structure Workflow where
  id : String
  name? : Option String := none
  namespaceUri? : Option String := none
  elements : List Workflow.Element := []
  flows : List Workflow.Flow := []
deriving BEq, DecidableEq

namespace Workflow

/-- The first element with an id. -/
def element? (p : Workflow) (id : String) : Option Element := p.elements.find? fun e => e.id == id

/-- The flows that leave an id, in order. -/
def outgoing (p : Workflow) (id : String) : List Flow := p.flows.filter fun f => f.source == id

/-- The flows that enter an id, in order. -/
def incoming (p : Workflow) (id : String) : List Flow := p.flows.filter fun f => f.target == id

/-- The start events, in order. -/
def startEvents (p : Workflow) : List Element := p.elements.filter fun e => e.kind == .startEvent

end Workflow

end WorkflowCanvas
