import WorkflowCanvas.Decimal.Layout
import WorkflowCanvas.Engine.State
/-!
# Failures

What can go wrong while operations are registered, a sketch is compiled,
or a workflow runs. A constructor is a cause; `code` is the stable code a
host branches on and `message` the text for people. A business failure is
no defect: an operation rejected its case, under a code of its own.
-/


namespace WorkflowCanvas

/-- The cause of a failure. -/
inductive Failure where
  | blankOperationId
  | paddedOperationId (id : String)
  | duplicateOperation (id : String)
  | operationNotFound (id : String)
  | missingOperationId (step : String)
  | unknownOperation (operation : String)
  | noHandler (operation : String)
  | notAHandler (operation ref : String)
  | instantiation (operation cause : String)
  | execution (operation cause : String)
  | business (operation? : Option String) (code text : String)
  | unreadableSketch
  | unreadableSettings
  | blankStencil (tag : String)
  | invalidPadding (padding : Float)
  | emptyConversion
  | unknownWorkflow (key : String)
  | unknownInstance (id : String)
  | workItemNotFound (instanceId node : String)
  | wrongState (instanceId : String) (state : InstanceState)
  | stepLimit (instanceId : String) (limit : Nat)
  | unknownElement (instanceId element : String)
  | noOpenFlow (gateway : String)
  | noStartEvent (workflow : String)
  | workItemWithoutElement (node : String)
  | unreadableDocument
  | unreadableFile (path : String)
  | unwritableFile (path : String)
deriving DecidableEq

namespace Failure

/-- The code of a failure. -/
def code : Failure → String
  | .blankOperationId | .paddedOperationId _ => "REGISTRY_001"
  | .duplicateOperation _ => "REGISTRY_002"
  | .operationNotFound _ => "REGISTRY_003"
  | .missingOperationId _ => "DISPATCHER_001"
  | .unknownOperation _ => "DISPATCHER_002"
  | .noHandler _ => "DISPATCHER_003"
  | .notAHandler _ _ => "DISPATCHER_004"
  | .instantiation _ _ => "DISPATCHER_005"
  | .execution _ _ => "DISPATCHER_006"
  | .business _ code _ => code
  | .unreadableSketch => "COMPILER_001"
  | .unreadableSettings | .blankStencil _ | .invalidPadding _ => "CONFIG_001"
  | .emptyConversion => "CONVERTER_001"
  | .unknownWorkflow _ => "ENGINE_001"
  | .unknownInstance _ => "ENGINE_002"
  | .workItemNotFound _ _ => "ENGINE_003"
  | .wrongState _ _ => "ENGINE_004"
  | .stepLimit _ _ | .unknownElement _ _ | .noOpenFlow _ | .noStartEvent _
  | .workItemWithoutElement _ => "ENGINE_005"
  | .unreadableDocument => "IO_001"
  | .unreadableFile _ | .unwritableFile _ => "IO_002"

/-- The text of a failure. -/
def message : Failure → String
  | .blankOperationId => "Invalid operation descriptor: operation id must not be blank"
  | .paddedOperationId id =>
    "Invalid operation descriptor: operation id '" ++ id ++ "' has surrounding whitespace"
  | .duplicateOperation id => "Operation '" ++ id ++ "' is already registered"
  | .operationNotFound id => "Operation not found: " ++ id
  | .missingOperationId step => "Step '" ++ step ++ "' has no operation id (delegationId)"
  | .unknownOperation operation => "Unknown operation: " ++ operation
  | .noHandler operation => "Operation '" ++ operation ++ "' has no handler configured"
  | .notAHandler operation ref =>
    "Handler '" ++ ref ++ "' for operation '" ++ operation
      ++ "' does not implement OperationHandler"
  | .instantiation operation cause =>
    "Failed to instantiate handler for operation '" ++ operation ++ "': " ++ cause
  | .execution operation cause => "Operation '" ++ operation ++ "' failed: " ++ cause
  | .business _ code text => "[" ++ code ++ "] " ++ text
  | .unreadableSketch => "Invalid UI graph: not a graph of nodes and edges"
  | .unreadableSettings => "Invalid configuration: not a configuration document"
  | .blankStencil tag => "Invalid configuration: node type '" ++ tag ++ "' has a blank stencil"
  | .invalidPadding padding =>
    "Invalid configuration: flowBoundsPadding must be a non-negative number, got "
      ++ Decimal.plain padding
  | .emptyConversion => "Conversion produced no process definition"
  | .unknownWorkflow key => "Unknown process: " ++ key
  | .unknownInstance id => "Unknown process instance: " ++ id
  | .workItemNotFound instanceId node =>
    "No pending user step '" ++ node ++ "' in instance '" ++ instanceId ++ "'"
  | .wrongState instanceId state => "Instance '" ++ instanceId ++ "' is " ++ state.label
  | .stepLimit instanceId limit =>
    "Engine error: Instance '" ++ instanceId ++ "' exceeded the step limit of " ++ toString limit
  | .unknownElement instanceId element =>
    "Engine error: Instance '" ++ instanceId ++ "' reached unknown element '" ++ element ++ "'"
  | .noOpenFlow gateway =>
    "Engine error: No outgoing flow of gateway '" ++ gateway ++ "' can be taken"
  | .noStartEvent workflow => "Engine error: Process '" ++ workflow ++ "' has no start event"
  | .workItemWithoutElement node => "Engine error: Work item '" ++ node ++ "' has no element"
  | .unreadableDocument => "Serialization error: not a document of the expected form"
  | .unreadableFile path => "I/O error: cannot read " ++ path
  | .unwritableFile path => "I/O error: cannot write " ++ path

/-- The operation a failure is about, when it is known. -/
def operationId? : Failure → Option String
  | .unknownOperation operation | .noHandler operation | .notAHandler operation _
  | .instantiation operation _ | .execution operation _ => some operation
  | .duplicateOperation id | .operationNotFound id => some id
  | .business operation? _ _ => operation?
  | _ => none

/-- An operation rejected its case. -/
def isBusiness : Failure → Bool
  | .business .. => true
  | _ => false

end Failure

end WorkflowCanvas
