import WorkflowCanvas.Json.Record
/-!
# Events

What an engine reports while workflows are deployed and instances run. All
events but a deployment belong to an instance.
-/


namespace WorkflowCanvas

/-- Something that happened in an engine. -/
inductive Event where
  | deployed (deploymentId workflowKey : String)
  | instanceStarted (instanceId workflowKey : String)
  | stepStarted (instanceId nodeId : String) (operationId? : Option String)
  | stepCompleted (instanceId nodeId : String)
  | stepFailed (instanceId nodeId error : String)
  | waitingForUser (instanceId nodeId taskId : String)
  | instanceCompleted (instanceId : String)
  | instanceFailed (instanceId error : String)
  | instanceSuspended (instanceId : String)
  | instanceResumed (instanceId : String)
  | instanceTerminated (instanceId : String) (reason? : Option String)
deriving BEq, DecidableEq

namespace Event

open Document (asString?)

/-- The instance an event belongs to. -/
def instanceId? : Event → Option String
  | .deployed _ _ => none
  | .instanceStarted i _ | .stepStarted i _ _ | .stepCompleted i _ | .stepFailed i _ _
  | .waitingForUser i _ _ | .instanceCompleted i | .instanceFailed i _ | .instanceSuspended i
  | .instanceResumed i | .instanceTerminated i _ => some i

/-- The event with a name, from its fields. -/
def ofFields? (tag : String) (d : Document) : Option Event :=
  let record (names : List String) := Record.of? (Record.plain names) d
  match tag with
  | "deployed" => do
    let r ← record ["deploymentId", "processKey"]
    return .deployed (← r.required "deploymentId" asString?) (← r.required "processKey" asString?)
  | "instanceStarted" => do
    let r ← record ["instanceId", "processKey"]
    return .instanceStarted (← r.required "instanceId" asString?)
      (← r.required "processKey" asString?)
  | "stepStarted" => do
    let r ← record ["instanceId", "nodeId", "operationId"]
    return .stepStarted (← r.required "instanceId" asString?) (← r.required "nodeId" asString?)
      (← r.optional "operationId" asString?)
  | "stepCompleted" => do
    let r ← record ["instanceId", "nodeId"]
    return .stepCompleted (← r.required "instanceId" asString?) (← r.required "nodeId" asString?)
  | "stepFailed" => do
    let r ← record ["instanceId", "nodeId", "error"]
    return .stepFailed (← r.required "instanceId" asString?) (← r.required "nodeId" asString?)
      (← r.required "error" asString?)
  | "waitingForUser" => do
    let r ← record ["instanceId", "nodeId", "taskId"]
    return .waitingForUser (← r.required "instanceId" asString?)
      (← r.required "nodeId" asString?) (← r.required "taskId" asString?)
  | "instanceCompleted" => do
    let r ← record ["instanceId"]
    return .instanceCompleted (← r.required "instanceId" asString?)
  | "instanceFailed" => do
    let r ← record ["instanceId", "error"]
    return .instanceFailed (← r.required "instanceId" asString?) (← r.required "error" asString?)
  | "instanceSuspended" => do
    let r ← record ["instanceId"]
    return .instanceSuspended (← r.required "instanceId" asString?)
  | "instanceResumed" => do
    let r ← record ["instanceId"]
    return .instanceResumed (← r.required "instanceId" asString?)
  | "instanceTerminated" => do
    let r ← record ["instanceId", "reason"]
    return .instanceTerminated (← r.required "instanceId" asString?)
      (← r.optional "reason" asString?)
  | _ => none

/-- An event from its document: an object with its name under `type`, or
an array with its name in front. -/
def ofDocument? : Document → Option Event
  | .obj fields => do
    let tagged ← Record.of? (Record.plain ["type"]) (.obj fields)
    let tag ← tagged.required "type" asString?
    ofFields? tag (.obj (fields.filter fun f => f.1 != "type"))
  | .arr (.str tag :: items) => ofFields? tag (.arr items)
  | _ => none

/-- The document of an event. -/
def toDocument : Event → Document
  | .deployed deploymentId workflowKey =>
    .obj [("type", .str "deployed"), ("deploymentId", .str deploymentId),
          ("processKey", .str workflowKey)]
  | .instanceStarted i workflowKey =>
    .obj [("type", .str "instanceStarted"), ("instanceId", .str i),
          ("processKey", .str workflowKey)]
  | .stepStarted i nodeId operationId? =>
    .obj [("type", .str "stepStarted"), ("instanceId", .str i), ("nodeId", .str nodeId),
          ("operationId", Document.text? operationId?)]
  | .stepCompleted i nodeId =>
    .obj [("type", .str "stepCompleted"), ("instanceId", .str i), ("nodeId", .str nodeId)]
  | .stepFailed i nodeId error =>
    .obj [("type", .str "stepFailed"), ("instanceId", .str i), ("nodeId", .str nodeId),
          ("error", .str error)]
  | .waitingForUser i nodeId taskId =>
    .obj [("type", .str "waitingForUser"), ("instanceId", .str i), ("nodeId", .str nodeId),
          ("taskId", .str taskId)]
  | .instanceCompleted i => .obj [("type", .str "instanceCompleted"), ("instanceId", .str i)]
  | .instanceFailed i error =>
    .obj [("type", .str "instanceFailed"), ("instanceId", .str i), ("error", .str error)]
  | .instanceSuspended i => .obj [("type", .str "instanceSuspended"), ("instanceId", .str i)]
  | .instanceResumed i => .obj [("type", .str "instanceResumed"), ("instanceId", .str i)]
  | .instanceTerminated i reason? =>
    .obj [("type", .str "instanceTerminated"), ("instanceId", .str i),
          ("reason", Document.text? reason?)]

end Event

end WorkflowCanvas
