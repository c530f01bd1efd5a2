import WorkflowCanvas.Operation.Locator
/-!
# Dispatch

A step names an operation, the registry knows the handler reference of the
operation, and the catalogue makes the handler. `dispatch` follows that
path and runs the handler once; each break of the path is a failure of its
own.
-/


namespace WorkflowCanvas

namespace Operation

namespace Library

/-- The handler of an operation. -/
def resolve (l : Library) (operation : String) : Except Failure Handler :=
  match l.registry.find? operation with
  | none => .error (.unknownOperation operation)
  | some descriptor =>
    match descriptor.resolvedRef? with
    | none => .error (.noHandler operation)
    | some ref =>
      match l.catalog.instantiate ref with
      | .error cause => .error (.instantiation operation cause)
      | .ok (.handler h) => .ok h
      | .ok _ => .error (.notAHandler operation ref)

/-- A refusal as a failure of the operation. -/
def failureOf (operation : String) : Refusal → Failure
  | .business code text => .business (some operation) code text
  | .technical text => .execution operation text

/-- **Runs the operation behind the step of a context.** -/
def dispatch (l : Library) (c : Context) : Except Failure Unit × Context :=
  match c.step.operationId? with
  | none => (.error (.missingOperationId c.step.id), c)
  | some operation =>
    match l.resolve operation with
    | .error failure => (.error failure, c)
    | .ok handler =>
      match handler c with
      | (.ok (), c) => (.ok (), c)
      | (.error refusal, c) => (.error (failureOf operation refusal), c)

end Library

end Operation

end WorkflowCanvas
