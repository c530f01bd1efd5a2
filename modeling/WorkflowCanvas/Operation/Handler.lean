import WorkflowCanvas.Workflow.OfCanvas
/-!
# Handlers

A handler is the business logic behind an operation. It runs in the
context of one step: the step, the variables of the workflow instance, and
what the outside world contributes, the time and a number drawn for it. It
may read and write variables and then succeed or give up. What it wrote
before it gave up stays written in its context.
-/


namespace WorkflowCanvas

namespace Operation

/-- Why a handler gave up. -/
inductive Refusal where
  /-- The case was rejected, under a code. -/
  | business (code text : String)
  /-- Something went wrong. -/
  | technical (text : String)
deriving BEq, DecidableEq

/-- What the outside world contributes to a step. -/
structure Occasion where
  /-- Milliseconds since the epoch. -/
  now : Nat := 0
  /-- A number drawn for the step. -/
  draw : Nat := 0

/-- The context of one step. -/
structure Context where
  instanceId : String
  workflowKey : String
  step : Workflow.Element
  occasion : Occasion := {}
  /-- The variables of the workflow instance. -/
  store : Table Json
  /-- The keys written so far, each where it was first written. -/
  written : List String := []

namespace Context

/-- The value of a variable. -/
def get? (c : Context) (key : String) : Option Json := c.store.get? key

/-- Writes a variable. -/
def set (c : Context) (key : String) (value : Json) : Context :=
  { c with
    store := c.store.insert key value
    written := if c.written.contains key then c.written else c.written ++ [key] }

/-- The extension of the step at a key. -/
def extension? (c : Context) (key : String) : Option String := c.step.extensions.get? key

/-- The items of an extension that lists them. -/
def extensionList (c : Context) (key : String) : List String :=
  ((c.extension? key).map Workflow.listItems).getD []

/-- What is said of a variable that is missing or has the wrong form. -/
def missing (c : Context) (key : String) : Refusal :=
  .technical ("step '" ++ c.step.id ++ "' requires variable '" ++ key ++ "'")

end Context

/-- **A handler**: what it makes of its context, and whether it gave up. -/
abbrev Handler := Context → Except Refusal Unit × Context

/-- What stands behind a handler reference. -/
inductive Component where
  | handler (h : Handler)
  /-- Something that is no handler. -/
  | other
  /-- Something that cannot be made. -/
  | broken (cause : String)

/-- Components by handler reference. -/
structure Catalog where
  entries : List (String × Component) := []

namespace Catalog

/-- The component behind a reference. -/
def find? (c : Catalog) (ref : String) : Option Component :=
  (c.entries.find? fun e => e.1 == ref).map (·.2)

/-- There is a component behind the reference. -/
def contains (c : Catalog) (ref : String) : Bool := (c.find? ref).isSome

/-- Puts a component behind a reference, in place of the one that stood
there. -/
def insert (c : Catalog) (ref : String) (component : Component) : Catalog :=
  ⟨c.entries.filter (fun e => e.1 != ref) ++ [(ref, component)]⟩

/-- The number of references. -/
def size (c : Catalog) : Nat := c.entries.length

/-- Makes the component behind a reference; an error is the cause. -/
def instantiate (c : Catalog) (ref : String) : Except String Component :=
  match c.find? ref with
  | some (.broken cause) => .error cause
  | some component => .ok component
  | none => .error ("no handler registered under '" ++ ref ++ "'")

end Catalog

end Operation

end WorkflowCanvas
