import WorkflowCanvas.Operation.Handler
import WorkflowCanvas.Operation.Registry
/-!
# Locating and installing operations

A locator finds operations: the ones of an explicit list, in its order, or
the ones of an inventory of declarations, sorted by id and perhaps only
those whose handler reference has a given start. It skips declarations
with a blank id or without a handler reference. `install` registers what
a locator finds and puts the handlers into a catalogue.
-/


namespace WorkflowCanvas

namespace Operation

/-- An operation with its handler. -/
structure Declaration where
  descriptor : Descriptor
  handler : Handler

/-- A way to find operations. -/
inductive Locator where
  /-- An explicit list. -/
  | fixed (declarations : List Declaration)
  /-- An inventory, restricted to handler references with a start. -/
  | inventory (declarations : List Declaration) (within? : Option String)

namespace Locator

/-- The name of a locator. -/
def name : Locator → String
  | .fixed _ => "static"
  | .inventory _ _ => "inventory"

/-- A declaration can be installed: it has an id and a handler
reference. -/
def isInstallable (d : Declaration) : Bool :=
  (Text.nonBlank? d.descriptor.id).isSome && d.descriptor.resolvedRef?.isSome

/-- The handler reference of a declaration has the given start. -/
def isWithin (within? : Option String) (d : Declaration) : Bool :=
  match within?, d.descriptor.resolvedRef? with
  | some start, some ref => (Text.dropStart? start.toList ref.toList).isSome
  | _, _ => true

/-- Inserts a declaration behind those with an id that is not greater. -/
def insertById (d : Declaration) : List Declaration → List Declaration
  | [] => [d]
  | e :: rest =>
    if d.descriptor.id < e.descriptor.id then d :: e :: rest else e :: insertById d rest

/-- Declarations sorted by id. -/
def sortById (ds : List Declaration) : List Declaration :=
  ds.foldl (fun sorted d => insertById d sorted) []

/-- **The operations a locator finds.** -/
def locate : Locator → List Declaration
  | .fixed ds => ds.filter isInstallable
  | .inventory ds within? => sortById (ds.filter fun d => isInstallable d && isWithin within? d)

end Locator

/-- A registry and a catalogue. -/
structure Library where
  registry : Registry := {}
  catalog : Catalog := {}

namespace Library

/-- Registers an operation and puts its handler into the catalogue, unless
the reference is taken. -/
def add (l : Library) (d : Declaration) : Except Failure Library :=
  match l.registry.register d.descriptor with
  | .error failure => .error failure
  | .ok registry =>
    match d.descriptor.resolvedRef? with
    | some ref =>
      if l.catalog.contains ref then .ok { l with registry }
      else .ok { registry, catalog := l.catalog.insert ref (.handler d.handler) }
    | none => .ok { l with registry }

/-- Adds operations up to the first that is rejected. -/
def addAll (l : Library) : List Declaration → Library × Option Failure
  | [] => (l, none)
  | d :: rest =>
    match l.add d with
    | .ok l => addAll l rest
    | .error failure => (l, some failure)

/-- **Installs what a locator finds**; the answer is how much that is. What
was installed before a rejection stays installed. -/
def install (l : Library) (locator : Locator) : Library × Except Failure Nat :=
  let found := locator.locate
  match l.addAll found with
  | (l, none) => (l, .ok found.length)
  | (l, some failure) => (l, .error failure)

end Library

end Operation

end WorkflowCanvas
