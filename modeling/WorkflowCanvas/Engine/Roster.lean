import WorkflowCanvas.Engine.Instance
/-!
# Rosters

A roster keeps the instances of an engine. They are found by their ids, and
the order in which they are kept means nothing. Every instance has a number
instead, drawn from a counter when it is started, and what is asked of all
instances is sorted by these numbers.
-/


namespace WorkflowCanvas

/-- An instance with the number of its start. -/
structure Enrolment where
  number : Nat
  inst : Instance

namespace Enrolment

/-- Puts an enrolment before those that do not have a lower number. -/
def place (s : Enrolment) : List Enrolment → List Enrolment
  | [] => [s]
  | t :: rest => if s.number ≤ t.number then s :: t :: rest else t :: place s rest

/-- Sorts enrolments by their numbers. -/
def sort : List Enrolment → List Enrolment
  | [] => []
  | s :: rest => place s (sort rest)

end Enrolment

/-- The instances of an engine. -/
structure Roster where
  /-- The instances with their numbers, in whatever order. -/
  entries : List Enrolment := []
  /-- The number of the next start. -/
  next : Nat := 0

namespace Roster

/-- The instance with an id. -/
def find? (r : Roster) (id : String) : Option Instance :=
  (r.entries.find? fun s => s.inst.id == id).map (·.inst)

/-- Puts an instance in the place of the one with its id, which keeps its
number. -/
def replace (r : Roster) (i : Instance) : Roster :=
  { r with entries := r.entries.map fun s => if s.inst.id == i.id then { s with inst := i } else s }

/-- Takes a new instance in under the next number. -/
def enrol (r : Roster) (i : Instance) : Roster where
  entries := ⟨r.next, i⟩ :: r.entries
  next := r.next + 1

/-- **The instances in some states**, in the order of their numbers. -/
def snapshot (r : Roster) (keep : InstanceState → Bool) : List Instance :=
  (Enrolment.sort (r.entries.filter fun s => keep s.inst.state)).map (·.inst)

end Roster

end WorkflowCanvas
