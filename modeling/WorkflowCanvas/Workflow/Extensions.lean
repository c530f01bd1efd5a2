import WorkflowCanvas.Text.Blank
/-!
# Extension metadata

Pairs of texts attached to an element of a workflow, in the order in which
the keys first arrived. `set` replaces a value where it stands and ignores
a blank one.
-/


namespace WorkflowCanvas

/-- Ordered pairs of texts. -/
structure Extensions where
  entries : List (String × String) := []
deriving BEq, DecidableEq

namespace Extensions

/-- Writes a value at a key, in the place of the first entry for it or at
the end. -/
def write (k v : String) : List (String × String) → List (String × String)
  | [] => [(k, v)]
  | e :: rest => if e.1 = k then (k, v) :: rest else e :: write k v rest

/-- Sets a value. A blank one changes nothing. -/
def set (x : Extensions) (k v : String) : Extensions :=
  if (Text.nonBlank? v).isSome then ⟨write k v x.entries⟩ else x

/-- Sets a value that may be absent. -/
def setSome (x : Extensions) (k : String) : Option String → Extensions
  | some v => x.set k v
  | none => x

/-- The value of the first entry for a key. -/
def get? (x : Extensions) (k : String) : Option String :=
  (x.entries.find? fun e => e.1 == k).map (·.2)

/-- There is an entry for the key. -/
def contains (x : Extensions) (k : String) : Bool := (x.get? k).isSome

/-- The number of entries. -/
def size (x : Extensions) : Nat := x.entries.length

end Extensions

end WorkflowCanvas
