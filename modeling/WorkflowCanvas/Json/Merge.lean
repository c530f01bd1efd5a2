import WorkflowCanvas.Json.Basic
/-!
# Merging objects

Merging lays one object over another. Where both hold an object at a key
the two are merged in turn; anywhere else the value laid on top replaces
what was there.
-/


namespace WorkflowCanvas

namespace Json

mutual

/-- A value laid over what stands at its place. -/
def mergeOver (existing? : Option Json) : Json → Json
  | .obj incoming =>
    match existing? with
    | some (.obj existing) => .obj (mergeFields existing incoming)
    | _ => .obj incoming
  | .null => .null
  | .bool b => .bool b
  | .int n => .int n
  | .float x => .float x
  | .str s => .str s
  | .arr items => .arr items

/-- Fields laid over an object one by one. -/
def mergeFields (target : Table Json) : List (String × Json) → Table Json
  | [] => target
  | (k, v) :: rest => mergeFields (target.insert k (mergeOver (target.get? k) v)) rest

end

/-- **Lays the fields of `overrides` over `target`.** -/
def merge (target overrides : Table Json) : Table Json := mergeFields target overrides

end Json

end WorkflowCanvas
