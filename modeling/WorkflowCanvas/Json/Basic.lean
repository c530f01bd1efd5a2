import WorkflowCanvas.Table
/-!
# JSON values

A value of free-form data. Objects are tables, sorted by key. A number is
an integer or a float, and the two stay apart: `1` and `1.0` are different
values with different texts.
-/


namespace WorkflowCanvas

/-- A JSON value. The fields of an object are a `Table`. -/
inductive Json where
  | null
  | bool (b : Bool)
  | int (n : Int)
  | float (x : Float)
  | str (s : String)
  | arr (items : List Json)
  | obj (fields : List (String × Json))
deriving Inhabited

namespace Json

mutual

/-- Equality of values, floats compared as numbers. -/
def beq : Json → Json → Bool
  | .null, .null => true
  | .bool a, .bool b => a == b
  | .int a, .int b => a == b
  | .float a, .float b => a == b
  | .str a, .str b => a == b
  | .arr a, .arr b => beqItems a b
  | .obj a, .obj b => beqFields a b
  | _, _ => false

/-- Equality of lists of values. -/
def beqItems : List Json → List Json → Bool
  | [], [] => true
  | a :: as, b :: bs => beq a b && beqItems as bs
  | _, _ => false

/-- Equality of lists of fields. -/
def beqFields : List (String × Json) → List (String × Json) → Bool
  | [], [] => true
  | (k, a) :: as, (l, b) :: bs => k == l && beq a b && beqFields as bs
  | _, _ => false

end

instance : BEq Json := ⟨beq⟩

/-- The fields of an object. -/
def fields? : Json → Option (Table Json)
  | .obj fields => some fields
  | _ => none

/-- The items of an array. -/
def items? : Json → Option (List Json)
  | .arr items => some items
  | _ => none

/-- The text of a string. -/
def str? : Json → Option String
  | .str s => some s
  | _ => none

/-- A value that is not null. -/
def nonNull? : Json → Option Json
  | .null => none
  | v => some v

/-- The value at a key of an object. -/
def field? (j : Json) (k : String) : Option Json := j.fields?.bind (Table.get? · k)

/-- The least integer that is no unsigned 64-bit word. -/
def wordLimit : Int := 0x10000000000000000

/-- The least positive integer that is no signed 64-bit word. -/
def signedLimit : Int := 0x8000000000000000

/-- An integer in the range of unsigned 64-bit words. -/
def unsigned? : Json → Option Nat
  | .int n => if 0 ≤ n ∧ n < wordLimit then some n.toNat else none
  | _ => none

/-- A number as a float, an integer rounded to the nearest one. -/
def number? : Json → Option Float
  | .int n => some (Float.ofInt n)
  | .float x => some x
  | _ => none

end Json

end WorkflowCanvas
