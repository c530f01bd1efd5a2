import WorkflowCanvas.Json.Document
/-!
# Reading numerals

A numeral without fraction and exponent is an integer as long as it fits
64 bits, signed or unsigned; `-0` and everything else is a float. The
float is taken from the leading digits that fit an unsigned 64-bit word,
read as a float and scaled by one power of ten; digits beyond the word
count by their places alone. A numeral beyond the largest float stands for
no value.
-/


namespace WorkflowCanvas

namespace Document

/-- The parts of a numeral: its sign, its integral digits, its fraction
and its exponent. -/
structure Numeral where
  negative : Bool
  whole : List Nat
  fraction : Option (List Nat)
  exponent : Option Int

/-- Appends digits to a word as long as it stays below `2^64`, and gives
the digits that are left. -/
def appendDigits (word : Nat) : List Nat → Nat × List Nat
  | [] => (word, [])
  | d :: ds =>
    if word * 10 + d < 0x10000000000000000 then appendDigits (word * 10 + d) ds else (word, d :: ds)

/-- A power of ten that is a float. -/
def powerOfTen (n : Nat) : Float := Float.ofScientific 1 false n

/-- Divides by a power of ten in steps of at most `10^308`. -/
def scaleDown : Nat → Float → Nat → Float
  | 0, x, _ => x
  | fuel + 1, x, e =>
    if e ≤ 308 then x / powerOfTen e
    else if x == 0 then x
    else scaleDown fuel (x / powerOfTen 308) (e - 308)

/-- The float `word · 10^exponent`, if it is finite. -/
def scaled? (word : Nat) (exponent : Int) : Option Float :=
  let x := Float.ofNat word
  if exponent < 0 then some (scaleDown 4 x exponent.natAbs)
  else if exponent ≤ 308 then
    let y := x * powerOfTen exponent.natAbs
    if y.isInf then none else some y
  else if word = 0 then some x
  else none

/-- The document of a numeral. -/
def Numeral.read (n : Numeral) : Document :=
  let (word, beyond) := appendDigits 0 n.whole
  let asFloat (word : Nat) (exponent : Int) : Document :=
    match scaled? word exponent with
    | some x => .float (if n.negative then -x else x)
    | none => .unreadable
  match n.fraction, n.exponent with
  | none, none =>
    if !beyond.isEmpty then asFloat word beyond.length
    else if !n.negative then .int word
    else if 0 < word ∧ word ≤ 0x8000000000000000 then .int (-(word : Int))
    else asFloat word 0
  | fraction, exponent =>
    let digits := fraction.getD []
    let (word, rest) := appendDigits word digits
    asFloat word ((beyond.length : Int) - ((digits.length : Int) - rest.length) + exponent.getD 0)

end Document

end WorkflowCanvas
