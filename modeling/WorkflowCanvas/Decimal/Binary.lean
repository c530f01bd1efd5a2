/-!
# Binary floating-point values as exact numbers

A finite 64-bit float is `mantissa · 2^exponent` up to sign. This module
decodes a float into that form and compares such a number with decimals
exactly, by products of natural numbers. `readsBack` is the specification
of a faithful decimal: it lies among the reals that round to the value.
-/


namespace WorkflowCanvas

namespace Decimal

/-- The magnitude of a finite float, `mantissa · 2^exponent`. -/
structure Binary where
  mantissa : Nat
  exponent : Int
  /-- The gap to the value below is half the gap to the value above. -/
  narrowBelow : Bool
deriving DecidableEq

/-- A decimal, `digits · 10^exponent`. -/
structure Scaled where
  digits : Nat
  exponent : Int
deriving DecidableEq, Inhabited

/-- What an exact tie between two neighbours goes to. -/
inductive Tie where
  | toEven
  | awayFromZero
deriving DecidableEq

/-- The sign bit of a float is set. -/
def isNegative (x : Float) : Bool := x.toBits >>> 63 == 1

/-- The leading bit of a mantissa, which a float leaves out unless it is
nearly zero. -/
def hiddenBit : Nat := 0x10000000000000

/-- The magnitude of a finite float. An infinity or a NaN has none, and
the caller tests for them first. -/
def Binary.ofFloat (x : Float) : Binary :=
  let bits := x.toBits.toNat
  let biased : Nat := bits / hiddenBit % 2048
  let fraction : Nat := bits % hiddenBit
  if biased = 0 then ⟨fraction, -1074, false⟩
  else ⟨hiddenBit + fraction, (biased : Int) - 1075, fraction == 0 && biased > 1⟩

/-- Compares `a · 10^i` with `n · 2^j`. -/
def compareScaled (a : Nat) (i : Int) (n : Nat) (j : Int) : Ordering :=
  compare (a * Nat.pow 10 i.toNat * Nat.pow 2 (-j).toNat)
    (n * Nat.pow 2 j.toNat * Nat.pow 10 (-i).toNat)

namespace Binary

/-- **The decimals that stand for a value**: those from halfway to the
neighbour below to halfway to the neighbour above, the ends included
exactly when the mantissa is even. -/
def readsBack (x : Binary) (d : Scaled) : Bool :=
  let below := if x.narrowBelow then 4 * x.mantissa - 1 else 4 * x.mantissa - 2
  let above := 4 * x.mantissa + 2
  let inclusive := x.mantissa % 2 == 0
  let low := compareScaled d.digits d.exponent below (x.exponent - 2)
  let high := compareScaled d.digits d.exponent above (x.exponent - 2)
  (low == .gt || (inclusive && low == .eq)) && (high == .lt || (inclusive && high == .eq))

/-- The integral part of the value in units of `10^unit`. -/
def floorIn (x : Binary) (unit : Int) : Nat :=
  (x.mantissa * Nat.pow 2 x.exponent.toNat * Nat.pow 10 (-unit).toNat)
    / (Nat.pow 2 (-x.exponent).toNat * Nat.pow 10 unit.toNat)

/-- The decimal exponent just above the value: it is below `10^k` and not
below `10^(k-1)`. The binary logarithm gives a lower bound that is short
by two at most. -/
def magnitude (x : Binary) : Int :=
  let estimate := ((x.mantissa.log2 : Int) + x.exponent) * 30103 / 100000
  if compareScaled 1 estimate x.mantissa x.exponent == .gt then estimate
  else if compareScaled 1 (estimate + 1) x.mantissa x.exponent == .gt then estimate + 1
  else estimate + 2

/-- The value as a decimal with all its digits. -/
def exact (x : Binary) : Scaled :=
  if x.exponent ≥ 0 then ⟨x.mantissa * Nat.pow 2 x.exponent.toNat, 0⟩
  else ⟨x.mantissa * Nat.pow 5 (-x.exponent).toNat, x.exponent⟩

end Binary

/-- Rounds `num / den` to the nearest integer. -/
def roundDiv (num den : Nat) (tie : Tie) : Nat :=
  let quotient := num / den
  match compare (2 * (num % den)) den, tie with
  | .lt, _ => quotient
  | .gt, _ => quotient + 1
  | .eq, .awayFromZero => quotient + 1
  | .eq, .toEven => if quotient % 2 = 0 then quotient else quotient + 1

end Decimal

end WorkflowCanvas
