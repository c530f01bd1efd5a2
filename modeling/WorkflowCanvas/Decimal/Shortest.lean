import WorkflowCanvas.Decimal.Binary
/-!
# The fewest digits that read back

A float is written with the fewest significant digits that still round to
it, and of those decimals with the nearest. For one digit, two digits and
so on the value's two neighbours on that decimal grid are tried; the first
grid with a neighbour that reads back wins. Seventeen digits always
suffice, and beyond them stands the exact value.
-/


namespace WorkflowCanvas

namespace Decimal

/-- Moves trailing zeros of the digits into the exponent. -/
def Scaled.strip : Nat → Scaled → Scaled
  | 0, d => d
  | fuel + 1, d =>
    if d.digits ≠ 0 ∧ d.digits % 10 = 0 then Scaled.strip fuel ⟨d.digits / 10, d.exponent + 1⟩
    else d

/-- The better of the value's two neighbours in units of `10^unit` among
those that read back. -/
def Binary.nearestIn? (x : Binary) (tie : Tie) (unit : Int) : Option Scaled :=
  let low : Scaled := ⟨x.floorIn unit, unit⟩
  let high : Scaled := ⟨low.digits + 1, unit⟩
  match x.readsBack low, x.readsBack high with
  | false, false => none
  | true, false => some low
  | false, true => some high
  | true, true =>
    match compareScaled (low.digits + high.digits) unit (2 * x.mantissa) x.exponent with
    | .lt => some high
    | .gt => some low
    | .eq => if tie = .toEven ∧ low.digits % 2 = 0 then some low else some high

/-- **The selected decimal** of a non-zero value. -/
def Binary.shortest (x : Binary) (tie : Tie) : Scaled :=
  let top := x.magnitude
  let found := (List.range 17).findSome? fun n => x.nearestIn? tie (top - (n + 1 : Nat))
  (found.getD x.exact).strip 800

end Decimal

end WorkflowCanvas
