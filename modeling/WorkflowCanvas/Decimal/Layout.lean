import WorkflowCanvas.Decimal.Shortest
/-!
# How floats are written

Three written forms of a float. `numeral` is the form in data: the fewest
digits, positional from `10^-5` to below `10^16` with at least one digit
after the point, and with an exponent outside that range. `plain` is the form
in messages: the fewest digits, always positional, no point after an
integer. `tenths` is the form in markup: one digit after the point, the
exact value rounded with ties to even.
-/


namespace WorkflowCanvas

namespace Decimal

/-- The digits of a natural number. -/
def digitChars (n : Nat) : List Char := Nat.toDigits 10 n

/-- The text `digits · 10^exponent` in positional notation: the integral
part and the fraction. -/
def positional (d : Scaled) : List Char × List Char :=
  let ds := digitChars d.digits
  if d.exponent ≥ 0 then (ds ++ List.replicate d.exponent.toNat '0', [])
  else
    let places := (-d.exponent).toNat
    let padded := List.replicate (places + 1 - ds.length) '0' ++ ds
    (padded.take (padded.length - places), padded.drop (padded.length - places))

/-- The text with the sign in front. -/
def signed (negative : Bool) (cs : List Char) : String :=
  String.ofList (if negative then '-' :: cs else cs)

/-- The form with an exponent: one digit, the rest behind a point, and the
exponent with its sign. -/
def scientific (d : Scaled) : List Char :=
  let ds := digitChars d.digits
  let e := d.exponent + (ds.length : Int) - 1
  let mantissa := match ds with
    | c :: c' :: cs => c :: '.' :: c' :: cs
    | cs => cs
  mantissa ++ ['e', if e < 0 then '-' else '+'] ++ digitChars e.natAbs

/-- The text of a finite float in data. -/
def numeral (x : Float) : String :=
  let b := Binary.ofFloat x
  if b.mantissa = 0 then signed (isNegative x) ['0', '.', '0']
  else
    let d := b.shortest .toEven
    let e := d.exponent + ((digitChars d.digits).length : Int) - 1
    signed (isNegative x) <|
      if -5 ≤ e ∧ e ≤ 15 then
        let (whole, fraction) := positional d
        whole ++ '.' :: (if fraction.isEmpty then ['0'] else fraction)
      else scientific d

/-- The text of a float that is no number, and of an infinity. -/
def special? (x : Float) : Option String :=
  if x.isNaN then some "NaN"
  else if x.isInf then some (if isNegative x then "-inf" else "inf")
  else none

/-- The text of a float in a message. -/
def plain (x : Float) : String :=
  match special? x with
  | some text => text
  | none =>
    let b := Binary.ofFloat x
    if b.mantissa = 0 then signed (isNegative x) ['0']
    else
      let (whole, fraction) := positional (b.shortest .awayFromZero)
      signed (isNegative x) (if fraction.isEmpty then whole else whole ++ '.' :: fraction)

/-- The text of a float in markup. -/
def tenths (x : Float) : String :=
  match special? x with
  | some text => text
  | none =>
    let b := Binary.ofFloat x
    let n := roundDiv (b.mantissa * Nat.pow 2 b.exponent.toNat * 10)
      (Nat.pow 2 (-b.exponent).toNat) .toEven
    let (whole, fraction) := positional ⟨n, -1⟩
    signed (isNegative x) (whole ++ '.' :: fraction)

example : numeral 0.1 = "0.1" := by decide +kernel
example : numeral 1e16 = "1e+16" ∧ numeral 0.00001 = "0.00001" := by decide +kernel
example : plain 50000 = "50000" ∧ plain 1e-7 = "0.0000001" := by decide +kernel
example : tenths 0.25 = "0.2" ∧ tenths 0.35 = "0.3" := by decide +kernel

end Decimal

end WorkflowCanvas
