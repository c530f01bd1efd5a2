import WorkflowCanvas.Decimal.Binary
import WorkflowCanvas.Text.LetterCase
/-!
# Reading floats from text

The text of a float is an optional sign, then an infinity, no number, or
decimal digits with an optional point among or around them and an optional
exponent. Letters may be of either case, and nothing may stand around it.
The value is the float nearest to the decimal; too large a decimal is an
infinity and too small a one a zero.
-/


namespace WorkflowCanvas

namespace Decimal

/-- The value of decimal digits, given the value of those before. -/
def digitsValue (before : Nat) (cs : List Char) : Nat :=
  cs.foldl (fun n c => n * 10 + (c.toNat - 48)) before

/-- The float nearest to `digits · 10^exponent`. Where the power alone
decides, it is not computed. -/
def nearest (digits : Nat) (exponent : Int) : Float :=
  let length : Int := (Nat.toDigits 10 digits).length
  if digits = 0 then 0
  else if exponent + length > 400 then 1 / 0
  else if exponent + length < -400 then 0
  else Float.ofScientific digits (exponent < 0) exponent.natAbs

/-- The exponent at the end of a number: nothing, or a letter `e` with a
signed number. -/
def exponent? : List Char → Option Int
  | [] => some 0
  | c :: cs =>
    if c = 'e' ∨ c = 'E' then
      let (negative, digits) := match cs with
        | '+' :: rest => (false, rest)
        | '-' :: rest => (true, rest)
        | rest => (false, rest)
      if digits.isEmpty || !digits.all Char.isDigit then none
      else
        let n : Int := digitsValue 0 digits
        some (if negative then -n else n)
    else none

/-- A number without a sign. -/
def magnitude? (cs : List Char) : Option Float :=
  match String.ofList (cs.map Text.lowerAscii) with
  | "inf" | "infinity" => some (1 / 0)
  | "nan" => some (0 / 0)
  | _ =>
    let whole := cs.takeWhile Char.isDigit
    let rest := cs.dropWhile Char.isDigit
    let (fraction, rest) := match rest with
      | '.' :: rest => (rest.takeWhile Char.isDigit, rest.dropWhile Char.isDigit)
      | rest => ([], rest)
    if whole.isEmpty && fraction.isEmpty then none
    else (exponent? rest).map fun e =>
      nearest (digitsValue (digitsValue 0 whole) fraction) (e - fraction.length)

/-- **The float of a text.** -/
def parse? (s : String) : Option Float :=
  match s.toList with
  | '-' :: cs => (magnitude? cs).map fun x => -x
  | '+' :: cs => magnitude? cs
  | cs => magnitude? cs

end Decimal

end WorkflowCanvas
