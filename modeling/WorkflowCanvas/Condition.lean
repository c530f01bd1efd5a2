import WorkflowCanvas.Json.Printer
import WorkflowCanvas.Text.Blank
import WorkflowCanvas.Text.LetterCase
import WorkflowCanvas.Text.Split
/-!
# Conditions

A condition on the variables of a workflow is a variable that must be true,
one that must not be, or one that must have a given text. It may stand
between `$` with braces or by itself. Blanks around the parts do not
count, and neither do quotes around the text.
-/


namespace WorkflowCanvas

namespace Condition

/-- A value counts as true: the truth value, a string that spells it in
ASCII letters of any case, a number other than zero, an array, an
object. -/
def truthy : Json → Bool
  | .null => false
  | .bool b => b
  | .str s => s.toList.map Text.lowerAscii == ['t', 'r', 'u', 'e']
  | .int n => n != 0
  | .float x => x != 0
  | .arr _ => true
  | .obj _ => true

/-- A variable is there and counts as true. -/
def truthyAt (vars : Table Json) (name : List Char) : Bool :=
  match vars.get? (String.ofList name) with
  | some v => truthy v
  | none => false

/-- The condition without the braces around it. -/
def body (cs : List Char) : List Char :=
  let cs := Text.trimChars cs
  let inner := (Text.dropStart? ['$', '{'] cs).bind (Text.dropEnd? ['}'])
  Text.trimChars (inner.getD cs)

/-- A quote of either kind. -/
def isQuote (c : Char) : Bool := c == '\'' || c == '"'

/-- A text without the quotes at both ends. -/
def unquote (cs : List Char) : List Char :=
  ((cs.dropWhile isQuote).reverse.dropWhile isQuote).reverse

/-- A condition without braces holds. -/
def bodyHolds (vars : Table Json) (cs : List Char) : Bool :=
  match Text.splitOnce? ['=', '='] cs with
  | some (name, literal) =>
    match vars.get? (String.ofList (Text.trimChars name)) with
    | some v => v.valueText == String.ofList (unquote (Text.trimChars literal))
    | none => false
  | none =>
    match cs with
    | '!' :: name => !truthyAt vars (Text.trimChars name)
    | name => truthyAt vars name

/-- **A condition holds of the variables.** -/
def holds (condition : String) (vars : Table Json) : Bool :=
  bodyHolds vars (body condition.toList)

end Condition

end WorkflowCanvas
