import WorkflowCanvas.Decimal.Layout
import WorkflowCanvas.Json.Document
/-!
# The text of a document

The compact text has no blanks; the pretty text has one entry a line,
indented by two blanks a level. Strings escape the quote, the backslash
and the control characters, and nothing else. Both texts keep the fields
in the order in which the document holds them.
-/


namespace WorkflowCanvas

namespace Document

/-- A hexadecimal digit in lower case. -/
def hexDigit (n : Nat) : Char :=
  if n < 10 then Char.ofNat (48 + n) else Char.ofNat (87 + n)

/-- The letter of a short escape. -/
def escapeLetter? : Char → Option Char
  | '"' => some '"'
  | '\\' => some '\\'
  | '\n' => some 'n'
  | '\r' => some 'r'
  | '\t' => some 't'
  | '\x08' => some 'b'
  | '\x0c' => some 'f'
  | _ => none

/-- A character inside a string. -/
def escapeChar (c : Char) : List Char :=
  match escapeLetter? c with
  | some letter => ['\\', letter]
  | none =>
    if c.toNat < 0x20 then
      ['\\', 'u', '0', '0', hexDigit (c.toNat / 16), hexDigit (c.toNat % 16)]
    else [c]

/-- A string in quotes. -/
def quoted (s : String) : String :=
  String.ofList ('"' :: s.toList.flatMap escapeChar ++ ['"'])

mutual

/-- The text without blanks. -/
def compact : Document → String
  | .null => "null"
  | .bool b => if b then "true" else "false"
  | .int n => toString n
  | .float x => Decimal.numeral x
  | .str s => quoted s
  | .arr items => "[" ++ compactItems items ++ "]"
  | .obj fields => "\x7b" ++ compactFields fields ++ "\x7d"
  | .unreadable => "null"

/-- Items with commas between them. -/
def compactItems : List Document → String
  | [] => ""
  | [d] => compact d
  | d :: ds => compact d ++ "," ++ compactItems ds

/-- Fields with commas between them. -/
def compactFields : List (String × Document) → String
  | [] => ""
  | [(k, d)] => quoted k ++ ":" ++ compact d
  | (k, d) :: ds => quoted k ++ ":" ++ compact d ++ "," ++ compactFields ds

end

/-- The start of a line at a level. -/
def margin (level : Nat) : String := String.ofList ('\n' :: List.replicate (2 * level) ' ')

mutual

/-- The text over several lines, at a level. -/
def prettyAt (level : Nat) : Document → String
  | .arr [] => "[]"
  | .arr items => "[" ++ prettyItems (level + 1) items ++ margin level ++ "]"
  | .obj [] => "\x7b\x7d"
  | .obj fields => "\x7b" ++ prettyFields (level + 1) fields ++ margin level ++ "\x7d"
  | .null => "null"
  | .bool b => if b then "true" else "false"
  | .int n => toString n
  | .float x => Decimal.numeral x
  | .str s => quoted s
  | .unreadable => "null"

/-- Items, each on a line of its own. -/
def prettyItems (level : Nat) : List Document → String
  | [] => ""
  | [d] => margin level ++ prettyAt level d
  | d :: ds => margin level ++ prettyAt level d ++ "," ++ prettyItems level ds

/-- Fields, each on a line of its own. -/
def prettyFields (level : Nat) : List (String × Document) → String
  | [] => ""
  | [(k, d)] => margin level ++ quoted k ++ ": " ++ prettyAt level d
  | (k, d) :: ds =>
    margin level ++ quoted k ++ ": " ++ prettyAt level d ++ "," ++ prettyFields level ds

end

/-- The text over several lines. -/
def pretty (d : Document) : String := prettyAt 0 d

end Document

/-- The compact text of a value. -/
def Json.text (j : Json) : String := (Document.ofJson j).compact

/-- What a value says: a string itself, anything else its compact text. -/
def Json.valueText : Json → String
  | .str s => s
  | v => v.text

end WorkflowCanvas
