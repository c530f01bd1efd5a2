import WorkflowCanvas.Json.Number
/-!
# Reading JSON texts

The grammar is strict: no comments, no trailing commas, nothing but blanks
after the value. Containers may nest 127 deep; deeper ones are unreadable.
Each function takes the characters still to be read and returns what it
found with the characters behind it. The fuel of the mutual recursion is
twice the length of the text and two more. An item takes a character at
least and costs two steps at most, so it always exceeds the characters
still to be read and never runs out.
-/


namespace WorkflowCanvas

namespace Document

/-- The blanks between tokens. -/
def isTokenBlank (c : Char) : Bool := c == ' ' || c == '\n' || c == '\t' || c == '\r'

/-- The characters behind the blanks. -/
def skipBlanks (cs : List Char) : List Char := cs.dropWhile isTokenBlank

/-- The value of a hexadecimal digit. -/
def hexValue? (c : Char) : Option Nat :=
  if '0' ≤ c ∧ c ≤ '9' then some (c.toNat - 48)
  else if 'a' ≤ c ∧ c ≤ 'f' then some (c.toNat - 87)
  else if 'A' ≤ c ∧ c ≤ 'F' then some (c.toNat - 55)
  else none

/-- Four hexadecimal digits. -/
def hexUnit? : List Char → Option (Nat × List Char)
  | a :: b :: c :: d :: rest => do
    let a ← hexValue? a
    let b ← hexValue? b
    let c ← hexValue? c
    let d ← hexValue? d
    return (((a * 16 + b) * 16 + c) * 16 + d, rest)
  | _ => none

/-- The character of a short escape. -/
def unescape? : Char → Option Char
  | '"' => some '"'
  | '\\' => some '\\'
  | '/' => some '/'
  | 'b' => some '\x08'
  | 'f' => some '\x0c'
  | 'n' => some '\n'
  | 'r' => some '\r'
  | 't' => some '\t'
  | _ => none

/-- What stands next inside a string: a character, an unpaired surrogate,
or the closing quote. -/
inductive StringPart where
  | char (c : Char)
  | surrogate
  | close

/-- The next part of a string. Two escaped surrogates in a row are one
character. -/
def stringPart? : List Char → Option (StringPart × List Char)
  | '"' :: cs => some (.close, cs)
  | '\\' :: 'u' :: cs => do
    let (unit, rest) ← hexUnit? cs
    if 0xDC00 ≤ unit ∧ unit ≤ 0xDFFF then return (.surrogate, rest)
    if 0xD800 ≤ unit ∧ unit ≤ 0xDBFF then
      match rest with
      | '\\' :: 'u' :: cs' => do
        let (low, rest') ← hexUnit? cs'
        if 0xDC00 ≤ low ∧ low ≤ 0xDFFF then
          return (.char (Char.ofNat (0x10000 + (unit - 0xD800) * 0x400 + (low - 0xDC00))), rest')
        return (.surrogate, rest)
      | _ => return (.surrogate, rest)
    return (.char (Char.ofNat unit), rest)
  | '\\' :: c :: cs => (unescape? c).map fun c => (.char c, cs)
  | c :: cs => if c.toNat < 0x20 ∨ c = '\\' then none else some (.char c, cs)
  | [] => none

/-- The characters of a string up to its closing quote, last one first;
`none` inside for a string with an unpaired surrogate. -/
def stringFrom? : Nat → Option (List Char) → List Char → Option (Option String × List Char)
  | 0, _, _ => none
  | fuel + 1, passed, cs => do
    match ← stringPart? cs with
    | (.close, rest) => return (passed.map fun p => String.ofList p.reverse, rest)
    | (.surrogate, rest) => stringFrom? fuel none rest
    | (.char c, rest) => stringFrom? fuel (passed.map (c :: ·)) rest

/-- A string, behind its opening quote. -/
def string? (fuel : Nat) (cs : List Char) : Option (Option String × List Char) :=
  stringFrom? fuel (some []) cs

/-- Decimal digits and what follows them. -/
def digits (cs : List Char) : List Nat × List Char :=
  ((cs.takeWhile Char.isDigit).map fun c => c.toNat - 48, cs.dropWhile Char.isDigit)

/-- The integral digits of a numeral: a zero stands alone. -/
def wholeDigits? (cs : List Char) : Option (List Nat × List Char) :=
  match digits cs with
  | ([], _) => none
  | (0 :: _ :: _, _) => none
  | found => some found

/-- The fraction of a numeral, if there is one. -/
def fraction? : List Char → Option (Option (List Nat) × List Char)
  | '.' :: cs =>
    match digits cs with
    | ([], _) => none
    | (ds, rest) => some (some ds, rest)
  | cs => some (none, cs)

/-- The exponent of a numeral, if there is one. -/
def exponent? : List Char → Option (Option Int × List Char)
  | c :: cs =>
    if c = 'e' ∨ c = 'E' then
      let (negative, cs) := match cs with
        | '+' :: rest => (false, rest)
        | '-' :: rest => (true, rest)
        | rest => (false, rest)
      match digits cs with
      | ([], _) => none
      | (ds, rest) =>
        let n : Nat := ds.foldl (fun n d => n * 10 + d) 0
        some (some (if negative then -(n : Int) else n), rest)
    else some (none, c :: cs)
  | [] => some (none, [])

/-- A numeral. -/
def numeral? (cs : List Char) : Option (Document × List Char) := do
  let (negative, cs) := match cs with
    | '-' :: rest => (true, rest)
    | rest => (false, rest)
  let (whole, cs) ← wholeDigits? cs
  let (fraction, cs) ← fraction? cs
  let (exponent, cs) ← exponent? cs
  return (Numeral.read ⟨negative, whole, fraction, exponent⟩, cs)

/-- A container, unreadable when no depth is left for it. -/
def atDepth (depth : Nat) (d : Document) : Document := if depth = 0 then .unreadable else d

/-- An object of fields as read; one unreadable key makes all of it
unreadable. -/
def ofReadFields (fields : List (Option String × Document)) : Document :=
  match fields.mapM fun (k, d) => k.map fun k => (k, d) with
  | some fields => .obj fields
  | none => .unreadable

mutual

/-- A value with `depth` more levels of nesting allowed. -/
def value? : Nat → Nat → List Char → Option (Document × List Char)
  | 0, _, _ => none
  | fuel + 1, depth, cs =>
    match skipBlanks cs with
    | 'n' :: 'u' :: 'l' :: 'l' :: rest => some (.null, rest)
    | 't' :: 'r' :: 'u' :: 'e' :: rest => some (.bool true, rest)
    | 'f' :: 'a' :: 'l' :: 's' :: 'e' :: rest => some (.bool false, rest)
    | '"' :: rest => (string? fuel rest).map fun (s, rest) =>
      (match s with
        | some s => .str s
        | none => .unreadable, rest)
    | '[' :: rest =>
      match skipBlanks rest with
      | ']' :: rest => some (atDepth depth (.arr []), rest)
      | rest => (items? fuel (depth - 1) rest).map fun (ds, rest) =>
        (atDepth depth (.arr ds), rest)
    | '{' :: rest =>
      match skipBlanks rest with
      | '}' :: rest => some (atDepth depth (.obj []), rest)
      | rest => (fields? fuel (depth - 1) rest).map fun (ds, rest) =>
        (atDepth depth (ofReadFields ds), rest)
    | rest => numeral? rest

/-- The items of an array and its closing bracket. -/
def items? : Nat → Nat → List Char → Option (List Document × List Char)
  | 0, _, _ => none
  | fuel + 1, depth, cs => do
    let (d, rest) ← value? fuel depth cs
    match skipBlanks rest with
    | ',' :: rest => do
      let (ds, rest) ← items? fuel depth rest
      return (d :: ds, rest)
    | ']' :: rest => return ([d], rest)
    | _ => none

/-- The fields of an object and its closing brace. -/
def fields? : Nat → Nat → List Char → Option (List (Option String × Document) × List Char)
  | 0, _, _ => none
  | fuel + 1, depth, cs =>
    match skipBlanks cs with
    | '"' :: rest => do
      let (k, rest) ← string? fuel rest
      match skipBlanks rest with
      | ':' :: rest => do
        let (d, rest) ← value? fuel depth rest
        match skipBlanks rest with
        | ',' :: rest => do
          let (ds, rest) ← fields? fuel depth rest
          return ((k, d) :: ds, rest)
        | '}' :: rest => return ([(k, d)], rest)
        | _ => none
      | _ => none
    | _ => none

end

/-- How deep containers may nest. -/
def nestingLimit : Nat := 127

/-- **The document of a text**, if the text is JSON. -/
def parse? (s : String) : Option Document :=
  let cs := s.toList
  match value? (2 * cs.length + 2) nestingLimit cs with
  | some (d, rest) => if (skipBlanks rest).isEmpty then some d else none
  | none => none

end Document

/-- The value of a text, if the text is JSON and readable throughout. -/
def Json.parse? (s : String) : Option Json := (Document.parse? s).bind Document.toJson?

end WorkflowCanvas
