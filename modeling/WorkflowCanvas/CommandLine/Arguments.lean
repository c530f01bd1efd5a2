import WorkflowCanvas.CommandLine.Manual
/-!
# Reading arguments

Arguments are read from left to right on two levels: options of the
program up to the name of a command, then parameters of that command. An
option takes the next argument as its value, unless that one starts with
a dash, or the rest of its own argument; after `--` no argument is an
option any more. A value is examined only when the next parameter begins
or the level ends. So a page asked for after a bad value is not shown,
while one asked for on the level of the command is shown whatever the last
option before the command was given.
-/


namespace WorkflowCanvas

namespace CommandLine

/-- Why reading ends before the arguments do. -/
inductive Stop where
  /-- A page was asked for. -/
  | page (text : String)
  /-- The arguments make no sense. -/
  | misuse
deriving DecidableEq

/-- What can be given on a level. -/
structure Level where
  operands : List Parameter := []
  options : List Parameter
  /-- The page that explains the level. -/
  page : String
  /-- The version can be asked for. -/
  hasVersion : Bool := false
  /-- The names that end the level. -/
  names : List String := []

/-- What was read on a level so far. -/
structure Progress where
  values : Values := []
  /-- The parameter read last, with its value once it is there. -/
  pending? : Option (Parameter × Option String) := none
  /-- How many operands were read. -/
  operands : Nat := 0
  /-- Only operands are left. -/
  operandsOnly : Bool := false

namespace Progress

/-- A pending value is examined and taken in. -/
def settle (s : Progress) : Except Stop Progress :=
  match s.pending? with
  | none => .ok s
  | some (_, none) => .error .misuse
  | some (p, some v) =>
    if !p.repeatable && s.values.any (fun e => e.1.name == p.name) then .error .misuse
    else if p.accepts v then .ok { s with values := s.values ++ [(p, v)], pending? := none }
    else .error .misuse

/-- A parameter begins. Its value may come along, and then it is complete
at once. -/
def begin (s : Progress) (p : Parameter) (attached? : Option String) : Except Stop Progress := do
  let s ← s.settle
  match attached? with
  | some v => settle { s with pending? := some (p, some v) }
  | none => return { s with pending? := some (p, none) }

/-- An option waits for its value. -/
def isWaiting (s : Progress) : Bool :=
  match s.pending? with
  | some (_, none) => true
  | _ => false

/-- The next operand. -/
def operand (s : Progress) (l : Level) (v : String) : Except Stop Progress :=
  match l.operands[s.operands]? with
  | none => .error .misuse
  | some p => do
    let s ← s.settle
    return { s with pending? := some (p, some v), operands := s.operands + 1 }

/-- Something that ends reading is asked for. -/
def stop (s : Progress) (text : String) : Except Stop Progress := do
  let _ ← s.settle
  throw (.page text)

/-- An option by its name. -/
def long (s : Progress) (l : Level) (cs : List Char) : Except Stop Progress :=
  let name := String.ofList (cs.takeWhile (· != '='))
  let attached? := match cs.dropWhile (· != '=') with
    | _ :: rest => some (String.ofList rest)
    | [] => none
  match l.options.find? fun p => p.name == name with
  | some p => s.begin p attached?
  | none =>
    if attached?.isSome then .error .misuse
    else if name = "help" then s.stop l.page
    else if name = "version" && l.hasVersion then s.stop version
    else .error .misuse

/-- An option by its letter, its value behind it or in the next
argument. -/
def short (s : Progress) (l : Level) (c : Char) (rest : List Char) : Except Stop Progress :=
  match l.options.find? fun p => p.letter? == some c with
  | some p => s.begin p <| match rest with
    | [] => none
    | '=' :: v => some (String.ofList v)
    | v => some (String.ofList v)
  | none =>
    if c = 'h' then s.stop l.page
    else if c = 'V' && l.hasVersion then s.stop version
    else .error .misuse

/-- The next argument, which is no name that ends the level. -/
def argument (s : Progress) (l : Level) (a : String) : Except Stop Progress :=
  if s.operandsOnly then s.operand l a
  else match a.toList with
    | ['-', '-'] => .ok { s with operandsOnly := true }
    | '-' :: '-' :: cs => s.long l cs
    | '-' :: c :: cs => s.short l c cs
    | _ =>
      match s.pending? with
      | some (p, none) => .ok { s with pending? := some (p, some a) }
      | _ => s.operand l a

end Progress

/-- Reads the arguments of a level: up to a name that ends it, with the
arguments behind, or all of them. -/
def readLevel (l : Level) (s : Progress) :
    List String → Except Stop (Progress × Option (String × List String))
  | [] => .ok (s, none)
  | a :: rest =>
    if !s.operandsOnly && !s.isWaiting && l.names.contains a then .ok (s, some (a, rest))
    else match s.argument l a with
      | .error stop => .error stop
      | .ok s => readLevel l s rest

/-- The level of the program. -/
def programLevel : Level where
  options := commonOptions
  page := programPage
  hasVersion := true
  names := helpName :: commands.map (·.name)

/-- The level of a command. -/
def Command.level (c : Command) : Level where
  operands := c.operands
  options := c.options
  page := commandPage c

/-- The page of the manual that names lead to. -/
def manualPage : List String → Stop
  | [] => .page programPage
  | [name] =>
    if name = helpName then .page helpPage
    else match command? name with
      | some c => .page (commandPage c)
      | none => .misuse
  | _ => .misuse

/-- **The request that arguments make.** -/
def Request.ofArguments (arguments : List String) : Except Stop Request :=
  match readLevel programLevel {} arguments with
  | .error stop => .error stop
  | .ok (_, none) => .error .misuse
  | .ok (outer, some (name, rest)) =>
    if name = helpName then .error (manualPage rest)
    else match command? name with
      | none => .error .misuse
      | some c => do
        let (inner, _) ← readLevel c.level {} rest
        let inner ← inner.settle
        match inner.values.task? c with
        | none => throw .misuse
        | some task =>
          let outer ← outer.settle
          return { frame := Values.frame (outer.values ++ inner.values), task }

end CommandLine

end WorkflowCanvas
