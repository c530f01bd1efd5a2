import WorkflowCanvas.CommandLine.Arguments
import WorkflowCanvas.CommandLine.Host
import WorkflowCanvas.Conversion
import WorkflowCanvas.Lending.Operations
import WorkflowCanvas.Settings.Overlay
/-!
# Carrying out requests

The settings are read first, then the sketch; what a conversion leaves
behind is written before its outcome, and an outcome is printed only where
no file was named for it. The records of a conversion are a courtesy: what
cannot be recorded is passed over.
-/


namespace WorkflowCanvas

namespace CommandLine

open Operation (Library Locator Descriptor Kind)

/-- The library of the operations at hand. -/
def library : Except Failure Library :=
  match Library.install {} (.inventory Lending.declarations none) with
  | (l, .ok _) => .ok l
  | (_, .error failure) => .error failure

/-- The line of an operation in a list. -/
def operationLine (d : Descriptor) : String :=
  padRight 24 d.id ++ " " ++ padRight 10 d.kind.label ++ " " ++ padRight 14 d.category ++ " "
    ++ d.description ++ "\n"

/-- The list of the operations of a category and a kind, sorted by id. -/
def operationList (l : Library) (category? : Option String) (kind? : Option Kind) : String :=
  let wanted := match category? with
    | some category => l.registry.inCategory category
    | none => l.registry.entries
  let wanted := match kind? with
    | some kind => wanted.filter fun (d : Descriptor) => d.kind == kind
    | none => wanted
  String.join ((wanted.mergeSort fun a b => !decide (b.id < a.id)).map operationLine)

variable {m : Type → Type} [Monad m] [Host m]

/-- A program that may fail. -/
abbrev Attempt (m : Type → Type) := ExceptT Failure m

/-- Reads a file. -/
def readFile (path : String) : Attempt m String := do
  match ← (Host.readText path : m (Option String)) with
  | some text => return text
  | none => throw (.unreadableFile path)

/-- Writes a file. -/
def writeFile (path text : String) : Attempt m Unit := do
  if ← (Host.writeText path text : m Bool) then return () else throw (.unwritableFile path)

/-- Writes an outcome to a file, or prints it as a line. -/
def deliver (out? : Option String) (text : String) : Attempt m Unit :=
  match out? with
  | some path => writeFile path text
  | none => (Host.print (text ++ "\n") : m Unit)

/-- What a request forces on the identity. -/
def Frame.identity (f : Frame) : Settings.IdentityOverlay where
  id? := f.id?
  name? := f.name?
  namespaceUri? := f.namespaceUri?

/-- The settings that hold for a request. -/
def Frame.settings (f : Frame) : Attempt m Settings := do
  let s ← match f.config? with
    | some path => do ExceptT.mk (pure (Settings.parse (← readFile path)))
    | none => pure Settings.standard
  return { s with identity := f.identity.applyTo s.identity }

/-- Reads a sketch. -/
def readSketch (path : String) : Attempt m Sketch := do
  ExceptT.mk (pure (Sketch.ofText (← readFile path)))

/-- Records a conversion in a folder, as far as that works. -/
def record (folder? : Option String) (c : Conversion) : m Unit := do
  match folder? with
  | some folder =>
    if ← (Host.makeFolders folder : m Bool) then
      for (name, text) in c.artifacts do
        let _ ← (Host.writeText (Workspace.join folder name) text : m Bool)
    else return ()
  | none => return ()

/-- Converts a sketch and records the conversion. -/
def Frame.convert (f : Frame) (settings : Settings) (s : Sketch) : Attempt m Conversion := do
  let c ← ExceptT.mk (pure (Conversion.ofSketch settings s))
  (record f.records? c : m Unit)
  return c

/-- Executes a sketch on an engine of its own. -/
def Frame.execute (f : Frame) (settings : Settings) (s : Sketch) (vars : Table Json) :
    Attempt m Execution := do
  let library ← ExceptT.mk (pure library)
  let _ ← f.convert settings s
  let engine : Engine :=
    { library, stepLimit := Engine.defaultStepLimit, now := ← (Host.now : m Nat)
      drawn := ← (Host.draw : m Nat) }
  ExceptT.mk (pure (engine.execute settings s vars).1)

/-- Carries out a task. -/
def Task.perform (t : Task) (f : Frame) (settings : Settings) : Attempt m Unit :=
  match t with
  | .compile sketch out? => do
    let s ← readSketch sketch
    deliver out? (Canvas.ofSketch settings s).toDocument.pretty
  | .convert sketch out? canvas? => do
    let c ← f.convert settings (← readSketch sketch)
    match canvas? with
    | some path => writeFile path c.canvasText
    | none => pure ()
    deliver out? c.markup
  | .operations category? kind? => do
    let library ← ExceptT.mk (pure library)
    (Host.print (operationList library category? kind?) : m Unit)
  | .run sketch vars => do
    let x ← f.execute settings (← readSketch sketch) vars
    deliver none x.toDocument.pretty

/-- **Carries out a request.** -/
def Request.perform (r : Request) : Attempt m Unit := do
  r.task.perform r.frame (← r.frame.settings)

/-- What is reported of arguments that make no request. -/
def misuse : String := "The arguments make no request; --help tells which do."

/-- **Runs the program on its arguments.** The answer is the exit code: 1
where the request fails and 2 where there is none. -/
def run (arguments : List String) : m Nat := do
  match Request.ofArguments arguments with
  | .error (.page text) => Host.print text; return 0
  | .error .misuse => Host.report misuse; return 2
  | .ok r =>
    match ← r.perform.run with
    | .ok () => return 0
    | .error failure => Host.report failure.message; return 1

end CommandLine

end WorkflowCanvas
