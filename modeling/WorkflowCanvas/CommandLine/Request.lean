import WorkflowCanvas.Json.Reader
import WorkflowCanvas.Operation.Basic
import WorkflowCanvas.Text.Split
/-!
# What can be asked on the command line

The commands with their parameters, and the request that a command with
the values of its parameters stands for. A parameter says which texts it
accepts; what it makes of an accepted text is a function beside it, and
the two agree.
-/


namespace WorkflowCanvas

namespace CommandLine

open Operation (Kind)

/-! ## Values -/

/-- A path is any text but the empty one. -/
def isPath (s : String) : Bool := s ≠ ""

/-- A variable given as a name, `=` and a value: the name is trimmed and
not empty, and a value that is no JSON is a string. -/
def assignment? (s : String) : Option (String × Json) :=
  match Text.splitOnce? ['='] s.toList with
  | some (name, value) =>
    let name := String.ofList (Text.trimChars name)
    let value := String.ofList value
    if name = "" then none else some (name, (Json.parse? value).getD (.str value))
  | none => none

/-! ## Parameters -/

/-- A parameter of a command. -/
structure Parameter where
  /-- The name of an option without the dashes. -/
  name : String
  /-- The letter of an option. -/
  letter? : Option Char := none
  /-- What stands for the value in a manual. -/
  placeholder : String
  help : String := ""
  /-- The parameter may be given several times. -/
  repeatable : Bool := false
  /-- The texts that are values. -/
  accepts : String → Bool := fun _ => true

/-- The file of settings. -/
def configParameter : Parameter where
  name := "config"
  letter? := some 'c'
  placeholder := "CONFIG"
  help := "JSON file overlaid on the default compiler config"
  accepts := isPath

/-- The id of the workflow. -/
def idParameter : Parameter where
  name := "process-id"
  placeholder := "PROCESS_ID"
  help := "Process id forced onto the output"

/-- The name of the workflow. -/
def nameParameter : Parameter where
  name := "process-name"
  placeholder := "PROCESS_NAME"
  help := "Process name forced onto the output"

/-- The namespace of the workflow. -/
def namespaceParameter : Parameter where
  name := "namespace"
  placeholder := "NAMESPACE"
  help := "Target namespace of the output"

/-- The folder that conversions are recorded in. -/
def recordsParameter : Parameter where
  name := "debug-dir"
  placeholder := "DEBUG_DIR"
  help := "Write the editor model and markup of every conversion here"
  accepts := isPath

/-- The sketch that a command works on. -/
def sketchParameter : Parameter where
  name := "graph"
  placeholder := "GRAPH"
  accepts := isPath

/-- The file for the outcome. -/
def outParameter : Parameter where
  name := "out"
  letter? := some 'o'
  placeholder := "OUT"
  accepts := isPath

/-- The file for the canvas of a conversion. -/
def canvasParameter : Parameter where
  name := "editor-out"
  placeholder := "EDITOR_OUT"
  help := "Also write the intermediate editor model"
  accepts := isPath

/-- The category of the operations listed. -/
def categoryParameter : Parameter where
  name := "category"
  placeholder := "CATEGORY"

/-- The kind of the operations listed. -/
def kindParameter : Parameter where
  name := "kind"
  placeholder := "KIND"
  help := "service, script or user-task"
  accepts := fun s => (Kind.ofText? s).isSome

/-- A variable of the instance started. -/
def variableParameter : Parameter where
  name := "var"
  placeholder := "VARS"
  help := "Start variable as key=value; values parse as JSON when they can"
  repeatable := true
  accepts := fun s => (assignment? s).isSome

/-- The options of every command, in the order of the manual. -/
def commonOptions : List Parameter :=
  [configParameter, idParameter, nameParameter, namespaceParameter, recordsParameter]

/-! ## Commands -/

/-- A command with its parameters: those without a name in front, and its
own options with the common ones in the order of the manual. -/
structure Command where
  name : String
  about : String
  operands : List Parameter := []
  options : List Parameter

/-- Compiles a sketch into a canvas. -/
def compileCommand : Command where
  name := "compile"
  about := "Compile a UI graph into the editor model"
  operands := [sketchParameter]
  options :=
    [configParameter, outParameter, idParameter, nameParameter, namespaceParameter,
     recordsParameter]

/-- Converts a sketch into markup. -/
def convertCommand : Command where
  name := "convert"
  about := "Convert a UI graph into process markup"
  operands := [sketchParameter]
  options :=
    [configParameter, outParameter, canvasParameter, idParameter, nameParameter,
     namespaceParameter, recordsParameter]

/-- Lists operations. -/
def operationsCommand : Command where
  name := "operations"
  about := "List the available operations"
  options :=
    [configParameter, categoryParameter, kindParameter, idParameter, nameParameter,
     namespaceParameter, recordsParameter]

/-- Runs a sketch. -/
def runCommand : Command where
  name := "run"
  about := "Convert, deploy and start a graph on the in-memory engine"
  operands := [sketchParameter]
  options :=
    [configParameter, variableParameter, idParameter, nameParameter, namespaceParameter,
     recordsParameter]

/-- All commands in the order of the manual. -/
def commands : List Command := [compileCommand, convertCommand, operationsCommand, runCommand]

/-- The command with a name. -/
def command? (name : String) : Option Command := commands.find? fun c => c.name == name

/-! ## Requests -/

/-- What holds for every command. -/
structure Frame where
  config? : Option String := none
  id? : Option String := none
  name? : Option String := none
  namespaceUri? : Option String := none
  records? : Option String := none
deriving BEq, DecidableEq

/-- What is to be done. -/
inductive Task where
  | compile (sketch : String) (out? : Option String)
  | convert (sketch : String) (out? canvas? : Option String)
  | operations (category? : Option String) (kind? : Option Kind)
  | run (sketch : String) (vars : Table Json)

/-- A task and what holds for it. -/
structure Request where
  frame : Frame
  task : Task

/-- Values of parameters in the order in which they were given. -/
abbrev Values := List (Parameter × String)

namespace Values

/-- The last value of a parameter. -/
def last? (v : Values) (p : Parameter) : Option String :=
  ((v.filter fun e => e.1.name == p.name).getLast?).map (·.2)

/-- All values of a parameter. -/
def all (v : Values) (p : Parameter) : List String :=
  (v.filter fun e => e.1.name == p.name).map (·.2)

/-- What the values say for every command. -/
def frame (v : Values) : Frame where
  config? := v.last? configParameter
  id? := v.last? idParameter
  name? := v.last? nameParameter
  namespaceUri? := v.last? namespaceParameter
  records? := v.last? recordsParameter

/-- The task of a command with the values, if none is missing. -/
def task? (v : Values) (c : Command) : Option Task :=
  match c.name with
  | "compile" => (v.last? sketchParameter).map fun s => .compile s (v.last? outParameter)
  | "convert" => (v.last? sketchParameter).map fun s =>
      .convert s (v.last? outParameter) (v.last? canvasParameter)
  | "operations" => some <|
      .operations (v.last? categoryParameter) ((v.last? kindParameter).bind Kind.ofText?)
  | "run" => (v.last? sketchParameter).map fun s =>
      .run s (Table.ofList ((v.all variableParameter).filterMap assignment?))
  | _ => none

end Values

end CommandLine

end WorkflowCanvas
