import WorkflowCanvas.Workspace
/-!
# Hosts

A host is what a program runs on: files, an output, an error output, a
clock and a source of numbers. The program is written for any host. A
`Desk` is a host in memory, so that what the program does to its files and
its output is a value.
-/


namespace WorkflowCanvas

namespace CommandLine

/-- What a program can ask of its host. -/
class Host (m : Type → Type) where
  /-- The text of a file, if it can be read. -/
  readText (path : String) : m (Option String)
  /-- Writes a file; tells whether that worked. -/
  writeText (path text : String) : m Bool
  /-- Makes a folder with those above it; tells whether that worked. -/
  makeFolders (path : String) : m Bool
  /-- Adds a text to the output. -/
  print (text : String) : m Unit
  /-- Adds a line to the error output. -/
  report (line : String) : m Unit
  /-- Milliseconds since the epoch. -/
  now : m Nat
  /-- A number that was not drawn before. -/
  draw : m Nat

/-- A host in memory. -/
structure Desk where
  workspace : Workspace := {}
  printed : String := ""
  /-- The lines of the error output, last one first. -/
  reported : List String := []
  clock : Nat := 0
  drawn : Nat := 0

namespace Desk

/-- Makes a change to the workspace that may fail. -/
def change (f : Workspace → Option Workspace) : StateM Desk Bool := do
  let d ← get
  match f d.workspace with
  | some w => set { d with workspace := w }; return true
  | none => return false

instance : Host (StateM Desk) where
  readText path := do return (← get).workspace.read? path
  writeText path text := change fun w => w.write? path text
  makeFolders path := change fun w => w.makeFolders? path
  print text := modify fun d => { d with printed := d.printed ++ text }
  report line := modify fun d => { d with reported := line :: d.reported }
  now := do return (← get).clock
  draw := modifyGet fun d => (d.drawn, { d with drawn := d.drawn + 1 })

end Desk

end CommandLine

end WorkflowCanvas
