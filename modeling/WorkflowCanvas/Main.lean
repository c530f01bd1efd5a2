import Std.Time.DateTime.Timestamp
import WorkflowCanvas.CommandLine.Execute
/-!
# The program

Runs the command line on the files, the output and the clock of the
machine. A failure is told on the error output.
-/


open WorkflowCanvas.CommandLine (Host)

instance : Host IO where
  readText path := do
    try return some (← IO.FS.readFile path) catch _ => return none
  writeText path text := do
    try IO.FS.writeFile path text; return true catch _ => return false
  makeFolders path := do
    try IO.FS.createDirAll path; return true catch _ => return false
  print text := do
    (← IO.getStdout).putStr text
    (← IO.getStdout).flush
  report line := do (← IO.getStderr).putStrLn line
  now := do return (← Std.Time.Timestamp.now).toMillisecondsSinceUnixEpoch.toInt.toNat
  draw := do IO.rand 0 0xffffffffffffffffffffffffffff

/-- Runs the program and exits with its code. -/
def main (arguments : List String) : IO UInt32 := do
  return (← WorkflowCanvas.CommandLine.run arguments).toUInt32
