import RecordCoding.CommandLine.Answer

/-!
# The program

The outer layer: files are read, and the answer to the command line is written out.
-/

namespace RecordCoding.CommandLine

/-- What is found under a path on disk. -/
def lookOnDisk (path : String) : IO FileEntry := do
  try
    let content ← IO.FS.readFile path
    pure (.file content)
  catch
    | .noFileOrDirectory .. => pure .missing
    | .inappropriateType .. => pure .directory
    | _ => pure .unreadable

/-- The line for an event in the log. -/
def logLine (event : LogEvent) : String :=
  event.level.text.toUpper ++ " " ++ event.message ++ " type_name=" ++ event.typeName ++
    " code=" ++ event.code ++ " node=" ++ event.node

/-- Writes an answer out. -/
def writeAnswer (answer : Answer) : IO Unit := do
  let errors ← IO.getStderr
  for event in answer.log do
    errors.putStrLn (logLine event)
  let output ← IO.getStdout
  output.putStr answer.output
  output.flush
  if let some message := answer.failure then
    errors.putStrLn ("Error: " ++ message)

end RecordCoding.CommandLine

/-- The program. -/
def main (arguments : List String) : IO UInt32 := do
  let answer ← RecordCoding.CommandLine.answer RecordCoding.CommandLine.lookOnDisk arguments
  RecordCoding.CommandLine.writeAnswer answer
  pure (UInt32.ofNat answer.exitCode)
