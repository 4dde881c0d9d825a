import PagedMemory.Program

/-!
# The program on a real system

Reads the named file, asks the environment for the text of the log filter, and hands both to
`Program.execute`.
-/

namespace PagedMemory.Main

/-- How a failure of the file system reads. -/
def readFailure : IO.Error → ReadFailure
  | .noFileOrDirectory .. => .missing
  | .inappropriateType _ 21 _ => .isADirectory
  | .inappropriateType .. => .notADirectory
  | .invalidArgument _ 36 _ => .nameTooLong
  | error => .other error.toString

/-- The text of a file. -/
def contentsOf (name : String) : IO (Except ReadFailure String) := do
  try
    return decodeText (← IO.FS.readBinFile name)
  catch error =>
    return .error (readFailure error)

/-- Runs the program and leaves what it leaves. -/
def run (arguments : List String) : IO UInt32 := do
  let contents ← match CommandLine.read arguments with
    | .ok invocation => contentsOf invocation.input
    | .error _ => pure (.error .missing)
  let execution := Program.execute arguments (← IO.getEnv "RUST_LOG") fun _ ↦ contents
  (← IO.getStdout).putStr execution.output
  for line in execution.log do
    (← IO.getStderr).putStrLn line
  return UInt32.ofNat execution.exitCode

end PagedMemory.Main

def main (arguments : List String) : IO UInt32 := PagedMemory.Main.run arguments
