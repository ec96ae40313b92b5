import JsonPath.Cli.Program

/-!
# The command-line program

The executable runs `JsonPath.Cli.runProgram` on its arguments over the real file system
and standard input, prints what the run wrote to standard output and standard error, and
exits with its status. An error the program does not handle is printed to standard error
and exits with status 1.
-/

set_option autoImplicit false

namespace JsonPath.Main

open JsonPath.Cli

/-- What reading a file finds, by the error reading it raises. -/
def inspectFile (path : String) : IO FileState := do
  try
    let data ← IO.FS.readBinFile path
    pure (.bytes data)
  catch e =>
    match e with
    | .noFileOrDirectory .. => pure .missing
    | .inappropriateType .. => pure .directory
    | _ => pure .denied

/-- The host of a run: the working directory, the file system and standard input. -/
def host : IO (Host IO) := do
  let cwd ← IO.currentDir
  let terminal ← (← IO.getStdout).isTty
  pure { cwd := cwd.toString, inspect := inspectFile,
         input := do (← IO.getStdin).readToEnd, stdoutIsTerminal := terminal }

end JsonPath.Main

/-- Runs the program on the command line and exits with its status. -/
def main (args : List String) : IO UInt32 := do
  let outcome ← JsonPath.Cli.runProgram (← JsonPath.Main.host) args
  let out ← IO.getStdout
  let err ← IO.getStderr
  out.putStr outcome.stdout
  out.flush
  err.putStr outcome.stderr
  match outcome.ending with
  | .exit code => pure (UInt32.ofNat code)
  | .uncaught kind message =>
    err.putStrLn (kind ++ ": " ++ message)
    pure 1
