import DalvikPrepass.CommandLine.Run

/-!
# The program

Reads the arguments, the file and the setting for the log, runs the command and
prints its outcome.
-/

namespace DalvikPrepass

def readContents (path : String) : IO Invocation.Contents := do
  try
    return .ok (← IO.FS.readBinFile path)
  catch error =>
    return .error (toString error)

def runInvocation (invocation : Invocation) (log : Option String) : IO Outcome := do
  let contents ← match invocation.command.path? with
    | some path => readContents path
    | none => pure (.ok .empty)
  return invocation.run log contents

end DalvikPrepass

open DalvikPrepass

/-- Runs the command that the arguments ask for and prints its outcome. -/
def main (arguments : List String) : IO UInt32 := do
  let log ← IO.getEnv "DALVIK_PREPASS_LOG"
  let outcome ← match Invocation.ofArguments arguments with
    | some invocation => runInvocation invocation log
    | none => pure (.ofSetting log fun _ => .usage)
  IO.print outcome.output
  IO.eprint outcome.errors
  return outcome.exitCode.toUInt32
