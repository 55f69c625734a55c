import DepthRelay.Command.Output

namespace DepthRelay.Command

/-!
# The command line

Finds the settings file, runs the command and prints its output, at the pace at which a capture
looks at its counts.
-/

/-- The words of the system for a failure, with its number. -/
def systemWords : IO.Error → String
  | .alreadyExists _ code words | .otherError code words | .resourceBusy code words
  | .resourceVanished code words | .unsupportedOperation code words | .hardwareFault code words
  | .unsatisfiedConstraints code words | .illegalOperation code words | .protocolError code words
  | .timeExpired code words | .interrupted _ code words | .noFileOrDirectory _ code words
  | .invalidArgument _ code words | .permissionDenied _ code words
  | .resourceExhausted _ code words | .inappropriateType _ code words
  | .noSuchThing _ code words => s!"{words} (os error {code})"
  | .unexpectedEof => "unexpected end of file"
  | .userError words => words

/-- What a path leads to in the file system.  A path below a file cannot be opened; a directory can,
    but it cannot be read. -/
def locate (path : String) : IO Location := do
  try
    return .file (← (← IO.FS.Handle.mk path .read).readBinToEnd)
  catch e =>
    match e with
    | .noFileOrDirectory _ _ _ => return .absent
    | .inappropriateType (some _) _ _ => return .belowFile
    | .inappropriateType none _ _ => return .directory
    | .invalidArgument _ 36 _ => return .nameTooLong
    | e => return .refused (systemWords e)

/-- The user's directory for configurations. -/
def configurationDirectory : IO (Option String) := do
  match ← IO.getEnv "XDG_CONFIG_HOME" with
  | some d => if d.startsWith "/" then return some d
  | none => pure ()
  return (← IO.getEnv "HOME").map fun home => home ++ "/.config"

/-- Prints the output of a command. -/
def Output.print (o : Output) : IO Unit := do
  let out ← IO.getStdout
  out.putStr o.opening
  for p in o.progress do
    out.putStr p
    out.flush
    IO.sleep (UInt32.ofNat (lookInterval / 1000000))
  out.putStr o.ending
  (← IO.getStderr).putStr o.complaint

end DepthRelay.Command

open DepthRelay DepthRelay.Command in
/-- Runs the command that the arguments ask for. -/
def main (args : List String) : IO UInt32 := do
  match Invocation.parse args with
  | none =>
    IO.eprintln "Usage: depth-bridge [--config FILE] modes | config | capture [OPTIONS]"
    return 2
  | some i =>
    let directory ← configurationDirectory
    let settings ← match i.settingsFile? directory with
      | some path => locate path
      | none => pure .absent
    let output := i.run directory settings 0
    output.print
    return output.code.toUInt32
