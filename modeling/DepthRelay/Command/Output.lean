import DepthRelay.Command.Arguments
import DepthRelay.Settings.Storage

namespace DepthRelay.Command

/-!
# What the commands print

* `Output` — the texts that a command prints and the code that it ends with.
* `Invocation.settingsFile?` — the file that the settings are read from.
* `Invocation.run` — the output of a command, given what that file leads to.
-/

/-- What a command prints. -/
structure Output where
  opening : String := ""
  /-- Printed one after the other while the command works. -/
  progress : List String := []
  ending : String := ""
  /-- Printed to the error channel. -/
  complaint : String := ""
  /-- The code that the command ends with. -/
  code : UInt8 := 0
  deriving DecidableEq, Repr, Inhabited

namespace Output

/-- Everything that goes to the normal channel. -/
def text (o : Output) : String := o.opening ++ String.join o.progress ++ o.ending

/-- The end of a command that has failed. -/
def ofError (e : RelayError) : Output := { complaint := s!"Error: {e.report}\n", code := 1 }

end Output

/-- A text with blanks before it, so that it is at least `width` wide. -/
def alignRight (width : Nat) (s : String) : String := "".pushn ' ' (width - s.length) ++ s

/-- A text with blanks behind it, so that it is at least `width` wide. -/
def alignLeft (width : Nat) (s : String) : String := s.pushn ' ' (width - s.length)

/-- The line about a frame rate in the list of all. -/
def modeLine (r : FrameRate) : String :=
  s!"  {alignRight 2 (toString r.key)}  {alignLeft 20 r.useCase} {r.description}\n"

/-- The list of frame rates. -/
def modeList : String :=
  "Supported frame rates:\n\n" ++ String.join (FrameRate.all.map modeLine)

/-- The settings file in a directory for configurations. -/
def standardFile (directory : String) : String := directory ++ "/depth-bridge/config.json"

namespace Invocation

/-- The settings file: the one that is named, else the one in the user's directory for
    configurations, if the user has any. -/
def settingsFile? (directory : Option String) (i : Invocation) : Option String :=
  i.file <|> directory.map standardFile

/-- The output of printing the settings; a file that was not named is named first. -/
def printSettings (directory : Option String) (i : Invocation) (s : Settings) : Output where
  opening :=
    (match i.file, directory with
      | none, some d => s!"# {standardFile d}\n"
      | _, _ => "") ++ s.print ++ "\n"

/-- The output of a capture. -/
def printCapture (r : CaptureReport) : Output where
  opening := r.opening
  progress := r.progress.map CaptureReport.look
  ending := r.summary

/-- The output of a command whose settings file leads to some location. -/
def run (directory : Option String) (settings : Location) (now : Nat) (i : Invocation) : Output :=
  match i.task with
  | .modes => { opening := modeList }
  | .config =>
    match Settings.load settings with
    | .error e => .ofError e
    | .ok s => i.printSettings directory s
  | .capture o =>
    match Settings.load settings with
    | .error e => .ofError e
    | .ok s =>
      match capture o s now with
      | .error e => .ofError e
      | .ok r => printCapture r

end Invocation

end DepthRelay.Command
