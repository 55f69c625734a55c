import DepthRelay.Settings.Printer
import DepthRelay.Settings.Reader

namespace DepthRelay

/-!
# Settings in files

* `Location` — what a path leads to, as far as reading and writing a file depend on it.
* `Settings.load` — the settings of a file; a file that does not exist means the defaults.
* `Settings.save` — writes a file, with the directories above it.
-/

/-- What a path leads to. -/
inductive Location
  /-- Nothing; directories above it may be missing as well. -/
  | absent
  /-- A directory. -/
  | directory
  /-- Nothing, since a file stands where a directory above it should be. -/
  | belowFile
  /-- Nothing, since the path or a name in it is longer than any can be. -/
  | nameTooLong
  /-- A file. -/
  | file (contents : ByteArray)
  /-- Something that the system refuses to read or write, with its words. -/
  | refused (text : String)

/-- Why a file cannot be read or written. -/
inductive StorageFault
  | isDirectory
  | notDirectory
  | fileExists
  | nameTooLong
  | notText
  /-- Any other failure, in the words of the system. -/
  | system (text : String)
  deriving DecidableEq, Repr

/-- The wording of a storage fault. -/
def StorageFault.message : StorageFault → String
  | isDirectory => "Is a directory (os error 21)"
  | notDirectory => "Not a directory (os error 20)"
  | fileExists => "File exists (os error 17)"
  | nameTooLong => "File name too long (os error 36)"
  | notText => "stream did not contain valid UTF-8"
  | system text => text

namespace Location

/-- The contents of a file; nothing if there is none. -/
def read : Location → Except StorageFault (Option ByteArray)
  | absent => .ok none
  | directory => .error .isDirectory
  | belowFile => .error .notDirectory
  | nameTooLong => .error .nameTooLong
  | file contents => .ok (some contents)
  | refused text => .error (.system text)

/-- The same path after a file has been written to it.  Missing directories above are made, which
    fails if one of them is a file. -/
def write (contents : ByteArray) : Location → Except StorageFault Location
  | absent => .ok (file contents)
  | directory => .error .isDirectory
  | belowFile => .error .fileExists
  | nameTooLong => .error .nameTooLong
  | file _ => .ok (file contents)
  | refused text => .error (.system text)

end Location

namespace Settings

/-- The settings that a text describes, if they are within the limits. -/
def parse (text : String) : Except RelayError Settings :=
  match read text.toList with
  | .error f => .error (.config ("JSON error: " ++ f.message text.toList))
  | .ok s => s.validate.map fun _ => s

/-- The settings that a file's contents describe. -/
def decode (contents : ByteArray) : Except RelayError Settings :=
  match String.fromUTF8? contents with
  | none => .error (.storage StorageFault.notText.message)
  | some text => parse text

/-- The settings of the file at a path. -/
def load (l : Location) : Except RelayError Settings :=
  match l.read with
  | .error f => .error (.storage f.message)
  | .ok none => .ok {}
  | .ok (some contents) => decode contents

/-- Writes settings to a path; they need not be within the limits. -/
def save (s : Settings) (l : Location) : Except RelayError Location :=
  match l.write s.print.toUTF8 with
  | .error f => .error (.storage f.message)
  | .ok l => .ok l

end Settings

end DepthRelay
