import DepthRelay.Command.Capture
import DepthRelay.Text.Numeral

namespace DepthRelay.Command

/-!
# Command-line arguments

`[--config FILE] modes | config | capture [options]`, where `--config` may also follow the command.

* `Key` — the options.  Each has a long name and a letter; letters can be joined, and the value of
  the last one may follow it directly.
* `Reading` — what one argument says; `scan` reads options up to the first word.
* `Invocation.parse` — what the arguments ask for; arguments that do not fit the grammar ask for
  nothing.
-/

/-- The options. -/
inductive Key
  | config
  | rate
  | seconds
  | frames
  | timing
  | queued
  deriving DecidableEq, Repr

namespace Key

/-- The long name, without dashes. -/
def long : Key → String
  | config => "config"
  | rate => "rate"
  | seconds => "seconds"
  | frames => "frames"
  | timing => "timing"
  | queued => "queued"

/-- The letter. -/
def letter : Key → Char
  | config => 'c'
  | rate => 'r'
  | seconds => 's'
  | frames => 'f'
  | timing => 't'
  | queued => 'q'

/-- Whether the option has a value. -/
def hasValue : Key → Bool
  | timing | queued => false
  | _ => true

/-- Options that every command has. -/
def general : List Key := [config]

/-- Options of a capture. -/
def ofCapture : List Key := [config, rate, seconds, frames, timing, queued]

end Key

/-- Options with their values; those without a value have the empty text. -/
abbrev Given := List (Key × String)

/-- What one argument says. -/
inductive Reading
  /-- It is no option. -/
  | word
  | options (given : Given)
  /-- Options, and the value of one more is the next argument. -/
  | pending (given : Given) (key : Key)
  /-- It looks like an option but is none that is known here. -/
  | unknown

namespace Reading

/-- Adds an option in front. -/
def add (k : Key) : Reading → Reading
  | options given => options ((k, "") :: given)
  | pending given key => pending ((k, "") :: given) key
  | r => r

/-- Joined letters. -/
def ofLetters (keys : List Key) : List Char → Reading
  | [] => options []
  | c :: rest =>
    match keys.find? (·.letter == c) with
    | none => unknown
    | some k =>
      if k.hasValue then
        match rest with
        | [] => pending [] k
        | '=' :: value => options [(k, String.ofList value)]
        | value => options [(k, String.ofList value)]
      else (ofLetters keys rest).add k

/-- A long name, perhaps with a value behind an equals sign. -/
def ofLong (keys : List Key) (cs : List Char) : Reading :=
  let name := cs.takeWhile (· ≠ '=')
  match keys.find? (·.long.toList == name), cs.dropWhile (· ≠ '=') with
  | none, _ => unknown
  | some k, [] => if k.hasValue then pending [] k else options [(k, "")]
  | some k, _ :: value => if k.hasValue then options [(k, String.ofList value)] else unknown

/-- What an argument says where some options are known.  A dash alone is a word, and so are two. -/
def ofArgument (keys : List Key) (a : String) : Reading :=
  match a.toList with
  | ['-'] | ['-', '-'] => word
  | '-' :: '-' :: cs => ofLong keys cs
  | '-' :: cs => ofLetters keys cs
  | _ => word

end Reading

/-- Whether an argument can be a value of its own: it must not look like an option. -/
def isValue (a : String) : Bool :=
  match a.toList with
  | ['-'] => true
  | '-' :: _ => false
  | _ => true

/-- The options at the front of the arguments, and the arguments from the first word on. -/
def scan (keys : List Key) : List String → Option (Given × List String)
  | [] => some ([], [])
  | a :: rest =>
    match Reading.ofArgument keys a with
    | .word => some ([], a :: rest)
    | .unknown => none
    | .options given => (scan keys rest).map fun (later, words) => (given ++ later, words)
    | .pending given k =>
      match rest with
      | [] => none
      | value :: rest =>
        if isValue value then
          (scan keys rest).map fun (later, words) => (given ++ (k, value) :: later, words)
        else none

/-- Whether no option is given twice. -/
def distinct (given : Given) : Bool := decide (given.map Prod.fst).Nodup

/-! ### Values -/

/-- A key of a frame rate: a numeral that fits 32 bits; zero may have a minus sign. -/
def rateValue? (s : String) : Option UInt32 :=
  match s.toList with
  | '-' :: ds => (Text.digits? ds).bind fun n => if n = 0 then some 0 else none
  | cs => (Text.unsigned? UInt32.size cs).map UInt32.ofNat

/-- A number of seconds or frames: a numeral that fits 64 bits. -/
def countValue? (s : String) : Option UInt64 :=
  (Text.unsigned? UInt64.size s.toList).map UInt64.ofNat

/-- A path: any text but the empty one. -/
def pathValue? (s : String) : Option String := if s.isEmpty then none else some s

/-- The value of an option if it is given: nothing, a value, or failure if the value does not
    fit. -/
def valueOf? {α : Type} (read? : String → Option α) (k : Key) (given : Given) :
    Option (Option α) :=
  match given.lookup k with
  | none => some none
  | some s => (read? s).map some

/-! ### Invocations -/

/-- What to do. -/
inductive Task
  /-- List the frame rates. -/
  | modes
  /-- Print the settings in effect. -/
  | config
  | capture (options : CaptureOptions)
  deriving DecidableEq, Repr

/-- What the arguments ask for. -/
structure Invocation where
  /-- The settings file, if one is named. -/
  file : Option String
  task : Task
  deriving DecidableEq, Repr

namespace CaptureOptions

/-- The options of a capture. -/
def ofGiven? (given : Given) : Option CaptureOptions := do
  let rate ← valueOf? rateValue? .rate given
  let seconds ← valueOf? countValue? .seconds given
  let frames ← valueOf? countValue? .frames given
  let standard : CaptureOptions := {}
  return {
    rate, frames
    seconds := seconds.getD standard.seconds
    timing := (given.lookup .timing).isSome
    queued := (given.lookup .queued).isSome }

end CaptureOptions

namespace Task

/-- The options that may follow the name of a task, and the task that they make of it. -/
def named? (name : String) : Option (List Key × (Given → Option Task)) :=
  match name with
  | "modes" => some (Key.general, fun _ => some modes)
  | "config" => some (Key.general, fun _ => some config)
  | "capture" => some (Key.ofCapture, fun given => (CaptureOptions.ofGiven? given).map capture)
  | _ => none

end Task

namespace Invocation

/-- Reads the arguments.  A settings file that is named after the task wins over one named before;
    two dashes may end the arguments. -/
def parse (args : List String) : Option Invocation := do
  let (before, words) ← scan Key.general args
  let (name, rest) ← words.head?.map fun name => (name, words.drop 1)
  let (keys, make) ← Task.named? name
  let (after, extra) ← scan keys rest
  guard (distinct before && distinct after && (extra == [] || extra == ["--"]))
  let outer ← valueOf? pathValue? .config before
  let inner ← valueOf? pathValue? .config after
  let task ← make after
  return { file := inner <|> outer, task }

end Invocation

end DepthRelay.Command
