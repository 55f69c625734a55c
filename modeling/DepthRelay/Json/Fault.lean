import DepthRelay.Decimal.Shortest
import DepthRelay.Text.Quoted

namespace DepthRelay.Json

/-!
# Faults in JSON documents

Why a document cannot be read, and where.

* `Reason` — the cause, with its wording in `Reason.text`.
* `Fault` — a cause together with the text that was left when it was met.
* `Fault.message` — the wording with a line and a column, both counted in bytes.
-/

/-- A value of another kind than the one asked for, as far as messages name it. -/
inductive Unexpected
  | null
  | boolean (b : Bool)
  | integer (i : Int)
  | floating (x : Float)
  | string (s : String)
  | sequence
  | map

/-- The wording of a value of the wrong kind. -/
def Unexpected.text : Unexpected → String
  | null => "null"
  | boolean b => s!"boolean `{b}`"
  | integer i => s!"integer `{i}`"
  | floating x => s!"floating point `{Decimal.text x}`"
  | string s => s!"string {Text.quoted s}"
  | sequence => "sequence"
  | map => "map"

/-- Causes of a fault. -/
inductive Reason
  | endInValue
  | endInObject
  | endInList
  | endInString
  | keyNotString
  | trailingComma
  | trailingCharacters
  | expectedColon
  | expectedObjectEnd
  | expectedListEnd
  | expectedValue
  | expectedIdent
  | invalidNumber
  | numberOutOfRange
  | controlCharacter
  | invalidEscape
  | loneSurrogate
  | endOfHexEscape
  /-- A known field occurs twice. -/
  | duplicateField (name : String)
  /-- A choice is none of the allowed ones. -/
  | unknownVariant (name : String) (allowed : List String)
  /-- A value is of the wrong kind. -/
  | wrongType (found : Unexpected) (expected : String)
  /-- An integer does not fit its field. -/
  | wrongValue (found : Int) (expected : String)

/-- The wording of a cause. -/
def Reason.text : Reason → String
  | endInValue => "EOF while parsing a value"
  | endInObject => "EOF while parsing an object"
  | endInList => "EOF while parsing a list"
  | endInString => "EOF while parsing a string"
  | keyNotString => "key must be a string"
  | trailingComma => "trailing comma"
  | trailingCharacters => "trailing characters"
  | expectedColon => "expected `:`"
  | expectedObjectEnd => "expected `,` or `\x7d`"
  | expectedListEnd => "expected `,` or `]`"
  | expectedValue => "expected value"
  | expectedIdent => "expected ident"
  | invalidNumber => "invalid number"
  | numberOutOfRange => "number out of range"
  | controlCharacter => "control character (\\u0000-\\u001F) found while parsing a string"
  | invalidEscape => "invalid escape"
  | loneSurrogate => "lone leading surrogate in hex escape"
  | endOfHexEscape => "unexpected end of hex escape"
  | duplicateField name => s!"duplicate field `{name}`"
  | unknownVariant name allowed =>
    s!"unknown variant `{name}`, expected " ++ " or ".intercalate (allowed.map fun a => s!"`{a}`")
  | wrongType found expected => s!"invalid type: {found.text}, expected {expected}"
  | wrongValue found expected => s!"invalid value: integer `{found}`, expected {expected}"

/-- A cause and the place where it was met: before `rest`, with the first `ahead` bytes of `rest`
    counted as well. -/
structure Fault where
  reason : Reason
  rest : List Char
  ahead : Nat := 0

/-- Bytes of a text. -/
def byteSize : List Char → Nat
  | [] => 0
  | c :: s => c.utf8Size + byteSize s

namespace Fault

/-- A fault right before `rest`. -/
def here (reason : Reason) (rest : List Char) : Fault := ⟨reason, rest, 0⟩

/-- A fault that counts the byte it was met at, if there is one. -/
def peek (reason : Reason) (rest : List Char) : Fault := ⟨reason, rest, 1⟩

/-- Bytes of `document` that a fault counts. -/
def offset (document : List Char) (f : Fault) : Nat :=
  min (byteSize document) (byteSize document - byteSize f.rest + f.ahead)

end Fault

/-- Line and column after the first `k` bytes: lines from 1, columns the bytes since the last line
    feed. -/
def position (document : List Char) (k : Nat) : Nat × Nat :=
  go document k 1 0
where
  /-- Walks over characters that lie wholly within the `k` bytes that are left. -/
  go : List Char → Nat → Nat → Nat → Nat × Nat
    | [], _, line, column => (line, column)
    | c :: s, k, line, column =>
      if k < c.utf8Size then (line, column + k)
      else if c = '\n' then go s (k - 1) (line + 1) 0
      else go s (k - c.utf8Size) line (column + c.utf8Size)

/-- The wording of a fault in `document`. -/
def Fault.message (document : List Char) (f : Fault) : String :=
  let (line, column) := position document (f.offset document)
  s!"{f.reason.text} at line {line} column {column}"

end DepthRelay.Json
