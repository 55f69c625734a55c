namespace DepthRelay.Json

/-!
# Printing of JSON documents

* `escape`, `quote` — strings: only quotes, backslashes and control characters are escaped, the
  common ones by a letter.
* `object` — an object over several lines, two blanks deep.
-/

/-- A digit in base 16, in lower case. -/
def hexDigit (n : Nat) : Char := Nat.digitChar n

/-- How one character stands inside a string. -/
def escape (c : Char) : List Char :=
  if c = '"' then ['\\', '"']
  else if c = '\\' then ['\\', '\\']
  else if c = '\x08' then ['\\', 'b']
  else if c = '\x0c' then ['\\', 'f']
  else if c = '\n' then ['\\', 'n']
  else if c = '\r' then ['\\', 'r']
  else if c = '\t' then ['\\', 't']
  else if c.toNat < 0x20 then
    ['\\', 'u', '0', '0', hexDigit (c.toNat / 16), hexDigit (c.toNat % 16)]
  else [c]

/-- A string between its quotes. -/
def quote (s : List Char) : List Char := '"' :: s.flatMap escape ++ ['"']

/-- One member on a line of its own. -/
def member (key : String) (value : List Char) : List Char :=
  [' ', ' '] ++ quote key.toList ++ [':', ' '] ++ value

/-- Members separated by commas and line feeds. -/
def members : List (String × List Char) → List Char
  | [] => []
  | [(k, v)] => member k v
  | (k, v) :: r => member k v ++ [',', '\n'] ++ members r

/-- An object with at least one member, over several lines. -/
def object (ms : List (String × List Char)) : List Char :=
  ['{', '\n'] ++ members ms ++ ['\n', '}']

/-- A natural number. -/
def number (n : Nat) : List Char := Nat.toDigits 10 n

end DepthRelay.Json
