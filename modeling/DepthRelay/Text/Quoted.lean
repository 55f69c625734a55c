import DepthRelay.Text.Printable

namespace DepthRelay.Text

/-!
# Quoted text in messages

Messages show a text between double quotes, so that its ends and its invisible characters can be
seen.

* `escape` — one character: a short escape, a code point in braces, or the character itself.
* `quoted` — the whole text.
-/

/-- The digits of a number in base 16, in lower case. -/
def hexDigits (n : Nat) : List Char := Nat.toDigits 16 n

/-- How one character stands inside a quoted text.  A single quote needs no escape there. -/
def escape (c : Char) : List Char :=
  if c = '\x00' then ['\\', '0']
  else if c = '\t' then ['\\', 't']
  else if c = '\r' then ['\\', 'r']
  else if c = '\n' then ['\\', 'n']
  else if c = '"' then ['\\', '"']
  else if c = '\\' then ['\\', '\\']
  else if isPrintable c then [c]
  else ['\\', 'u', '\x7b'] ++ hexDigits c.toNat ++ ['\x7d']

/-- A text between double quotes. -/
def quoted (s : String) : String :=
  String.ofList ('"' :: s.toList.flatMap escape ++ ['"'])

end DepthRelay.Text
