namespace DepthRelay.Text

/-!
# Decimal numerals and separated parts

Reading of unsigned numerals, and splitting of a name at a separator.

* `digits?` — at least one ASCII digit and nothing else.
* `unsigned?` — the same with at most one leading `+`, below a limit.
* `parts` — the pieces of a text between separators; there is always at least one.
* `stem?` — what stands before a given ending.
-/

/-- The digit that a character stands for; meant for `'0'` to `'9'`. -/
def digitValue (c : Char) : Nat := c.toNat - 48

/-- Value of a row of decimal digits, the most significant first. -/
def value (ds : List Char) : Nat := ds.foldl (fun n c => 10 * n + digitValue c) 0

/-- Reads a numeral of ASCII digits; the empty text is none. -/
def digits? (s : List Char) : Option Nat :=
  if s ≠ [] ∧ s.all Char.isDigit then some (value s) else none

/-- Drops one leading `+`. -/
def dropPlus : List Char → List Char
  | '+' :: r => r
  | s => s

/-- Reads a numeral below `limit`; one leading `+` is allowed. -/
def unsigned? (limit : Nat) (s : List Char) : Option Nat :=
  (digits? (dropPlus s)).filter (· < limit)

/-! ### Parts of a name -/

/-- The pieces of `s` between the separators `sep`, in order, empty ones included. -/
def parts (sep : Char) : List Char → List (List Char)
  | [] => [[]]
  | c :: r =>
    if c = sep then [] :: parts sep r
    else match parts sep r with
      | [] => [[c]]
      | p :: ps => (c :: p) :: ps

/-- There is at least one part. -/
theorem parts_ne_nil (sep : Char) (s : List Char) : parts sep s ≠ [] := by
  cases s with
  | nil => simp [parts]
  | cons c r =>
    unfold parts
    split
    · simp
    · split <;> simp

/-- `some p` if `s` is `p` followed by `ending`. -/
def stem? (ending s : List Char) : Option (List Char) :=
  if ending.isSuffixOf s then some (s.take (s.length - ending.length)) else none

end DepthRelay.Text
