import DepthRelay.Json.Skip
import DepthRelay.Settings.Basic

namespace DepthRelay.Settings

/-!
# Reading settings

A settings document is an object of fields in any order, or an array of field values in the order
of `Field.all`.  Fields that are missing keep their defaults, members that are no field are skipped,
and the first fault in reading order is the one reported.

* `readNatural`, `readText`, `readChoice` — the three kinds of values.
* `readField` — one field, set in the settings read so far.
* `readMembers`, `readElements` — the parts of an object and of an array.
* `read` — a whole document.
-/

open Json

/-- What messages call the document as a whole. -/
def documentKind : String := "struct BridgeConfig"

/-! ### Values -/

/-- The fault of meeting a value of the wrong kind.  A value without parts is read first, so that
    its own faults come before its kind. -/
def wrongType (expected : String) (s : List Char) : Fault :=
  let word (letters : List Char) (found : Unexpected) (r : List Char) : Fault :=
    match scanWord letters r with
    | .error f => f
    | .ok t => .here (.wrongType found expected) t
  let number (negative : Bool) (r : List Char) : Fault :=
    match scanNumber negative r with
    | .error f => f
    | .ok (n, t) => .here (.wrongType n.unexpected expected) t
  match s with
  | [] => .peek .endInValue []
  | c :: r =>
    if c = 'n' then word ['u', 'l', 'l'] .null r
    else if c = 't' then word ['r', 'u', 'e'] (.boolean true) r
    else if c = 'f' then word ['a', 'l', 's', 'e'] (.boolean false) r
    else if c = '-' then number true r
    else if c.isDigit then number false s
    else if c = '"' then
      match scanString r with
      | .error f => f
      | .ok (x, t) => .here (.wrongType (.string (String.ofList x)) expected) t
    else if c = '[' then .here (.wrongType .sequence expected) s
    else if c = '{' then .here (.wrongType .map expected) s
    else .peek .expectedValue s

/-- Reads a natural number below `limit`; `kind` is what messages call the range. -/
def readNatural (limit : Nat) (kind : String) (s : List Char) : Except Fault (Nat × List Char) :=
  let s := skipSpace s
  let negative := s.head? == some '-'
  if negative || s.head?.any Char.isDigit then
    match scanNumber negative (if negative then s.tail else s) with
    | .error f => .error f
    | .ok (.natural n, r) =>
      if n < limit then .ok (n, r) else .error (.here (.wrongValue n kind) r)
    | .ok (.negative n, r) => .error (.here (.wrongValue (-(n : Int)) kind) r)
    | .ok (.floating x, r) => .error (.here (.wrongType (.floating x) kind) r)
  else .error (wrongType kind s)

/-- Reads a string. -/
def readText (s : List Char) : Except Fault (String × List Char) :=
  match skipSpace s with
  | [] => .error (.peek .endInValue [])
  | c :: r =>
    if c = '"' then (scanString r).map fun (x, t) => (String.ofList x, t)
    else .error (wrongType "a string" (c :: r))

/-- Reads the rest of the name of a choice and looks it up. -/
def readName {α : Type} (names : List (String × α)) (s : List Char) :
    Except Fault (α × List Char) :=
  match scanString s with
  | .error f => .error f
  | .ok (x, r) =>
    match names.lookup (String.ofList x) with
    | some a => .ok (a, r)
    | none => .error (.here (.unknownVariant (String.ofList x) (names.map Prod.fst)) r)

/-- Reads the `null` that stands for the empty contents of a choice. -/
def readUnit (s : List Char) : Except Fault (List Char) :=
  match skipSpace s with
  | [] => .error (.peek .endInValue [])
  | c :: r => if c = 'n' then scanWord ['u', 'l', 'l'] r else .error (wrongType "unit" (c :: r))

/-- Reads the key of an object that holds a choice, after its opening brace. -/
def readTag {α : Type} (names : List (String × α)) (s : List Char) :
    Except Fault (α × List Char) :=
  match skipSpace s with
  | [] => .error (.peek .endInObject [])
  | c :: r =>
    if c = '"' then readName names r
    else if c = '}' then .error (.peek .expectedValue (c :: r))
    else .error (.peek .keyNotString (c :: r))

/-- Reads the end of an object that holds a choice. -/
def endTagged (s : List Char) : Except Fault (List Char) :=
  match skipSpace s with
  | [] => .error (.here .endInObject [])
  | c :: r => if c = '}' then .ok r else .error (.here .expectedValue (c :: r))

/-- Reads the rest of an object that holds a choice, after its opening brace. -/
def readTagged {α : Type} (names : List (String × α)) (s : List Char) :
    Except Fault (α × List Char) :=
  match readTag names s with
  | .error f => .error f
  | .ok (a, r) => ((scanColon r).bind fun t => (readUnit t).bind endTagged).map (a, ·)

/-- Reads one of several named choices: its name, or an object from its name to `null`. -/
def readChoice {α : Type} (names : List (String × α)) (s : List Char) :
    Except Fault (α × List Char) :=
  match skipSpace s with
  | [] => .error (.peek .endInValue [])
  | c :: r =>
    if c = '"' then readName names r
    else if c = '{' then readTagged names r
    else .error (.peek .expectedValue (c :: r))

/-- Reads the value of a field into the settings read so far. -/
def readField (f : Field) (acc : Settings) (s : List Char) : Except Fault (Settings × List Char) :=
  match f with
  | .frameRate =>
    (readNatural UInt32.size "u32" s).map fun (n, r) => ({ acc with frameRate := UInt32.ofNat n }, r)
  | .exposureTime =>
    (readNatural UInt32.size "u32" s).map fun (n, r) =>
      ({ acc with exposureTime := UInt32.ofNat n }, r)
  | .maxPoints =>
    (readNatural UInt64.size "usize" s).map fun (n, r) => ({ acc with maxPoints := UInt64.ofNat n }, r)
  | .overflowPolicy =>
    (readChoice policyNames s).map fun (p, r) => ({ acc with overflowPolicy := p }, r)
  | .delivery => (readChoice deliveryNames s).map fun (m, r) => ({ acc with delivery := m }, r)
  | .handoffDepth =>
    (readNatural UInt64.size "usize" s).map fun (n, r) =>
      ({ acc with handoffDepth := UInt64.ofNat n }, r)
  | .attachName => (readText s).map fun (x, r) => ({ acc with attachName := x }, r)

/-! ### How far a value reaches -/

/-- What a result of a map comes from. -/
theorem map_eq_ok {ε α β : Type} {x : Except ε α} {f : α → β} {b : β} (h : x.map f = .ok b) :
    ∃ a, x = .ok a ∧ f a = b := by
  cases x with
  | error e => cases h
  | ok a => exact ⟨a, rfl, Except.ok.inj h⟩

/-- A natural number takes some of the text. -/
theorem readNatural_length {limit : Nat} {kind : String} {s r : List Char} {n : Nat}
    (h : readNatural limit kind s = .ok (n, r)) : r.length < s.length := by
  unfold readNatural at h
  dsimp only at h
  have hs := skipSpace_length s
  generalize skipSpace s = t at h hs
  split at h
  · split at h
    · cases h
    · rename_i hx
      have hlen := scanNumber_length hx
      have : (if (t.head? == some '-') = true then t.tail else t).length ≤ t.length := by
        split <;> simp
      split at h
      · cases h; omega
      · cases h
    · cases h
    · cases h
  · cases h

/-- A text takes some of it, too. -/
theorem readText_length {s r : List Char} {x : String} (h : readText s = .ok (x, r)) :
    r.length < s.length := by
  unfold readText at h
  have hs := skipSpace_length s
  split at h
  · cases h
  · rename_i c t heq
    rw [heq, List.length_cons] at hs
    split at h
    · obtain ⟨⟨y, u⟩, hy, hyu⟩ := map_eq_ok h
      cases hyu
      have := scanString_length hy
      omega
    · cases h

/-- So does a name. -/
theorem readName_length {α : Type} {names : List (String × α)} {s r : List Char} {a : α}
    (h : readName names s = .ok (a, r)) : r.length < s.length := by
  unfold readName at h
  split at h
  · cases h
  · rename_i hx
    have := scanString_length hx
    split at h <;> cases h
    exact this

/-- What is left after a unit is no longer. -/
theorem readUnit_length {s r : List Char} (h : readUnit s = .ok r) : r.length ≤ s.length := by
  unfold readUnit at h
  have hs := skipSpace_length s
  split at h
  · cases h
  · rename_i c t heq
    rw [heq, List.length_cons] at hs
    split at h
    · have := scanWord_length h
      omega
    · cases h

/-- What a result of a bind comes from. -/
theorem bind_eq_ok {ε α β : Type} {x : Except ε α} {f : α → Except ε β} {b : β}
    (h : x.bind f = .ok b) : ∃ a, x = .ok a ∧ f a = .ok b := by
  cases x with
  | error e => cases h
  | ok a => exact ⟨a, rfl, h⟩

/-- A tag takes some of the text. -/
theorem readTag_length {α : Type} {names : List (String × α)} {s r : List Char} {a : α}
    (h : readTag names s = .ok (a, r)) : r.length < s.length := by
  unfold readTag at h
  have hs := skipSpace_length s
  split at h
  · cases h
  · rename_i c u heq
    rw [heq, List.length_cons] at hs
    split at h
    · have := readName_length h
      omega
    · split at h <;> cases h

/-- So does the end of one. -/
theorem endTagged_length {s r : List Char} (h : endTagged s = .ok r) : r.length < s.length := by
  unfold endTagged at h
  have hs := skipSpace_length s
  split at h
  · cases h
  · rename_i c u heq
    rw [heq, List.length_cons] at hs
    split at h <;> cases h
    omega

/-- So does a choice with a tag. -/
theorem readTagged_length {α : Type} {names : List (String × α)} {s r : List Char} {a : α}
    (h : readTagged names s = .ok (a, r)) : r.length < s.length := by
  unfold readTagged at h
  split at h
  · cases h
  · rename_i ht
    obtain ⟨u, hu, huv⟩ := map_eq_ok h
    obtain ⟨v, hv, hvw⟩ := bind_eq_ok hu
    obtain ⟨w, hw, hwx⟩ := bind_eq_ok hvw
    cases huv
    have h₁ := readTag_length ht
    have h₂ := scanColon_length hv
    have h₃ := readUnit_length hw
    have h₄ := endTagged_length hwx
    omega

/-- So does a choice. -/
theorem readChoice_length {α : Type} {names : List (String × α)} {s r : List Char} {a : α}
    (h : readChoice names s = .ok (a, r)) : r.length < s.length := by
  unfold readChoice at h
  have hs := skipSpace_length s
  split at h
  · cases h
  · rename_i c t heq
    rw [heq, List.length_cons] at hs
    split at h
    · have := readName_length h
      omega
    · split at h
      · have := readTagged_length h
        omega
      · cases h

/-- **The value of every field** takes some of the text. -/
theorem readField_length {f : Field} {acc acc' : Settings} {s r : List Char}
    (h : readField f acc s = .ok (acc', r)) : r.length < s.length := by
  cases f <;> obtain ⟨⟨y, u⟩, hy, hyu⟩ := map_eq_ok h <;> cases hyu
  all_goals first
    | exact readNatural_length hy
    | exact readChoice_length hy
    | exact readText_length hy

/-! ### Objects -/

/-- Goes on to the next key of an object and reads it; no key means that the object has ended. -/
def nextKey (first : Bool) (s : List Char) : Except Fault (Option (List Char) × List Char) :=
  match skipSpace s with
  | [] => .error (.peek .endInObject [])
  | c :: r =>
    if c = '}' then .ok (none, r)
    else if first then
      if c = '"' then (scanString r).map fun (x, t) => (some x, t)
      else .error (.peek .keyNotString (c :: r))
    else if c = ',' then
      match skipSpace r with
      | [] => .error (.peek .endInValue [])
      | c :: t =>
        if c = '"' then (scanString t).map fun (x, u) => (some x, u)
        else if c = '}' then .error (.peek .trailingComma (c :: t))
        else .error (.peek .keyNotString (c :: t))
    else .error (.peek .expectedObjectEnd (c :: r))

/-- So does a key, or the end of the object. -/
theorem nextKey_length {first : Bool} {s r : List Char} {k : Option (List Char)}
    (h : nextKey first s = .ok (k, r)) : r.length < s.length := by
  unfold nextKey at h
  have hs := skipSpace_length s
  split at h
  · cases h
  · rename_i c t heq
    rw [heq, List.length_cons] at hs
    split at h
    · cases h; omega
    · split at h
      · split at h
        · obtain ⟨⟨y, u⟩, hy, hyu⟩ := map_eq_ok h
          cases hyu
          have := scanString_length hy
          omega
        · cases h
      · split at h
        · have ht := skipSpace_length t
          split at h
          · cases h
          · rename_i d v hv
            rw [hv, List.length_cons] at ht
            split at h
            · obtain ⟨⟨y, u⟩, hy, hyu⟩ := map_eq_ok h
              cases hyu
              have := scanString_length hy
              omega
            · split at h <;> cases h
        · cases h

/-- Where a repeated field is reported: the blanks after its key belong to it, and so does a brace
    that ends the object right there. -/
def afterRepeatedKey (s : List Char) : List Char :=
  let r := skipSpace s
  if r.head? == some '}' then r.tail else r

/-- Reads the members of an object, after `seen` fields, into the settings read so far. -/
def readMembers (seen : List Field) (first : Bool) (acc : Settings) (s : List Char) :
    Except Fault (Settings × List Char) :=
  match _hk : nextKey first s with
  | .error f => .error f
  | .ok (none, r) => .ok (acc, r)
  | .ok (some key, r) =>
    match Field.ofName? key with
    | none =>
      match _hc : scanColon r with
      | .error f => .error f
      | .ok t =>
        match _hv : skipValue [] t with
        | .error f => .error f
        | .ok u => readMembers seen false acc u
    | some f =>
      if f ∈ seen then .error (.here (.duplicateField f.name) (afterRepeatedKey r))
      else
        match _hc : scanColon r with
        | .error f => .error f
        | .ok t =>
          match _hv : readField f acc t with
          | .error f => .error f
          | .ok (acc, u) => readMembers (f :: seen) false acc u
termination_by s.length
decreasing_by
  · have h₁ := nextKey_length _hk
    have h₂ := scanColon_length _hc
    have h₃ := skipValue_length _hv
    omega
  · have h₁ := nextKey_length _hk
    have h₂ := scanColon_length _hc
    have h₃ := readField_length _hv
    omega

/-! ### Arrays -/

/-- Goes on to the next element of an array; the flag tells whether there is one. -/
def nextElement (first : Bool) (s : List Char) : Except Fault (Bool × List Char) :=
  match skipSpace s with
  | [] => .error (.peek .endInList [])
  | c :: r =>
    if c = ']' then .ok (false, c :: r)
    else if first then .ok (true, c :: r)
    else if c = ',' then
      match skipSpace r with
      | [] => .error (.peek .endInValue [])
      | c :: t => if c = ']' then .error (.peek .trailingComma (c :: t)) else .ok (true, c :: t)
    else .error (.peek .expectedListEnd (c :: r))

/-- Reads the end of an array that has no more elements to give. -/
def endElements (s : List Char) : Except Fault (List Char) :=
  match skipSpace s with
  | [] => .error (.peek .endInList [])
  | c :: r =>
    if c = ']' then .ok r
    else if c = ',' then
      let t := skipSpace r
      .error (.peek (if t.head? == some ']' then .trailingComma else .trailingCharacters) t)
    else .error (.peek .trailingCharacters (c :: r))

/-- Reads the elements of an array as the values of `fields` into the settings read so far. -/
def readElements (fields : List Field) (first : Bool) (acc : Settings) (s : List Char) :
    Except Fault (Settings × List Char) :=
  match fields with
  | [] => (endElements s).map (acc, ·)
  | f :: fields =>
    match nextElement first s with
    | .error f => .error f
    | .ok (false, r) => (endElements r).map (acc, ·)
    | .ok (true, r) =>
      match readField f acc r with
      | .error f => .error f
      | .ok (acc, t) => readElements fields false acc t

/-! ### Documents -/

/-- Reads the value of a document. -/
def readBody (document : List Char) : Except Fault (Settings × List Char) :=
  match skipSpace document with
  | [] => .error (.peek .endInValue [])
  | c :: r =>
    if c = '{' then readMembers [] true {} r
    else if c = '[' then readElements Field.all true {} r
    else .error (wrongType documentKind (c :: r))

/-- Reads a document.  Nothing but blanks may follow its value. -/
def read (document : List Char) : Except Fault Settings :=
  match readBody document with
  | .error f => .error f
  | .ok (settings, rest) =>
    match skipSpace rest with
    | [] => .ok settings
    | c :: r => .error (.peek .trailingCharacters (c :: r))

end DepthRelay.Settings
