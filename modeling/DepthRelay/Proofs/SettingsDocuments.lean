import DepthRelay.Settings.Storage
import DepthRelay.Proofs.SettingsValues
import Mathlib.Data.List.Forall2

namespace DepthRelay

/-!
# Settings documents mean their members

* `Settings.Entry` — a member of a document with the name that its key spells; `Settings.Describes`
  — a text is an object whose entries give fields, each at most once, the values that they have in
  some settings, among any other members.
* `Settings.readMembers_entries`, `Settings.readElements_prefix` — the entries of an object, and the
  elements of an array, are read one after the other.  The inductions are on the entries and on the
  elements.
* `Settings.readMembers_exclusive` — an object that is read gives no field twice, whatever the
  values are.
* `documents_mean_their_members` — the same for files.
-/

namespace Settings

open Json

/-! ### Documents -/

/-- A member of a document, and the name that its key spells. -/
structure Entry extends Member where
  name : List Char

/-- The field that an entry is about, if there is one of this name. -/
def Entry.field? (e : Entry) : Option Field := Field.ofName? e.name

/-- The entry gives its field the value that it has in `s`, or it is about something else. -/
structure Entry.Gives (s : Settings) (e : Entry) : Prop where
  formed : e.toMember.Formed
  spelled : Spells e.name e.key
  known : ∀ f, e.field? = some f → s.TextOf e.value f
  unknown : e.field? = none → Value e.value

/-- The fields that entries are about, in order. -/
def fields (es : List Entry) : List Field := es.filterMap Entry.field?

/-- The text is an object with these entries.  No field is given twice. -/
structure Describes (s : Settings) (es : List Entry) (text : List Char) : Prop where
  object : ∃ blanks, Blank blanks ∧ Document (objectText blanks (es.map Entry.toMember)) text
  gives : ∀ e ∈ es, e.Gives s
  once : (fields es).Nodup

/-- The text is an array of the values that the first `k` fields have in `s`. -/
def Lists (s : Settings) (k : Nat) (text : List Char) : Prop :=
  ∃ blanks es, Blank blanks ∧ Document (listText blanks es) text ∧
    List.Forall₂ (fun f e => e.Formed ∧ s.TextOf e.value f) (Field.all.take k) es

/-- The defaults, with the fields `fs` taken from `s`. -/
def overridden (s : Settings) (fs : List Field) : Settings := fs.foldl s.adopt {}

/-- The order of the fields does not matter. -/
theorem overridden_perm (s : Settings) {fs gs : List Field} (h : fs.Perm gs) :
    s.overridden fs = s.overridden gs := by
  have hcomm : ∀ f ∈ fs, ∀ g ∈ fs, ∀ acc, s.adopt (s.adopt acc f) g = s.adopt (s.adopt acc g) f := by
    intro f _ g _ acc
    cases f <;> cases g <;> rfl
  exact h.foldl_eq' hcomm _

/-! ### Members that are read -/

/-- What stands before a member or an element that is not the first. -/
def separator (first : Bool) : List Char := if first then [] else [',']

/-- Members or elements that are still to come. -/
def parts (first : Bool) : List (List Char) → List Char
  | [] => []
  | t :: ts => separator first ++ (t ++ parts false ts)

/-- Parts that follow others have a comma each. -/
theorem parts_false (ts : List (List Char)) : parts false ts = ts.flatMap (',' :: ·) := by
  induction ts with
  | nil => rfl
  | cons t ts ih =>
    rw [parts, ih]
    rfl

/-- All members or elements, and blanks if there are none. -/
theorem row_eq {blanks : List Char} (h : Blank blanks) (ts : List (List Char)) :
    ∃ b, Blank b ∧ row blanks ts = b ++ parts true ts := by
  cases ts with
  | nil => exact ⟨blanks, h, (List.append_nil blanks).symm⟩
  | cons t ts =>
    refine ⟨[], blank_nil, ?_⟩
    rw [row, parts, parts_false]
    rfl

/-- What follows a member or an element does not go on with a number. -/
theorem stops_parts {c : Char} (hc : endsNumber c = true) (ts : List (List Char)) (r : List Char) :
    Stops (parts false ts ++ c :: r) := by
  cases ts with
  | nil => exact stops_cons hc r
  | cons t ts => exact stops_cons (by decide) _

variable {seen : List Field} {first : Bool} {acc : Settings} {s t u r : List Char}

/-- The key of a member is read where one is expected. -/
theorem nextKey_member {m : Member} (hm : m.Formed) (first : Bool) (r : List Char) :
    nextKey first (separator first ++ (m.text ++ r)) =
      (scanString (m.key ++ '"' :: (m.between ++ ':' :: (m.toElement.text ++ r)))).map
        fun (x, t) => (some x, t) := by
  have hspace := hm.before.skip_token (show isSpace '"' = false by decide)
    (m.key ++ '"' :: (m.between ++ ':' :: (m.toElement.text ++ r)))
  rw [m.text_append]
  cases first with
  | true =>
    rw [separator, if_pos rfl, List.nil_append, nextKey, hspace]
    rfl
  | false =>
    rw [separator, if_neg (by simp), List.cons_append, List.nil_append, nextKey,
      skipSpace_of_not (by decide)]
    simp only [show (',' : Char) ≠ '}' by decide, Bool.false_eq_true, if_false, if_true, hspace]

/-- Blanks in front of a key do not matter. -/
theorem nextKey_blank {blanks : List Char} (h : Blank blanks) (first : Bool) (s : List Char) :
    nextKey first (blanks ++ s) = nextKey first s := by
  unfold nextKey
  rw [h.skip]

theorem nextKey_end (first : Bool) (r : List Char) : nextKey first ('}' :: r) = .ok (none, r) := by
  rw [nextKey, skipSpace_of_not (by decide)]
  exact if_pos rfl

theorem readMembers_blank {blanks : List Char} (h : Blank blanks) (s : List Char) :
    readMembers seen first acc (blanks ++ s) = readMembers seen first acc s := by
  rw [readMembers.eq_def, readMembers.eq_def _ _ _ s, nextKey_blank h]

/-- At the closing brace reading ends. -/
theorem readMembers_end (r : List Char) : readMembers seen first acc ('}' :: r) = .ok (acc, r) := by
  have hkey := nextKey_end first r
  rw [readMembers.eq_def]
  -- The branches carry the equation of what has been read, so it cannot be rewritten in place.
  split <;> rename_i h <;> rw [hkey] at h <;> cases h
  rfl

/-- A member of an unknown name is skipped. -/
theorem readMembers_unknown {key : List Char} (hkey : nextKey first s = .ok (some key, r))
    (hname : Field.ofName? key = none) (hcolon : scanColon r = .ok t)
    (hvalue : skipValue [] t = .ok u) :
    readMembers seen first acc s = readMembers seen false acc u := by
  rw [readMembers.eq_def]
  split <;> rename_i h <;> rw [hkey] at h <;> cases h
  rw [hname]
  dsimp only
  split <;> rename_i h <;> rw [hcolon] at h <;> cases h
  split <;> rename_i h <;> rw [hvalue] at h <;> cases h
  rfl

/-- A field that has not been given before is read. -/
theorem readMembers_known {acc' : Settings} {key : List Char} {f : Field}
    (hkey : nextKey first s = .ok (some key, r)) (hname : Field.ofName? key = some f)
    (hf : f ∉ seen) (hcolon : scanColon r = .ok t) (hvalue : readField f acc t = .ok (acc', u)) :
    readMembers seen first acc s = readMembers (f :: seen) false acc' u := by
  rw [readMembers.eq_def]
  split <;> rename_i h <;> rw [hkey] at h <;> cases h
  rw [hname]
  simp only [hf, if_false]
  split <;> rename_i h <;> rw [hcolon] at h <;> cases h
  split <;> rename_i h <;> rw [hvalue] at h <;> cases h
  rfl

/-- **An entry is read**: it gives its field, or nothing. -/
theorem readMembers_entry {x : Settings} {e : Entry} (he : e.Gives x)
    (hseen : ∀ f, e.field? = some f → f ∉ seen) (acc : Settings) (first : Bool) (hr : Stops r) :
    readMembers seen first acc (separator first ++ (e.text ++ r)) =
      readMembers (e.field?.toList ++ seen) false (e.field?.toList.foldl x.adopt acc) r := by
  have hkey : nextKey first (separator first ++ (e.text ++ r)) =
      .ok (some e.name, e.between ++ ':' :: (e.toElement.text ++ r)) := by
    rw [nextKey_member he.formed, scanString_spells he.spelled]
    rfl
  have hcolon := scanColon_blank he.formed.between (e.toElement.text ++ r)
  have htrail := he.formed.element.trail
  rw [e.toElement.text_append] at hkey hcolon
  cases hf : e.field? with
  | none =>
    have hvalue : skipValue [] (e.lead ++ (e.value ++ (e.trail ++ r))) = .ok (e.trail ++ r) := by
      rw [(he.unknown hf).skip _ _ _ he.formed.element.lead (htrail.stops hr), skipAfter_nil]
    rw [readMembers_unknown hkey hf hcolon hvalue, readMembers_blank htrail]
    rfl
  | some f =>
    have hvalue := readField_text (he.known f hf) acc he.formed.element.lead (htrail.stops hr)
    rw [readMembers_known hkey hf (hseen f hf) hcolon hvalue, readMembers_blank htrail]
    rfl

/-- **The entries that are still to come are read one after the other.** -/
theorem readMembers_entries {x : Settings} {es : List Entry} (hes : ∀ e ∈ es, e.Gives x)
    (honce : (fields es).Nodup) (hseen : ∀ f ∈ fields es, f ∉ seen) (acc : Settings) (first : Bool)
    (r : List Char) :
    readMembers seen first acc (parts first (es.map fun e => e.text) ++ '}' :: r) =
      .ok ((fields es).foldl x.adopt acc, r) := by
  induction es generalizing seen acc first with
  | nil => exact readMembers_end r
  | cons e es ih =>
    have hfields : fields (e :: es) = e.field?.toList ++ fields es := by
      unfold fields
      cases hf : e.field? with
      | none => rw [List.filterMap_cons_none hf]; rfl
      | some f => rw [List.filterMap_cons_some hf]; rfl
    rw [hfields] at honce hseen ⊢
    have hentry := readMembers_entry (hes e List.mem_cons_self)
      (fun f hf => hseen f (by simp [hf])) acc first
      (stops_parts (c := '}') (by decide) (es.map fun e => e.text) r)
    rw [List.map_cons, parts, List.append_assoc, List.append_assoc, hentry, List.foldl_append]
    refine ih (fun e' he' => hes e' (List.mem_cons_of_mem e he')) (List.nodup_append.mp honce).2.1
      (fun f hf hmem => ?_) _ false
    rcases List.mem_append.mp hmem with hnow | hbefore
    · exact (List.nodup_append.mp honce).2.2 f hnow f hf rfl
    · exact hseen f (List.mem_append_right _ hf) hbefore

/-- A document is read as its value, if nothing of it is left. -/
theorem read_of_body {v text : List Char} {x : Settings} (h : Document v text)
    (hbody : ∀ behind, readBody (skipSpace (v ++ behind)) = .ok (x, behind)) :
    read text = .ok x := by
  obtain ⟨before, behind, hbefore, hbehind, rfl⟩ := h
  have hskip : readBody (before ++ (v ++ behind)) = readBody (skipSpace (v ++ behind)) := by
    unfold readBody
    rw [hbefore.skip, skipSpace_skipSpace]
  have hnothing : skipSpace behind = [] := by
    have hall := hbehind.skip []
    rw [List.append_nil] at hall
    exact hall
  simp only [read, hskip, hbody, hnothing]

/-- **An object is read as the defaults with the fields that it gives.** -/
theorem read_object {x : Settings} {es : List Entry} {text : List Char}
    (h : Describes x es text) : read text = .ok (x.overridden (fields es)) := by
  obtain ⟨⟨blanks, hblanks, hdocument⟩, hgives, honce⟩ := h
  refine read_of_body hdocument fun behind => ?_
  obtain ⟨b, hb, hrow⟩ := row_eq hblanks ((es.map Entry.toMember).map Member.text)
  have hunseen : ∀ f ∈ fields es, f ∉ ([] : List Field) := fun _ _ => List.not_mem_nil
  have hmembers := readMembers_entries hgives honce hunseen {} true behind
  rw [objectText, List.cons_append, skipSpace_of_not (by decide), readBody,
    skipSpace_of_not (by decide), hrow]
  simp only [if_true, List.append_assoc, List.cons_append, List.nil_append, List.map_map]
  rw [readMembers_blank hb]
  exact hmembers

/-! ### Elements that are read -/

/-- Nor do they in front of an element. -/
theorem nextElement_blank {blanks : List Char} (h : Blank blanks) (first : Bool) (s : List Char) :
    nextElement first (blanks ++ s) = nextElement first s := by
  unfold nextElement
  rw [h.skip]

/-- Nor at the end of the elements. -/
theorem endElements_blank {blanks : List Char} (h : Blank blanks) (s : List Char) :
    endElements (blanks ++ s) = endElements s := by
  unfold endElements
  rw [h.skip]

/-- Blanks between elements do not matter. -/
theorem readElements_blank {blanks : List Char} (h : Blank blanks) (fs : List Field) (first : Bool)
    (acc : Settings) (s : List Char) :
    readElements fs first acc (blanks ++ s) = readElements fs first acc s := by
  cases fs with
  | nil => rw [readElements, readElements, endElements_blank h]
  | cons f fs => rw [readElements, readElements, nextElement_blank h]

theorem endElements_end (r : List Char) : endElements (']' :: r) = .ok r := by
  rw [endElements, skipSpace_of_not (by decide)]
  exact if_pos rfl

/-- Values for the fields that are left may be missing. -/
theorem readElements_end (fs : List Field) (first : Bool) (acc : Settings) (r : List Char) :
    readElements fs first acc (']' :: r) = .ok (acc, r) := by
  cases fs with
  | nil =>
    rw [readElements, endElements_end]
    rfl
  | cons f fs =>
    have hnext : nextElement first (']' :: r) = .ok (false, ']' :: r) := by
      rw [nextElement, skipSpace_of_not (by decide)]
      exact if_pos rfl
    simp only [readElements, hnext, endElements_end, Except.map]

/-- An element is found where one is expected, and its value comes next. -/
theorem nextElement_element {e : Element} (he : e.Formed) (hv : Value e.value) (first : Bool)
    (r : List Char) :
    nextElement first (separator first ++ (e.text ++ r)) = .ok (true, e.value ++ (e.trail ++ r)) := by
  obtain ⟨c, t, hct, hspace, hend, -⟩ := hv.head
  have hskip := he.lead.skip_token hspace (t ++ (e.trail ++ r))
  rw [e.text_append, hct, List.cons_append]
  cases first with
  | true =>
    rw [separator, if_pos rfl, List.nil_append, nextElement, hskip]
    simp only [hend, if_false, if_true]
  | false =>
    rw [separator, if_neg (by simp), List.cons_append, List.nil_append, nextElement,
      skipSpace_of_not (by decide)]
    simp only [show (',' : Char) ≠ ']' by decide, hskip, hend, Bool.false_eq_true, if_false, if_true]

/-- **An element is read** as the value of the next field. -/
theorem readElements_element {x : Settings} {f : Field} {e : Element} (he : e.Formed)
    (hv : x.TextOf e.value f) (fs : List Field) (first : Bool) (acc : Settings) (hr : Stops r) :
    readElements (f :: fs) first acc (separator first ++ (e.text ++ r)) =
      readElements fs false (x.adopt acc f) r := by
  have hvalue : readField f acc (e.value ++ (e.trail ++ r)) = .ok (x.adopt acc f, e.trail ++ r) :=
    (readField_text hv acc blank_nil (he.trail.stops hr) :)
  simp only [readElements, nextElement_element he hv.value, hvalue]
  exact readElements_blank he.trail fs false _ r

/-- **Elements for the first fields are read one after the other.** -/
theorem readElements_prefix {x : Settings} {fs : List Field} {es : List Element}
    (h : List.Forall₂ (fun f e => e.Formed ∧ x.TextOf e.value f) fs es) (gs : List Field)
    (first : Bool) (acc : Settings) (r : List Char) :
    readElements (fs ++ gs) first acc (parts first (es.map Element.text) ++ ']' :: r) =
      .ok (fs.foldl x.adopt acc, r) := by
  induction h generalizing first acc with
  | nil => exact readElements_end gs first acc r
  | @cons f e fs es hfe _ ih =>
    have helement := readElements_element hfe.1 hfe.2 (fs ++ gs) first acc
      (stops_parts (c := ']') (by decide) (es.map Element.text) r)
    rw [List.map_cons, parts, List.append_assoc, List.append_assoc, List.cons_append, helement]
    exact ih false _

/-- **An array is read as the defaults with the first fields**, as far as it has values for them. -/
theorem read_list {x : Settings} {k : Nat} {text : List Char} (h : Lists x k text) :
    read text = .ok (x.overridden (Field.all.take k)) := by
  obtain ⟨blanks, es, hblanks, hdocument, h⟩ := h
  refine read_of_body hdocument fun behind => ?_
  obtain ⟨b, hb, hrow⟩ := row_eq hblanks (es.map Element.text)
  have helements := readElements_prefix h (Field.all.drop k) true {} behind
  rw [List.take_append_drop] at helements
  rw [listText, List.cons_append, skipSpace_of_not (by decide), readBody,
    skipSpace_of_not (by decide), hrow]
  simp only [show ('[' : Char) ≠ '{' by decide, if_false, if_true, List.append_assoc,
    List.cons_append, List.nil_append]
  rw [readElements_blank hb]
  exact helements

/-! ### Fields that are given twice -/

/-- **What a member that is read does**: its key is read, its value could have been skipped, and its
    name is not one that has been seen if it is a field's. -/
theorem of_readMembers {res : Settings × List Char}
    (h : readMembers seen first acc s = .ok res) :
    nextKey first s = .ok (none, res.2) ∨
      ∃ key r t u acc', nextKey first s = .ok (some key, r) ∧ scanColon r = .ok t ∧
        skipValue [] t = .ok u ∧ (∀ f, Field.ofName? key = some f → f ∉ seen) ∧
        readMembers ((Field.ofName? key).toList ++ seen) false acc' u = .ok res := by
  rw [readMembers.eq_def] at h
  split at h
  · cases h
  · next hkey =>
    cases h
    exact .inl hkey
  · -- The key may be unknown, and then its value is skipped; else it is read, and could have been
    -- skipped.
    next key r hkey =>
    split at h
    · next hname =>
      split at h
      · cases h
      · next t hcolon =>
        split at h
        · cases h
        · next u hvalue =>
          refine .inr ⟨key, r, t, u, acc, hkey, hcolon, hvalue, ?_, ?_⟩
          · rw [hname]
            exact fun f hf => absurd hf (by simp)
          · rw [hname]
            exact h
    · next f hname =>
      split at h
      · cases h
      · next hf =>
        split at h
        · cases h
        · next t hcolon =>
          split at h
          · cases h
          · next acc' u hvalue =>
            refine .inr ⟨key, r, t, u, acc', hkey, hcolon, skipValue_of_readField hvalue, ?_, ?_⟩
            · rw [hname]
              exact fun g hg => Option.some.inj hg ▸ hf
            · rw [hname]
              exact h

/-- **Members that are read give no field twice**, and none that has been given before.  Where a
    member ends does not depend on whether it is read or skipped, so the members are met one by one
    whatever their values are. -/
theorem readMembers_exclusive {ms : List Member} (formed : ∀ m ∈ ms, m.Formed)
    (values : ∀ m ∈ ms, Value m.value) {res : Settings × List Char}
    (h : readMembers seen first acc (parts first (ms.map Member.text) ++ '}' :: r) = .ok res) :
    (∀ f ∈ seen, ∀ m ∈ ms, ¬ Spells f.name.toList m.key) ∧
      ms.Pairwise fun m m' => ∀ f : Field,
        Spells f.name.toList m.key → ¬ Spells f.name.toList m'.key := by
  induction ms generalizing seen first acc with
  | nil => exact ⟨fun _ _ _ hm => absurd hm List.not_mem_nil, .nil⟩
  | cons m ms ih =>
    have hm := formed m List.mem_cons_self
    have hstops := stops_parts (c := '}') (by decide) (ms.map Member.text) r
    rw [List.map_cons, parts, List.append_assoc, List.append_assoc] at h
    obtain hnone | ⟨key, u, t, v, acc', hnext, hcolon, hvalue, hfresh, hrest⟩ := of_readMembers h
    · rw [nextKey_member hm] at hnone
      obtain ⟨_, -, hsome⟩ := map_eq_ok hnone
      cases hsome
    · rw [nextKey_member hm] at hnext
      obtain ⟨⟨x, w⟩, hkey, hpair⟩ := map_eq_ok hnext
      cases hpair
      -- The key ends at its quote, so what follows it is known even if its name is not.
      have hu := skipString_of_scanString hkey
      rw [skipString_loose hm.key] at hu
      cases hu
      rw [scanColon_blank hm.between] at hcolon
      cases hcolon
      rw [m.toElement.text_append, (values m List.mem_cons_self).skip _ _ _ hm.element.lead
        (hm.element.trail.stops hstops), skipAfter_nil] at hvalue
      cases hvalue
      rw [readMembers_blank hm.element.trail] at hrest
      obtain ⟨hseen, hpairs⟩ := ih (fun m' hm' => formed m' (List.mem_cons_of_mem m hm'))
        (fun m' hm' => values m' (List.mem_cons_of_mem m hm')) hrest
      have hname : ∀ f : Field, Spells f.name.toList m.key → Field.ofName? key = some f := by
        intro f hf
        rw [scanString_spells hf] at hkey
        cases hkey
        exact Field.ofName?_name f
      refine ⟨fun f hf m' hm' => ?_, List.pairwise_cons.mpr ⟨fun m' hm' f hf => ?_, hpairs⟩⟩
      · rcases List.mem_cons.mp hm' with rfl | hm'
        · exact fun hspells => hfresh f (hname f hspells) hf
        · exact hseen f (List.mem_append_right _ hf) m' hm'
      · exact hseen f (List.mem_append_left _ (by simp [hname f hf])) m' hm'

/-- **An object that is read gives no field twice.** -/
theorem of_read_object {ms : List Member} (formed : ∀ m ∈ ms, m.Formed)
    (values : ∀ m ∈ ms, Value m.value) {blanks text : List Char} (hblanks : Blank blanks)
    (hdocument : Document (objectText blanks ms) text) {x : Settings} (h : read text = .ok x) :
    ms.Pairwise fun m m' => ∀ f : Field,
      Spells f.name.toList m.key → ¬ Spells f.name.toList m'.key := by
  obtain ⟨before, behind, hbefore, -, rfl⟩ := hdocument
  obtain ⟨b, hb, hrow⟩ := row_eq hblanks (ms.map Member.text)
  have hbody : readBody (before ++ (objectText blanks ms ++ behind)) =
      readMembers [] true {} (parts true (ms.map Member.text) ++ '}' :: behind) := by
    rw [objectText, List.cons_append, readBody, hbefore.skip_token (by decide), hrow]
    simp only [if_true, List.append_assoc, List.cons_append, List.nil_append]
    rw [readMembers_blank hb]
  unfold read at h
  rw [hbody] at h
  split at h
  · cases h
  · next hmembers => exact (readMembers_exclusive formed values hmembers).2

/-! ### Files -/

/-- A file with a text in it is read as that text. -/
theorem load_toUTF8 (text : String) : load (.file text.toUTF8) = parse text := by
  have htext : String.fromUTF8? text.toUTF8 = some text := by
    rw [String.toUTF8_eq_toByteArray, String.fromUTF8?, dif_pos text.isValidUTF8]
    rfl
  simp only [load, Location.read, decode, htext]

/-- Settings that are read are loaded, or refused for the limit that they violate. -/
theorem load_of_read {text : String} {x : Settings} (h : read text.toList = .ok x) :
    load (.file text.toUTF8) = x.validate.map fun _ => x := by
  simp only [load_toUTF8, parse, h]

/-- Only what can be read is loaded. -/
theorem read_of_load {text : String} {x : Settings} (h : load (.file text.toUTF8) = .ok x) :
    read text.toList = .ok x := by
  rw [load_toUTF8, parse] at h
  split at h
  · cases h
  · next hread =>
    obtain ⟨-, -, rfl⟩ := map_eq_ok h
    exact hread

/-- The same fields taken from the same settings, in whatever order. -/
theorem overridden_congr (s : Settings) {fs gs : List Field} (hfs : fs.Nodup) (hgs : gs.Nodup)
    (h : ∀ f, f ∈ fs ↔ f ∈ gs) : s.overridden fs = s.overridden gs :=
  s.overridden_perm ((List.perm_ext_iff_of_nodup hfs hgs).mpr h)

end Settings

open Settings Json

/-- **A settings document means its members.**  An object that gives fields values loads as the
    defaults with these fields, or is refused for a limit that they violate: neither the order of
    its members, nor its blanks, nor its members of other names matter.  An array of values for the
    first fields loads like an object that gives these.  An object that gives a field twice does not
    load, whatever the values are. -/
theorem documents_mean_their_members :
    (∀ (s : Settings) (es : List Entry) (text : String), Describes s es text.toList →
      load (.file text.toUTF8) =
        (s.overridden (fields es)).validate.map fun _ => s.overridden (fields es)) ∧
    (∀ (s : Settings) (es es' : List Entry) (text text' : String),
      Describes s es text.toList → Describes s es' text'.toList →
      (∀ f, f ∈ fields es ↔ f ∈ fields es') →
      load (.file text.toUTF8) = load (.file text'.toUTF8)) ∧
    (∀ (s : Settings) (k : Nat) (text : String), Lists s k text.toList →
      load (.file text.toUTF8) =
        ((s.overridden (Field.all.take k)).validate.map fun _ => s.overridden (Field.all.take k)) ∧
      ∀ (es : List Entry) (text' : String), Describes s es text'.toList →
        (∀ f, f ∈ fields es ↔ f ∈ Field.all.take k) →
        load (.file text.toUTF8) = load (.file text'.toUTF8)) ∧
    ∀ (ms : List Member) (blanks : List Char) (text : String),
      (∀ m ∈ ms, m.Formed) → (∀ m ∈ ms, Value m.value) → Blank blanks →
      Document (objectText blanks ms) text.toList →
      ∀ (m m' : Member) (f : Field), [m, m'].Sublist ms →
        Spells f.name.toList m.key → Spells f.name.toList m'.key →
        ∀ x, load (.file text.toUTF8) ≠ .ok x := by
  have hobject : ∀ (s : Settings) (es : List Entry) (text : String), Describes s es text.toList →
      load (.file text.toUTF8) =
        (s.overridden (fields es)).validate.map fun _ => s.overridden (fields es) :=
    fun s es text h => load_of_read (read_object h)
  refine ⟨hobject, fun s es es' text text' h h' hfields => ?_, fun s k text h => ?_,
    fun ms blanks text formed values hblanks hdocument m m' f hsub hm hm' x hload => ?_⟩
  · -- The order of members does not matter, since each field is set once.
    rw [hobject s es text h, hobject s es' text' h',
      s.overridden_congr h.once h'.once hfields]
  · -- A list sets the first fields in their order.
    have hlist := load_of_read (read_list h)
    refine ⟨hlist, fun es text' h' hfields => ?_⟩
    have hall : (Field.all.take k).Nodup :=
      (by decide : Field.all.Nodup).sublist (List.take_sublist k Field.all)
    rw [hlist, hobject s es text' h', s.overridden_congr h'.once hall hfields]
  · -- Two members of one name would have been refused by the reader.
    have hpairs := of_read_object formed values hblanks hdocument (read_of_load hload)
    exact List.pairwise_iff_forall_sublist.mp hpairs hsub f hm hm'

/-- An object with a choice in its object form, an unknown member that has parts and an escaped key;
    an array in place of an object; and a field that is given twice in two spellings. -/
theorem documents_mean_their_members_escaped :
    load (.file ("\x7b\"delivery\":\x7b\"queued\":null\x7d,\"x\":[0,0]," ++
          "\"fr\\u0061me_rate\":10\x7d").toUTF8) = .ok { frameRate := 10, delivery := .queued } ∧
      load (.file "[10]".toUTF8) = load (.file "\x7b\"fr\\u0061me_rate\":10\x7d".toUTF8) ∧
      ∀ x, load (.file "\x7b\"frame_rate\":[],\"fr\\u0061me_rate\":10\x7d".toUTF8) ≠ .ok x := by
  have plain : ∀ x, x.all (fun c => Plain c) = true → Spells x x :=
    fun x hx => spells_plain (by simpa using hx)
  have spelled : Spells "frame_rate".toList "fr\\u0061me_rate".toList :=
    .plain (by decide) <| .plain (by decide) <|
      .unit (.digits (a := 0) (b := 0) (c := 6) (d := 1) rfl rfl rfl rfl) rfl rfl
        (plain _ (by decide))
  have escaped : ∀ value, (Member.bare "fr\\u0061me_rate".toList value).Formed :=
    Member.bare_formed spelled.loose
  -- The entries of the first object.
  have delivery : Entry.Gives { frameRate := 10, delivery := .queued }
      ⟨.bare "delivery".toList "\x7b\"queued\":null\x7d".toList, "delivery".toList⟩ := by
    have hqueued := plain "queued".toList (by decide)
    refine ⟨Member.bare_formed (plain _ (by decide)).loose _, plain _ (by decide), ?_, nofun⟩
    rintro f ⟨⟩
    exact .tagged (m := .bare "queued".toList "null".toList) (Member.bare_formed hqueued.loose _)
      hqueued rfl
  have other : Entry.Gives { frameRate := 10, delivery := .queued }
      ⟨.bare "x".toList "[0,0]".toList, "x".toList⟩ := by
    refine ⟨Member.bare_formed (plain _ (by decide)).loose _, plain _ (by decide), nofun, fun _ => ?_⟩
    change Value (listText [] [⟨[], ['0'], []⟩, ⟨[], ['0'], []⟩])
    refine .list nofun ?_ ?_ <;>
      simp only [List.forall_mem_cons]
    · exact ⟨⟨nofun, nofun⟩, ⟨nofun, nofun⟩, nofun⟩
    · exact ⟨.number (isNumber_number 0), .number (isNumber_number 0), nofun⟩
  have rate : ∀ s : Settings, s.frameRate = 10 →
      Entry.Gives s ⟨.bare "fr\\u0061me_rate".toList "10".toList, "frame_rate".toList⟩ := by
    intro s hs
    refine ⟨escaped _, spelled, ?_, nofun⟩
    rintro f ⟨⟩
    exact congrArg (fun n : UInt32 => number n.toNat) hs.symm
  obtain ⟨hobject, -, hlist, htwice⟩ := documents_mean_their_members
  refine ⟨?_, ?_, ?_⟩
  · have gives := List.forall_mem_cons.mpr ⟨delivery, List.forall_mem_cons.mpr
      ⟨other, List.forall_mem_singleton.mpr (rate _ rfl)⟩⟩
    exact hobject _ _ _ ⟨⟨[], blank_nil, [], [], blank_nil, blank_nil, rfl⟩, gives, by decide⟩
  · have gives := List.forall_mem_singleton.mpr (rate { frameRate := 10 } rfl)
    have array : Lists { frameRate := 10 } 1 "[10]".toList :=
      ⟨[], [⟨[], "10".toList, []⟩], nofun, ⟨[], [], nofun, nofun, rfl⟩,
        .cons ⟨⟨nofun, nofun⟩, rfl⟩ .nil⟩
    exact (hlist _ 1 _ array).2 _ _ ⟨⟨[], blank_nil, [], [], blank_nil, blank_nil, rfl⟩, gives, by decide⟩
      fun _ => Iff.rfl
  · refine htwice [.bare "frame_rate".toList "[]".toList, .bare "fr\\u0061me_rate".toList "10".toList]
      [] _ ?_ ?_ blank_nil ⟨[], [], blank_nil, blank_nil, rfl⟩ _ _ .frameRate (.refl _) (plain _ (by decide))
      spelled <;> simp only [List.forall_mem_cons]
    · exact ⟨Member.bare_formed (plain _ (by decide)).loose _, escaped _, nofun⟩
    · have empty : Value (listText [] []) := .list nofun nofun nofun
      exact ⟨empty, .number (isNumber_number 10), nofun⟩

end DepthRelay
