import DepthRelay.Command.Output
import DepthRelay.Proofs.SettingsDocuments

namespace DepthRelay

/-!
# Settings files are read back

* `Settings.entries` — what is written, field by field; `Settings.describes_render` — a document
  that was written describes the settings that it was made from.
* `Settings.read_render` — so it is read as them, with any blanks behind it.
* `settings_round_trip` — the same for files: settings that are saved are loaded again or refused
  for the limit that they violate, and what the `config` command prints is a file with the same
  settings.

`read` starts from the defaults, so that a document can leave fields out.  A document that was
written has every field, which is why nothing of the defaults is left (`overridden_all`).
-/

namespace Settings

open Json

/-! ### Documents that are written -/

/-- The value of a field as it is written is a text of that value. -/
theorem textOf_fieldValue (s : Settings) (f : Field) : s.TextOf (s.fieldValue f) f := by
  cases f with
  | frameRate | exposureTime | maxPoints | handoffDepth => rfl
  | overflowPolicy | delivery => exact .plain (spells_written _)
  | attachName => exact ⟨_, spells_written _, rfl⟩

/-- A field as it is written: on a line of its own, with `trail` behind it. -/
def written (s : Settings) (trail : List Char) (f : Field) : Entry where
  before := ['\n', ' ', ' ']
  key := f.name.toList.flatMap escape
  between := []
  lead := [' ']
  value := s.fieldValue f
  trail := trail
  name := f.name.toList

/-- A member that has been written gives back the value that was written. -/
theorem written_gives (s : Settings) {trail : List Char} (h : Blank trail) (f : Field) :
    (s.written trail f).Gives s where
  formed :=
    { before := show Blank ['\n', ' ', ' '] by decide
      key := (spells_written _).loose
      between := blank_nil
      element := ⟨show Blank [' '] by decide, h⟩ }
  spelled := spells_written _
  known g hg := by
    obtain rfl := Option.some.inj ((Field.ofName?_name f).symm.trans hg)
    exact s.textOf_fieldValue f
  unknown hnone := absurd ((Field.ofName?_name f).symm.trans hnone) (by simp)

/-- All fields as they are written: a line feed comes behind the last one. -/
def entries (s : Settings) : List Field → List Entry
  | [] => []
  | [f] => [s.written ['\n'] f]
  | f :: g :: fs => s.written [] f :: s.entries (g :: fs)

/-- Every member of a file gives back its value. -/
theorem entries_gives (s : Settings) (fs : List Field) : ∀ e ∈ s.entries fs, e.Gives s := by
  fun_induction entries s fs with
  | case1 => nofun
  | case2 f => exact List.forall_mem_singleton.mpr (s.written_gives (by decide) f)
  | case3 f g fs ih => exact List.forall_mem_cons.mpr ⟨s.written_gives blank_nil f, ih⟩

/-- The members that are written are those that were asked for. -/
theorem fields_entries (s : Settings) (fs : List Field) : fields (s.entries fs) = fs := by
  have hfield : ∀ trail f, (s.written trail f).field? = some f := fun _ f => Field.ofName?_name f
  unfold fields
  fun_induction entries s fs with
  | case1 => rfl
  | case2 f => rw [List.filterMap_cons_some (hfield _ f), List.filterMap_nil]
  | case3 f g fs ih => rw [List.filterMap_cons_some (hfield _ f), ih]

/-- The lines of a document are its members with commas between them. -/
theorem row_entries (s : Settings) {fs : List Field} (h : fs ≠ []) :
    row [] ((s.entries fs).map fun e => e.text) =
      '\n' :: (members (fs.map fun f => (f.name, s.fieldValue f)) ++ ['\n']) := by
  have hrow : ∀ (t u : List Char) (us : List (List Char)),
      row [] (t :: u :: us) = t ++ ',' :: row [] (u :: us) := fun _ _ _ => rfl
  have htext : ∀ trail f, (s.written trail f).text =
      '\n' :: (member f.name (s.fieldValue f) ++ trail) := by
    intro trail f
    simp [written, Member.text, Element.text, member, quote, quoted]
  fun_induction entries s fs with
  | case1 => exact absurd rfl h
  | case2 f => simp [row, members, htext]
  | case3 f g fs ih =>
    have hrest := ih (List.cons_ne_nil _ _)
    obtain ⟨e, es, hes⟩ : ∃ e es, s.entries (g :: fs) = e :: es := by
      cases fs <;> exact ⟨_, _, rfl⟩
    rw [hes, List.map_cons] at hrest
    rw [hes, List.map_cons, List.map_cons, hrow, hrest, htext]
    simp [members]

/-- **A document that was written describes the settings that it was made from**, with any blanks
    behind it. -/
theorem describes_render (s : Settings) {blanks : List Char} (hblanks : Blank blanks) :
    Describes s (s.entries Field.all) (s.render ++ blanks) where
  object := by
    refine ⟨[], blank_nil, [], blanks, blank_nil, hblanks, ?_⟩
    have hrow := s.row_entries (show Field.all ≠ [] by decide)
    simp only [render, Json.object, objectText, List.map_map, Function.comp_def, hrow,
      List.nil_append, List.cons_append, List.append_assoc]
  gives := s.entries_gives Field.all
  once := by
    rw [fields_entries]
    decide

/-- Settings that take all their fields from `s` are `s`. -/
theorem overridden_all (s : Settings) : s.overridden Field.all = s := by
  simp only [overridden, Field.all, List.foldl_cons, List.foldl_nil, adopt]

/-- **A document that was written is read as the settings it was made from**, with any blanks
    behind it. -/
theorem read_render (s : Settings) {blanks : List Char} (hblanks : ∀ c ∈ blanks, isSpace c = true) :
    read (s.render ++ blanks) = .ok s := by
  rw [read_object (s.describes_render hblanks), fields_entries, overridden_all]

/-! ### Files -/

/-- What a printed document with any blanks behind it describes: the settings themselves, unless
    they violate a limit. -/
theorem parse_print (s : Settings) {blanks : String}
    (hblanks : ∀ c ∈ blanks.toList, isSpace c = true) :
    parse (s.print ++ blanks) = s.validate.map fun _ => s := by
  have hread : read (s.print ++ blanks).toList = .ok s := by
    rw [String.toList_append, print, String.toList_ofList]
    exact s.read_render hblanks
  simp only [parse, hread]

/-- Settings that are loaded are within the limits; the defaults of a missing file are, too. -/
theorem validate_of_load {l : Location} {s : Settings} (h : load l = .ok s) :
    s.validate = .ok () := by
  unfold load at h
  split at h
  · cases h
  · cases h
    rfl
  · rename_i contents _
    unfold decode at h
    split at h
    · cases h
    · unfold parse at h
      split at h
      · cases h
      · obtain ⟨⟨⟩, hvalid, rfl⟩ := map_eq_ok h
        exact hvalid

end Settings

/-- A path that a file can be written to. -/
def Location.Writable (l : Location) : Prop :=
  ∀ contents, l.write contents = .ok (.file contents)

/-- Nothing else can be written to than a file and a place where there is nothing yet. -/
theorem Location.writable_iff (l : Location) :
    l.Writable ↔ l = .absent ∨ ∃ contents, l = .file contents := by
  constructor
  · intro h
    have hempty := h .empty
    cases l with
    | absent => exact .inl rfl
    | file contents => exact .inr ⟨contents, rfl⟩
    | _ => cases hempty
  · rintro (rfl | ⟨contents, rfl⟩) written <;> rfl

/-- **Settings survive their files.**  Settings that are saved to a path that can be written are
    loaded from there again, or refused for the limit that they violate, in the same words.  What
    the `config` command prints about a named settings file that loads is itself a settings file:
    written to any path, it loads as the same settings and is printed as the same text. -/
theorem settings_round_trip :
    (∀ (s : Settings) (l : Location), l.Writable →
      ∃ saved, s.save l = .ok saved ∧ Settings.load saved = s.validate.map fun _ => s) ∧
    ∀ (i : Command.Invocation) (path : String) (directory : Option String) (l target : Location)
      (now : Nat) (s : Settings),
      i.task = .config → i.file = some path → Settings.load l = .ok s → target.Writable →
      let printed := i.run directory l now
      printed.code = 0 ∧ printed.complaint = "" ∧
        ∃ written, target.write printed.text.toUTF8 = .ok written ∧
          Settings.load written = .ok s ∧ i.run directory written now = printed := by
  refine ⟨fun s l hl => ?_, fun i path directory l target now s htask hfile hload htarget => ?_⟩
  · refine ⟨.file s.print.toUTF8, ?_, ?_⟩
    · simp only [Settings.save, hl s.print.toUTF8]
    · have hparse : Settings.parse (s.print ++ "") = _ := s.parse_print (by simp)
      rw [String.append_empty] at hparse
      rw [Settings.load_toUTF8, hparse]
  · have hrun (place : Location) (hplace : Settings.load place = .ok s) :
        i.run directory place now = { opening := s.print ++ "\n" } := by
      simp only [Command.Invocation.run, htask, hplace, Command.Invocation.printSettings, hfile]
      simp
    have htext : (i.run directory l now).text = s.print ++ "\n" := by
      rw [hrun l hload]
      simp [Command.Output.text]
    -- The line break that ends the output is a blank behind the document.
    have hagain : Settings.load (.file (s.print ++ "\n").toUTF8) = .ok s := by
      rw [Settings.load_toUTF8, s.parse_print (by simp [Json.isSpace]),
        Settings.validate_of_load hload]
      rfl
    refine ⟨by rw [hrun l hload], by rw [hrun l hload], .file (s.print ++ "\n").toUTF8, ?_, hagain,
      ?_⟩
    · rw [htext, htarget]
    · rw [hrun _ hagain, hrun l hload]

/-- Settings with an unknown rate and a name of awkward characters are saved over another file and
    refused; a settings file that is an array is printed as an object. -/
theorem settings_round_trip_array :
    (∃ saved, ({ frameRate := 7, attachName := "\"\\\x01\n😀" } : Settings).save (.file .empty)
        = .ok saved ∧ Settings.load saved = .error (.config "unsupported frame_rate 7")) ∧
    ∃ i, Command.Invocation.parse ["config", "--config", "settings.json"] = some i ∧
      Settings.load (.file "[5, 2000]".toUTF8) = .ok { frameRate := 5, exposureTime := 2000 } ∧
      ∃ written,
        Location.absent.write (i.run none (.file "[5, 2000]".toUTF8) 0).text.toUTF8 = .ok written ∧
          Settings.load written = .ok { frameRate := 5, exposureTime := 2000 } ∧
          i.run none written 0 = i.run none (.file "[5, 2000]".toUTF8) 0 := by
  have hload : Settings.load (.file "[5, 2000]".toUTF8)
      = .ok { frameRate := 5, exposureTime := 2000 } := by
    rw [Settings.load_toUTF8]
    rfl
  refine ⟨?_, ⟨some "settings.json", .config⟩, by decide, hload, ?_⟩
  · exact settings_round_trip.1 _ _ ((Location.writable_iff _).2 (.inr ⟨_, rfl⟩))
  · exact (settings_round_trip.2 _ "settings.json" none _ .absent 0 _ rfl rfl hload
      ((Location.writable_iff _).2 (.inl rfl))).2.2

end DepthRelay
