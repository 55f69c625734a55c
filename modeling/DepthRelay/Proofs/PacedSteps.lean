import DepthRelay.Proofs.FullFrames
import DepthRelay.Proofs.PacedThreads

namespace DepthRelay

/-!
# What steps of sources and callers preserve

A session, its camera and the sources it has started, seen through what is noted about them and
through the scene that they make.

* `Pacing.frames`, `Pacing.Underway`, `Pacing.Retired`, `Pacing.Silent` — what notes tell.
* `Runner.Moved` — everything that a step of a source can do to the scene.
* `Pacing.Tallied`, `Pacing.Exact` — the frames of one source, which are never more than its limit,
  and exactly as many if nothing stops it.
* `Pacing.Regular` — what holds between any two steps; `Regular.advance`, `Regular.call` and
  `Regular.start` are its preservation by a source, by the caller and by a start.
-/

variable {σ : Type}

namespace Pacing

/-! ### Notes -/

namespace Note

/-- The run whose source is named. -/
def run? : Note → Option Nat
  | started run | handed run _ => some run
  | ending | stopped | closed => none

/-- The run that a frame was handed over in. -/
def handedRun? : Note → Option Nat
  | handed run _ => some run
  | _ => none

/-- The frame, if it was handed over in a run. -/
def frame? (run : Nat) : Note → Option DepthFrame
  | handed run' frame => if run' = run then some frame else none
  | _ => none

/-- Whether a successful stop or a close has returned. -/
def returned : Note → Bool
  | stopped | closed => true
  | _ => false

end Note

/-- The frames that the source of a run has handed over. -/
def frames (run : Nat) (notes : List Note) : List DepthFrame := notes.filterMap (Note.frame? run)

/-- The runs that frames have been handed over in, frame by frame. -/
def handedRuns (notes : List Note) : List Nat := notes.filterMap Note.handedRun?

/-- The run has been started, and nothing has begun to end it. -/
def Underway (run : Nat) (notes : List Note) : Prop :=
  ∃ before after, notes = before ++ .started run :: after ∧ .ending ∉ after

/-- A stop or a close has returned since the run was started. -/
def Retired (run : Nat) (notes : List Note) : Prop :=
  ∃ before note after, notes = before ++ note :: after ∧ note.returned = true ∧
    .started run ∈ before

/-- Nothing is handed over in a run that has ended. -/
def Silent (notes : List Note) : Prop :=
  ∀ before run frame after, notes = before ++ .handed run frame :: after → ¬Retired run before

section

variable {notes : List Note} {m : Note} {run : Nat}

@[simp] theorem frames_append (run : Nat) (notes more : List Note) :
    frames run (notes ++ more) = frames run notes ++ frames run more := List.filterMap_append

theorem frames_handed (run run' : Nat) (frame : DepthFrame) :
    frames run [.handed run' frame] = if run' = run then [frame] else [] := by
  by_cases h : run' = run <;> simp [frames, Note.frame?, h]

/-- Nothing has been handed over in between. -/
theorem frames_of_nameless {note : Option Note} (h : note.bind Note.run? = none)
    (notes : List Note) :
    (∀ run, frames run (notes ++ note.toList) = frames run notes) ∧
      handedRuns (notes ++ note.toList) = handedRuns notes := by
  cases note with
  | none => simp
  | some m =>
    cases m with
    | ending | stopped | closed => simp [frames, handedRuns, Note.frame?, Note.handedRun?]
    | started | handed => exact absurd h (by simp [Note.run?])

/-- The frames of a run are those that are noted for it. -/
theorem mem_frames {frame : DepthFrame} :
    frame ∈ frames run notes ↔ .handed run frame ∈ notes := by
  unfold frames
  rw [List.mem_filterMap]
  constructor
  · rintro ⟨m, hm, hframe⟩
    cases m with
    | handed run' frame' =>
      obtain ⟨rfl, rfl⟩ := by simpa [Note.frame?] using hframe
      exact hm
    | _ => exact absurd hframe (by simp [Note.frame?])
  · exact fun hm => ⟨_, hm, if_pos rfl⟩

/-- A run has handed a frame over if and only if one is noted for it. -/
theorem mem_handedRuns : run ∈ handedRuns notes ↔ ∃ frame, .handed run frame ∈ notes := by
  unfold handedRuns
  rw [List.mem_filterMap]
  constructor
  · rintro ⟨m, hm, hrun⟩
    cases m with
    | handed run' frame =>
      obtain rfl := Option.some.inj hrun
      exact ⟨frame, hm⟩
    | _ => exact absurd hrun (by simp [Note.handedRun?])
  · rintro ⟨frame, hm⟩
    exact ⟨_, hm, rfl⟩

/-- The last entry of a record, where the record is split: it is the entry at the split, or comes
    after it. -/
theorem concat_eq_append_cons {before after : List Note} {e : Note}
    (h : notes ++ [m] = before ++ e :: after) :
    notes = before ∧ m = e ∨ ∃ rest, after = rest ++ [m] ∧ notes = before ++ e :: rest := by
  rcases List.eq_nil_or_concat after with rfl | ⟨rest, a, rfl⟩
  · obtain ⟨rfl, he⟩ := List.append_inj' h rfl
    exact .inl ⟨rfl, List.head_eq_of_cons_eq he⟩
  · rw [List.concat_eq_append, ← List.cons_append, ← List.append_assoc] at h
    obtain ⟨hnotes, ha⟩ := List.append_inj' h rfl
    obtain rfl := List.head_eq_of_cons_eq ha
    exact .inr ⟨rest, List.concat_eq_append .., hnotes⟩

/-- A run that is under way has just been started, or was under way and nothing begins to end it. -/
theorem Underway.of_append {note : Option Note} (h : Underway run (notes ++ note.toList)) :
    note = some (.started run) ∨ note ≠ some .ending ∧ Underway run notes := by
  cases note with
  | none => exact .inr ⟨by simp, by simpa using h⟩
  | some m =>
    obtain ⟨before, after, hnotes, hafter⟩ := h
    rcases concat_eq_append_cons hnotes with ⟨-, hm⟩ | ⟨rest, rfl, hrest⟩
    · exact .inl (congrArg some hm)
    · simp only [List.mem_append, List.mem_singleton, not_or] at hafter
      exact .inr ⟨fun heq => hafter.2 (Option.some.inj heq).symm, before, rest, hrest, hafter.1⟩

/-- A run that has ended had ended before, or a stop or a close returns now. -/
theorem Retired.of_append {note : Option Note} (h : Retired run (notes ++ note.toList)) :
    Retired run notes ∨ note.any Note.returned = true ∧ .started run ∈ notes := by
  cases note with
  | none => exact .inl (by simpa using h)
  | some m =>
    obtain ⟨before, e, after, hnotes, he, hmem⟩ := h
    rcases concat_eq_append_cons hnotes with ⟨rfl, rfl⟩ | ⟨rest, -, hrest⟩
    · exact .inr ⟨he, hmem⟩
    · exact .inl ⟨before, e, rest, hrest, he, hmem⟩

/-- What is noted next breaks no silence if it is not a frame of a run that has ended. -/
theorem Silent.append (h : Silent notes) {note : Option Note}
    (hnote : ∀ run frame, note = some (.handed run frame) → ¬Retired run notes) :
    Silent (notes ++ note.toList) := by
  cases note with
  | none => simpa using h
  | some m =>
    intro before run frame after hnotes
    rcases concat_eq_append_cons hnotes with ⟨rfl, heq⟩ | ⟨rest, -, hrest⟩
    · exact hnote run frame (congrArg some heq)
    · exact h before run frame rest hrest

end

end Pacing

/-! ### Changes of the scene -/

namespace Relay

variable {w : Relay} {i p : Nat} {s : Scene}

/-- The source of a scene is that of its session. -/
theorem source?_of_scene? (hs : w.scene? i p = some s) : (w.session i).source? = s.source? := by
  obtain ⟨t, c, ht, -, rfl⟩ := scene?_eq_some.mp hs
  rw [session_eq ht]
  rfl

/-- Setting the source of the session sets that of the scene. -/
theorem scene?_setSource (hs : w.scene? i p = some s) (source : Option Source) :
    (w.setSource i source).scene? i p = some (s.withSource source) := by
  obtain ⟨t, c, ht, hc, rfl⟩ := scene?_eq_some.mp hs
  exact scene?_eq_some.mpr ⟨_, c, getElem?_modify_of_some ht, hc, rfl⟩

/-- The device object keeps up with its source, or has another one already. -/
theorem scene?_keepSource (hs : w.scene? i p = some s) (run : Nat) (source : Option Source) :
    (w.keepSource i run source).scene? i p = some (s.track run source) := by
  unfold keepSource Scene.track
  rw [source?_of_scene? hs]
  split
  · exact scene?_setSource hs source
  · exact hs

/-- A frame that is emitted counts in the scene. -/
theorem scene?_noteEmitted (hs : w.scene? i p = some s) :
    (w.noteEmitted p).scene? i p = some { s with emitted := s.emitted + 1 } := by
  obtain ⟨t, c, ht, hc, rfl⟩ := scene?_eq_some.mp hs
  exact scene?_eq_some.mpr ⟨t, _, ht, getElem?_modify_of_some hc, rfl⟩

end Relay

/-- Fixtures stay as they are while a frame is heard. -/
theorem Live.fixtures_hear (h : Handler σ) (t : ThreadId) (k : Nat) (points : List Point)
    (l : Live σ) : (l.hear h t k points).2.relay.fixtures = l.relay.fixtures := by
  unfold hear
  cases (l.relay.channel k).handoff with
  | some q => exact Relay.fixtures_submit _ k q points
  | none => exact fixtures_deliver h l t k points

theorem Relay.nextRun_keepSource (i run : Nat) (source : Option Source) (w : Relay) :
    (w.keepSource i run source).nextRun = w.nextRun := by
  unfold keepSource
  split <;> rfl

@[simp] theorem Scene.emitted_track (run : Nat) (source : Option Source) (s : Scene) :
    (s.track run source).emitted = s.emitted := by
  unfold track
  split <;> rfl

/-- A source that is set is there, if the session holds a camera. -/
theorem Scene.source?_withSource {s : Scene} (h : s.held.isSome = true) (source : Option Source) :
    (s.withSource source).source? = source := by
  obtain ⟨o, ho⟩ := Option.isSome_iff_exists.mp h
  simp [source?, withSource, ho]

/-- Only a session that holds a camera has a source. -/
theorem Scene.held_of_source? {s : Scene} {source : Source} (h : s.source? = some source) :
    s.held.isSome = true := by
  obtain ⟨o, ho, -⟩ := Option.bind_eq_some_iff.mp h
  exact Option.isSome_iff_exists.mpr ⟨o, ho⟩

/-! ### Steps of a source -/

namespace Pacing

/-- Everything that a step of a source can do to the scene. -/
inductive Runner.Moved (s : Scene) (r : Runner) : Option Note → Scene → Runner → Prop
  | stirred (stage : Stage) (alive : stage ≠ .finished) (clear : stage.served = [])
      (same : stage.upcoming = r.stage.upcoming) : Moved s r none s (r.goto stage)
  /-- The next frame is there. -/
  | produced (phase : Nat) (next : Source) (points : List Point)
      (wake : r.source.wake = some (phase, next)) (before : r.stage.upcoming = [])
      (full : points.length = s.profile.size) :
      Moved s r none (s.track r.source.run (some next))
        { r with source := next, stage := .looking points }
  /-- The frame is lost, since nobody wants it. -/
  | unheard (points : List Point) (before : r.stage.upcoming = [points])
      (why : s.capturing = false ∨ s.listener = none) : Moved s r none s (r.goto .checking)
  | handed (k : Nat) (points : List Point) (frame : DepthFrame)
      (before : r.stage.upcoming = [points]) (number : frame.sequence = s.emitted)
      (whole : frame.points = points) :
      Moved s r (some (.handed r.source.run frame)) { s with emitted := s.emitted + 1 }
        (r.goto (.serving k points))
  | left (before : r.stage.upcoming = []) (why : r.told = true ∨ r.source.wake = none) :
      Moved s r none (s.track r.source.run none) (r.goto .finished)

namespace Runner

variable {h : Handler σ} {i p : Nat} {r r' : Runner} {l l' : Live σ} {note : Option Note}
  {s : Scene}

/-- **A step of a source.** -/
theorem moved_of_step? (hreturns : h.Returns) (hsize : s.profile.size < UInt32.size)
    (hs : l.relay.scene? i p = some s) (hstep : r.step? h i p l = some (note, r', l')) :
    ∃ s', l'.relay.scene? i p = some s' ∧ l'.relay.nextRun = l.relay.nextRun ∧
      r.Moved s note s' r' := by
  obtain ⟨t, c, ht, hc, hof⟩ := Relay.scene?_eq_some.mp hs
  have hleave (hbefore : r.stage.upcoming = []) (hwhy : r.told = true ∨ r.source.wake = none)
      (hstep : some (none, r.leave i l) = some (note, r', l')) :
      ∃ s', l'.relay.scene? i p = some s' ∧ l'.relay.nextRun = l.relay.nextRun ∧
        r.Moved s note s' r' := by
    obtain ⟨rfl, hleft⟩ := Prod.mk.inj (Option.some.inj hstep)
    obtain ⟨rfl, rfl⟩ := Prod.mk.inj hleft
    exact ⟨_, Relay.scene?_keepSource hs _ _, Relay.nextRun_keepSource .., .left hbefore hwhy⟩
  unfold step? at hstep
  cases hstage : r.stage with
  | checking =>
    simp only [hstage] at hstep
    split at hstep
    · next htold => exact hleave (hstage ▸ rfl) (.inl htold) hstep
    · obtain ⟨rfl, rfl, rfl⟩ := by simpa using hstep
      exact ⟨s, hs, rfl, .stirred _ (by simp) rfl (hstage ▸ rfl)⟩
  | sleeping =>
    simp only [hstage] at hstep
    split at hstep
    · obtain ⟨rfl, rfl, rfl⟩ := by simpa using hstep
      exact ⟨s, hs, rfl, .stirred _ (by simp) rfl (hstage ▸ rfl)⟩
    · next hcut => exact hleave (hstage ▸ rfl) (.inl (by simpa [sleepCompletes] using hcut)) hstep
  | awake =>
    simp only [hstage, hc] at hstep
    cases hwake : r.source.wake with
    | none => exact hleave (hstage ▸ rfl) (.inr hwake) (by simpa only [hwake] using hstep)
    | some made =>
      obtain ⟨phase, next⟩ := made
      have hprofile : s.profile = c.profile := hof ▸ rfl
      obtain ⟨points, hpoints, hfull⟩ :=
        CameraProfile.syntheticPoints_ok (hprofile ▸ hsize) phase
      simp only [hwake, hpoints, Option.some.injEq, Prod.mk.injEq] at hstep
      obtain ⟨rfl, rfl, rfl⟩ := hstep
      exact ⟨_, Relay.scene?_keepSource hs _ _, Relay.nextRun_keepSource ..,
        .produced phase next points hwake (hstage ▸ rfl) (hprofile ▸ hfull)⟩
  | looking points =>
    simp only [hstage, hc, Option.any_some, Option.some.injEq, Prod.mk.injEq] at hstep
    obtain ⟨rfl, rfl, rfl⟩ := hstep
    refine ⟨s, hs, rfl, ?_⟩
    cases hcapturing : c.capturing with
    | true => exact .stirred _ (by simp) rfl (hstage ▸ rfl)
    | false => exact .unheard points (hstage ▸ rfl) (.inl (hof ▸ hcapturing))
  | finding points =>
    simp only [hstage, hc, Option.bind_some, Option.some.injEq, Prod.mk.injEq] at hstep
    obtain ⟨rfl, rfl, rfl⟩ := hstep
    refine ⟨s, hs, rfl, ?_⟩
    cases hlistener : c.listener with
    | some k => exact .stirred _ (by simp) rfl (hstage ▸ rfl)
    | none => exact .unheard points (hstage ▸ rfl) (.inr (hof ▸ hlistener))
  | numbering k points =>
    simp only [hstage, hc, Option.map_some, Option.some.injEq, Prod.mk.injEq] at hstep
    obtain ⟨rfl, rfl, rfl⟩ := hstep
    exact ⟨_, Relay.scene?_noteEmitted hs, rfl,
      .handed k points _ (hstage ▸ rfl) (hof ▸ rfl) rfl⟩
  | serving k points =>
    -- A delivery changes channels, hosts and counts, none of which is in the scene.
    have hserved := step?_serving hreturns i p hstage l
    unfold step? at hserved
    rw [hserved] at hstep
    obtain ⟨rfl, rfl, rfl⟩ := by simpa using hstep
    have hkept := l.fixtures_hear h (.source r.source.run) k points
    exact ⟨s, (Relay.scene?_of_fixtures hkept).trans hs, congrArg Fixtures.nextRun hkept,
      .stirred _ (by simp) rfl (hstage ▸ rfl)⟩
  | finished => simp [hstage] at hstep

end Runner

/-! ### What holds between two steps -/

/-- A session whose caller is not at work on it. -/
structure Settled (s : Scene) : Prop where
  closed_iff : s.state = .closed ↔ s.held = none
  capturing_iff : s.capturing = true ↔ s.state = .capturing
  heard : s.state ≠ .closed → s.listener.isSome = true
  sourceless : s.state ≠ .capturing → s.source? = none

/-- A session whose run is being ended holds the camera, which has gone quiet if the session is only
    to be stopped. -/
def Ending.Fits (s : Scene) (e : Ending) : Prop :=
  s.held.isSome = true ∧ (e = .stop → s.capturing = false ∧ s.listener.isSome = true)

/-- What the scene is like when the caller is so far. -/
def Phase.Fits (s : Scene) : Phase → Prop
  | .idle => Settled s
  | .silenced e => e.Fits s
  | .joining e _ => s.source? = none ∧ e.Fits s
  | .unhearing | .shutting | .draining => s.held.isSome = true

/-- A caller that does nothing leaves the scene settled. -/
theorem Phase.Fits.settled {s : Scene} {caller : Phase} (h : caller.Fits s)
    (hidle : caller = .idle) : Settled s := by
  subst hidle
  exact h

/-- A source that runs is held by the device object of the session, or the caller waits for it. -/
def Owned (s : Scene) (caller : Phase) (run : Nat) (r : Runner) : Prop :=
  s.source? = some r.source ∧ r.told = false ∨ r.told = true ∧ ∃ e, caller = .joining e run

/-- A source with limit `n` has produced the frames that it has handed over, and maybe more. -/
structure Tallied (n size emitted : Nat) (handed : List DepthFrame) (source : Source)
    (stage : Stage) : Prop where
  limit : source.limit = some n
  bounded : source.produced ≤ n
  produced : handed.length + stage.upcoming.length ≤ source.produced
  full : ∀ frame ∈ handed, frame.points.length = size
  upcoming : ∀ points ∈ stage.upcoming, points.length = size
  consecutive : ∃ a, handed.map (·.sequence) = List.range' a handed.length ∧
    (stage ≠ .finished → a + handed.length = emitted)

/-- Nothing that the source has produced is lost, and it ends only at its limit. -/
structure Exact (n : Nat) (handed : List DepthFrame) (source : Source) (stage : Stage) : Prop where
  produced : handed.length + stage.upcoming.length = source.produced
  finished : stage = .finished → source.produced = n

/-- What holds of a source that the session has started; the next one gets the identity `next`. -/
structure Enrolled (n : Nat) (notes : List Note) (s : Scene) (next : Nat) (caller : Phase)
    (run : Nat) (r : Runner) : Prop where
  run_eq : r.source.run = run
  below : run < next
  owned : r.stage ≠ .finished → Owned s caller run r
  tallied : Tallied n s.profile.size s.emitted (frames run notes) r.source r.stage

/-- What holds between two steps.  The session has the camera at place `p`, which has a limit of `n`
    frames. -/
structure Regular (p n : Nat) (profile : CameraProfile) (notes : List Note) (s : Scene) (next : Nat)
    (runners : Nat → Option Runner) (caller : Phase) : Prop where
  profile_eq : s.profile = profile
  place : ∀ o, s.held = some o → o.device.camera = p
  fits : caller.Fits s
  crew : ∀ run r, runners run = some r → Enrolled n notes s next caller run r
  /-- Only the source that was started last can run. -/
  latest : ∀ run r, runners run = some r → r.stage ≠ .finished →
    ∀ run' r', runners run' = some r' → run' ≤ run
  recorded : ∀ m ∈ notes, ∀ run, m.run? = some run → ∃ r, runners run = some r
  ordered : (handedRuns notes).Pairwise (· ≤ ·)
  clean : ∀ run, Underway run notes → caller = .idle ∧ s.state = .capturing ∧
    ∃ r, runners run = some r ∧ Exact n (frames run notes) r.source r.stage
  retired : ∀ run, Retired run notes → ∃ r, runners run = some r ∧ r.stage = .finished
  silent : Silent notes

/-! ### What a step of a source preserves -/

section

variable {n next : Nat} {notes : List Note} {s s' : Scene} {caller : Phase} {note : Option Note}
  {run : Nat} {r r' : Runner}

/-- All that a source can change about the scene is itself and the number of frames. -/
structure Follows (s s' : Scene) : Prop where
  state : s'.state = s.state
  profile : s'.profile = s.profile
  listener : s'.listener = s.listener
  capturing : s'.capturing = s.capturing
  held : s'.held.map (·.device.camera) = s.held.map (·.device.camera)
  sourceless : s.source? = none → s'.source? = none

/-- A source that goes on, or ends, changes nothing else of the scene. -/
theorem follows_track (run : Nat) (source : Option Source) (s : Scene) :
    Follows s (s.track run source) := by
  unfold Scene.track
  split
  · next hheld =>
    refine ⟨rfl, rfl, rfl, rfl, ?_, fun hnone => absurd hheld (by simp [hnone])⟩
    simp [Scene.withSource, Function.comp_def]
  · exact ⟨rfl, rfl, rfl, rfl, rfl, id⟩

theorem Follows.held_eq_none (h : Follows s s') : s'.held = none ↔ s.held = none := by
  rw [← Option.map_eq_none_iff, h.held, Option.map_eq_none_iff]

/-- A session holds a camera as before. -/
theorem Follows.held_isSome (h : Follows s s') (hs : s.held.isSome = true) :
    s'.held.isSome = true := by
  rw [Option.isSome_iff_ne_none] at hs ⊢
  exact fun hnone => hs (h.held_eq_none.mp hnone)

/-- An ending still fits. -/
theorem Ending.Fits.follow {e : Ending} (h : Follows s s') (hs : e.Fits s) : e.Fits s' := by
  refine ⟨h.held_isSome hs.1, ?_⟩
  rw [h.capturing, h.listener]
  exact hs.2

/-- What the caller is at fits the scene as long as a source only goes on. -/
theorem Phase.Fits.follow (h : Follows s s') (hs : caller.Fits s) : caller.Fits s' := by
  cases caller with
  | idle =>
    refine ⟨?_, ?_, ?_, ?_⟩
    · rw [h.state, h.held_eq_none]
      exact hs.closed_iff
    · rw [h.state, h.capturing]
      exact hs.capturing_iff
    · rw [h.state, h.listener]
      exact hs.heard
    · rw [h.state]
      exact fun hstate => h.sourceless (hs.sourceless hstate)
  | silenced e => exact hs.follow h
  | joining e run => exact ⟨h.sourceless hs.1, hs.2.follow h⟩
  | unhearing | shutting | draining => exact h.held_isSome hs

namespace Runner.Moved

/-- A step leaves a scene that follows the one before. -/
theorem follows (h : r.Moved s note s' r') : Follows s s' := by
  cases h with
  | stirred | unheard | handed => exact ⟨rfl, rfl, rfl, rfl, rfl, id⟩
  | produced | left => exact follows_track _ _ s

/-- A step belongs to the run that its source belongs to. -/
theorem run_eq (h : r.Moved s note s' r') : r'.source.run = r.source.run := by
  cases h with
  | produced phase next points wake =>
    obtain ⟨-, -, rfl⟩ := Source.wake_eq_some.mp wake
    rfl
  | stirred | unheard | handed | left => rfl

/-- A source notes frames of its own run only. -/
theorem note_cases (h : r.Moved s note s' r') :
    note = none ∨ ∃ frame, note = some (.handed r.source.run frame) := by
  cases h with
  | handed k points frame => exact .inr ⟨frame, rfl⟩
  | stirred | produced | unheard | left => exact .inl rfl

/-- A source has a frame on its way to the listener exactly when it has just handed it over. -/
theorem served (h : r.Moved s note s' r') :
    r'.stage.served = (frames r.source.run note.toList).map (·.points) := by
  cases h with
  | stirred stage alive clear same => exact clear
  | handed k points frame before number whole =>
    rw [Option.toList_some, frames_handed, if_pos rfl, List.map_singleton, whole]
    rfl
  | produced | unheard | left => rfl

/-- Nothing is noted about other runs, nor about the beginning or the end of one. -/
theorem frames_of_ne (h : r.Moved s note s' r') (hne : run ≠ r.source.run) :
    frames run (notes ++ note.toList) = frames run notes := by
  rcases h.note_cases with rfl | ⟨frame, rfl⟩
  · simp
  · rw [Option.toList_some, frames_append, frames_handed, if_neg hne.symm, List.append_nil]

/-- A run is under way before a note if it is afterwards. -/
theorem underway (h : r.Moved s note s' r') (hrun : Underway run (notes ++ note.toList)) :
    Underway run notes := by
  rcases hrun.of_append with hstarted | ⟨-, hold⟩
  · rcases h.note_cases with rfl | ⟨frame, rfl⟩ <;> exact absurd hstarted (by simp)
  · exact hold

/-- It is retired before, too. -/
theorem retired (h : r.Moved s note s' r') (hrun : Retired run (notes ++ note.toList)) :
    Retired run notes := by
  rcases hrun.of_append with hold | ⟨hnow, -⟩
  · exact hold
  · rcases h.note_cases with rfl | ⟨frame, rfl⟩ <;> exact absurd hnow (by simp [Note.returned])

/-- A source that runs stays the one that the device object has, or the one that the caller waits
    for. -/
theorem owned (h : r.Moved s note s' r') (hr : Owned s caller r.source.run r)
    (halive : r'.stage ≠ .finished) : Owned s' caller r.source.run r' := by
  cases h with
  | stirred | unheard | handed => exact hr
  | produced phase next points wake =>
    rcases hr with ⟨hheld, htold⟩ | hwaited
    · -- The device object keeps up with the source that it holds.
      refine .inl ⟨?_, htold⟩
      rw [Scene.track, hheld, if_pos (by simp)]
      exact Scene.source?_withSource (Scene.held_of_source? hheld) _
    · exact .inr hwaited
  | left => exact absurd rfl halive

/-- **A step of a source keeps the tally.** -/
theorem tallied (h : r.Moved s note s' r') (halive : r.stage ≠ .finished)
    (hr : Tallied n s.profile.size s.emitted (frames r.source.run notes) r.source r.stage) :
    Tallied n s.profile.size s'.emitted (frames r.source.run (notes ++ note.toList)) r'.source
      r'.stage := by
  have hsum := hr.produced
  obtain ⟨a, hnumbers, hlast⟩ := hr.consecutive
  have hemitted := hlast halive
  cases h with
  | stirred stage alive clear same =>
    rw [Option.toList_none, List.append_nil]
    exact ⟨hr.limit, hr.bounded, same ▸ hsum, hr.full, same ▸ hr.upcoming,
      a, hnumbers, fun _ => hemitted⟩
  | produced phase next points wake before full =>
    obtain ⟨hlimit, -, rfl⟩ := Source.wake_eq_some.mp wake
    rw [hr.limit, Option.any_some, decide_eq_false_iff_not, Nat.not_le] at hlimit
    rw [Option.toList_none, List.append_nil]
    refine ⟨hr.limit, hlimit, ?_, hr.full, ?_, a, hnumbers, fun _ => ?_⟩
    · rw [before] at hsum
      exact Nat.succ_le_succ hsum
    · intro points' hmem
      rw [List.mem_singleton.mp hmem]
      exact full
    · rw [Scene.emitted_track]
      exact hemitted
  | unheard points before why =>
    -- A lost frame counts as produced, so that the tally is an inequality from here on.
    rw [Option.toList_none, List.append_nil]
    refine ⟨hr.limit, hr.bounded, Nat.le_trans ?_ hsum, hr.full, fun _ hmem => ?_, a, hnumbers,
      fun _ => hemitted⟩
    · exact Nat.add_le_add_left (Nat.zero_le _) _
    · exact absurd hmem List.not_mem_nil
  | handed k points frame before number whole =>
    rw [before, List.length_singleton] at hsum
    rw [Option.toList_some, frames_append, frames_handed, if_pos rfl]
    refine ⟨hr.limit, hr.bounded, ?_, ?_, fun _ hmem => absurd hmem List.not_mem_nil, a, ?_, ?_⟩
    · rw [List.length_append, List.length_singleton]
      exact hsum
    · intro frame' hmem
      rcases List.mem_append.mp hmem with hold | hnew
      · exact hr.full frame' hold
      · rw [List.mem_singleton.mp hnew, whole]
        exact hr.upcoming points (before ▸ List.mem_singleton_self points)
    · rw [List.map_append, hnumbers, List.length_append, List.length_singleton,
        List.range'_1_concat, hemitted, ← number]
      rfl
    · intro _
      rw [List.length_append, List.length_singleton, ← Nat.add_assoc, hemitted]
  | left before why =>
    rw [before] at hsum
    rw [Option.toList_none, List.append_nil]
    exact ⟨hr.limit, hr.bounded, hsum, hr.full, fun _ hmem => absurd hmem List.not_mem_nil,
      a, hnumbers, fun h => absurd rfl h⟩

/-- **As long as a run is under way, no frame is lost**, since the camera captures and has a
    listener, and the source is not told to stop. -/
theorem exact (h : r.Moved s note s' r') (hlimit : r.source.limit = some n)
    (hbounded : r.source.produced ≤ n) (hcapturing : s.capturing = true)
    (hheard : s.listener.isSome = true) (htold : r.told = false)
    (hr : Exact n (frames r.source.run notes) r.source r.stage) :
    Exact n (frames r.source.run (notes ++ note.toList)) r'.source r'.stage := by
  have hsum := hr.produced
  cases h with
  | stirred stage alive clear same =>
    rw [Option.toList_none, List.append_nil]
    exact ⟨same ▸ hsum, fun h => absurd h alive⟩
  | produced phase next points wake before full =>
    obtain ⟨-, -, rfl⟩ := Source.wake_eq_some.mp wake
    rw [before] at hsum
    rw [Option.toList_none, List.append_nil]
    exact ⟨congrArg (· + 1) hsum, fun h => absurd h (by simp)⟩
  | unheard points before why =>
    rcases why with hsilent | hnobody
    · exact absurd hcapturing (by simp [hsilent])
    · exact absurd hheard (by simp [hnobody])
  | handed k points frame before number whole =>
    rw [before, List.length_singleton] at hsum
    rw [Option.toList_some, frames_append, frames_handed, if_pos rfl]
    refine ⟨?_, fun h => absurd h (by simp [goto])⟩
    rw [List.length_append, List.length_singleton]
    exact hsum
  | left before why =>
    rw [before] at hsum
    rw [Option.toList_none, List.append_nil]
    refine ⟨hsum, fun _ => ?_⟩
    rcases why with hstop | hwake
    · exact absurd hstop (by simp [htold])
    · -- The source has reached its limit, and cannot have gone beyond it.
      have hreached : n ≤ r.source.produced := by simpa [Source.wake, hlimit] using hwake
      exact Nat.le_antisymm hbounded hreached

/-- A source stays what it is. -/
theorem enrolled (h : r.Moved s note s' r') (halive : r.stage ≠ .finished)
    (hr : Enrolled n notes s next caller r.source.run r) :
    Enrolled n (notes ++ note.toList) s' next caller r.source.run r' where
  run_eq := h.run_eq
  below := hr.below
  owned := h.owned (hr.owned halive)
  tallied := by
    rw [h.follows.profile]
    exact h.tallied halive hr.tallied

end Runner.Moved

/-- A source that has ended does not mind what happens. -/
theorem Enrolled.retire {more : List Note} {next' : Nat} {caller' : Phase}
    (hr : Enrolled n notes s next caller run r) (hfinished : r.stage = .finished)
    (hprofile : s'.profile = s.profile) (hframes : frames run more = frames run notes)
    (hnext : next ≤ next') : Enrolled n more s' next' caller' run r where
  run_eq := hr.run_eq
  below := Nat.lt_of_lt_of_le hr.below hnext
  owned halive := absurd hfinished halive
  tallied := by
    obtain ⟨a, hnumbers, -⟩ := hr.tallied.consecutive
    rw [hprofile, hframes]
    exact { hr.tallied with
      consecutive := ⟨a, hnumbers, fun halive => absurd hfinished halive⟩ }

end

/-! ### The sources of a session -/

section

variable {runners : Nat → Option Runner} {run run' : Nat} {r r' : Runner}

/-- One source has become another. -/
theorem update_eq_some (h : Function.update runners run (some r) run' = some r') :
    run' = run ∧ r' = r ∨ run' ≠ run ∧ runners run' = some r' := by
  by_cases heq : run' = run
  · subst heq
    rw [Function.update_self] at h
    exact .inl ⟨rfl, (Option.some.inj h).symm⟩
  · rw [Function.update_of_ne heq] at h
    exact .inr ⟨heq, h⟩

/-- Whoever was there is there after a change. -/
theorem exists_update (run : Nat) (r : Runner) (h : ∃ r', runners run' = some r') :
    ∃ r', Function.update runners run (some r) run' = some r' := by
  by_cases heq : run' = run
  · exact ⟨r, heq ▸ Function.update_self ..⟩
  · rwa [Function.update_of_ne heq]

/-- The sources are the same, but for what they have been told. -/
def Alike (runners runners' : Nat → Option Runner) : Prop :=
  ∀ run, (runners' run).map (fun r => (r.source, r.stage)) =
    (runners run).map fun r => (r.source, r.stage)

theorem Alike.refl (runners : Nat → Option Runner) : Alike runners runners := fun _ => rfl

theorem Alike.symm {runners' : Nat → Option Runner} (h : Alike runners runners') :
    Alike runners' runners := fun run => (h run).symm

/-- Sources that are alike are there together. -/
theorem Alike.exists {runners' : Nat → Option Runner} (h : Alike runners runners')
    (hr : runners run = some r) :
    ∃ r', runners' run = some r' ∧ r'.source = r.source ∧ r'.stage = r.stage := by
  have hsame := h run
  rw [hr, Option.map_some] at hsame
  obtain ⟨r', hr', heq⟩ := Option.map_eq_some_iff.mp hsame
  exact ⟨r', hr', Prod.mk.inj heq⟩

end

namespace Regular

variable {p n : Nat} {profile : CameraProfile} {notes : List Note} {s s' : Scene} {next next' : Nat}
  {runners runners' : Nat → Option Runner} {caller caller' : Phase} {note : Option Note} {run : Nat}
  {r r' : Runner}

/-- At most one source is alive. -/
theorem alone (hx : Regular p n profile notes s next runners caller) (hr : runners run = some r)
    (halive : r.stage ≠ .finished) {run' : Nat} (hr' : runners run' = some r')
    (halive' : r'.stage ≠ .finished) : run' = run :=
  Nat.le_antisymm (hx.latest run r hr halive run' r' hr') (hx.latest run' r' hr' halive' run r hr)

/-- A run that has no source has no frames. -/
theorem frames_eq_nil (hx : Regular p n profile notes s next runners caller)
    (hrun : runners run = none) : frames run notes = [] := by
  refine List.eq_nil_iff_forall_not_mem.mpr fun frame hframe => ?_
  obtain ⟨r, hr⟩ := hx.recorded _ (mem_frames.mp hframe) run rfl
  exact absurd hr (by simp [hrun])

/-- A source that runs is held by the device object, unless the caller waits for it. -/
theorem held (hx : Regular p n profile notes s next runners caller)
    (hcaller : ∀ e run, caller ≠ .joining e run) (hr : runners run = some r)
    (halive : r.stage ≠ .finished) : s.source? = some r.source ∧ r.told = false := by
  rcases (hx.crew run r hr).owned halive with hheld | ⟨-, e, hjoining⟩
  · exact hheld
  · exact absurd hjoining (hcaller e run)

/-- As long as the device object keeps its source, no source that runs is let go. -/
theorem kept (hx : Regular p n profile notes s next runners caller)
    (hcaller : ∀ e run, caller ≠ .joining e run) (hsame : s'.source? = s.source?) (run : Nat)
    (r : Runner) (hr : runners run = some r) (halive : r.stage ≠ .finished) :
    Owned s' caller' run r := by
  obtain ⟨hheld, htold⟩ := hx.held hcaller hr halive
  exact .inl ⟨hsame.trans hheld, htold⟩

/-- All sources have ended if the device object has none and the caller waits for none. -/
theorem ended (hx : Regular p n profile notes s next runners caller) (hsource : s.source? = none)
    (hwaited : ∀ e run r, caller = .joining e run → runners run = some r → r.stage = .finished)
    (hr : runners run = some r) : r.stage = .finished := by
  refine by_contra fun halive => ?_
  rcases (hx.crew run r hr).owned halive with ⟨hheld, -⟩ | ⟨-, e, hjoining⟩
  · exact absurd hheld (by simp [hsource])
  · exact halive (hwaited e run r hjoining hr)

/-- All sources have ended while nothing is being done and the session does not capture. -/
theorem ended_of_idle (hx : Regular p n profile notes s next runners caller)
    (hidle : caller = .idle) (hstate : s.state ≠ .capturing) (hr : runners run = some r) :
    r.stage = .finished :=
  hx.ended ((hx.fits.settled hidle).sourceless hstate)
    (fun _ _ _ h => absurd (hidle.symm.trans h) (by simp)) hr

/-- Sources that run do not belong to runs that have ended. -/
theorem not_retired (hx : Regular p n profile notes s next runners caller)
    (hr : runners run = some r) (halive : r.stage ≠ .finished) : ¬Retired run notes := by
  intro hretired
  obtain ⟨r', hr', hfinished⟩ := hx.retired run hretired
  exact halive (Option.some.inj (hr.symm.trans hr') ▸ hfinished)

/-! #### A step of a source -/

/-- A frame is in the run that was started last. -/
theorem ordered_advance (hx : Regular p n profile notes s next runners caller)
    (hr : runners r.source.run = some r) (halive : r.stage ≠ .finished)
    (hmoved : r.Moved s note s' r') : (handedRuns (notes ++ note.toList)).Pairwise (· ≤ ·) := by
  rcases hmoved.note_cases with rfl | ⟨frame, rfl⟩
  · simpa using hx.ordered
  · unfold handedRuns
    rw [List.filterMap_append, List.pairwise_append]
    refine ⟨hx.ordered, List.pairwise_singleton _ _, fun run' hmem run'' hlast => ?_⟩
    obtain ⟨frame', hmem'⟩ := mem_handedRuns.mp hmem
    obtain ⟨r₁, hr₁⟩ := hx.recorded _ hmem' run' rfl
    rw [List.mem_singleton.mp hlast]
    exact hx.latest _ r hr halive run' r₁ hr₁

/-- A run that is under way loses no frame. -/
theorem exact_advance (hx : Regular p n profile notes s next runners caller)
    (hr : runners r.source.run = some r) (halive : r.stage ≠ .finished)
    (hmoved : r.Moved s note s' r') (hunderway : Underway r.source.run notes) :
    Exact n (frames r.source.run (notes ++ note.toList)) r'.source r'.stage := by
  obtain ⟨hidle, hstate, r₁, hr₁, hexact⟩ := hx.clean _ hunderway
  obtain rfl := Option.some.inj (hr.symm.trans hr₁)
  have hsettled := hx.fits.settled hidle
  have htold := (hx.held (fun _ _ h => by simp [hidle] at h) hr halive).2
  have htally := (hx.crew _ r hr).tallied
  exact hmoved.exact htally.limit htally.bounded (hsettled.capturing_iff.mpr hstate)
    (hsettled.heard (by simp [hstate])) htold hexact

/-- **A step of a source.** -/
theorem advance (hx : Regular p n profile notes s next runners caller) (hr : runners run = some r)
    (halive : r.stage ≠ .finished) (hmoved : r.Moved s note s' r') :
    Regular p n profile (notes ++ note.toList) s' next (Function.update runners run (some r'))
      caller := by
  obtain rfl := (hx.crew run r hr).run_eq
  have hfollows := hmoved.follows
  -- The other sources have ended.
  have hended {run' : Nat} {r₁ : Runner} (hne : run' ≠ r.source.run)
      (h : runners run' = some r₁) : r₁.stage = .finished :=
    by_contra fun halive' => hne (hx.alone hr halive h halive')
  refine
    { profile_eq := hfollows.profile.trans hx.profile_eq
      place := ?place
      fits := hx.fits.follow hfollows
      crew := ?crew
      latest := ?latest
      recorded := ?recorded
      ordered := hx.ordered_advance hr halive hmoved
      clean := ?clean
      retired := ?retired
      silent := hx.silent.append ?silent }
  case place =>
    intro o ho
    have hplace := hfollows.held
    rw [ho, Option.map_some] at hplace
    obtain ⟨o', ho', hsame⟩ := Option.map_eq_some_iff.mp hplace.symm
    exact hsame ▸ hx.place o' ho'
  case crew =>
    intro run' r₁ h
    rcases update_eq_some h with ⟨rfl, rfl⟩ | ⟨hne, h⟩
    · exact hmoved.enrolled halive (hx.crew _ r hr)
    · exact (hx.crew run' r₁ h).retire (hended hne h) hfollows.profile (hmoved.frames_of_ne hne)
        (Nat.le_refl next)
  case latest =>
    -- Whatever still runs is the source that has taken the step.
    intro run' r₁ h halive' run'' r₂ h'
    rcases update_eq_some h with ⟨rfl, rfl⟩ | ⟨hne, h⟩
    · rcases update_eq_some h' with ⟨rfl, -⟩ | ⟨-, h'⟩
      · exact Nat.le_refl _
      · exact hx.latest _ r hr halive run'' r₂ h'
    · exact absurd (hended hne h) halive'
  case recorded =>
    intro m hm run' hrun
    rcases List.mem_append.mp hm with hold | hnew
    · exact exists_update _ r' (hx.recorded m hold run' hrun)
    · rw [Option.mem_toList] at hnew
      rcases hmoved.note_cases with rfl | ⟨frame, rfl⟩
      · exact absurd hnew (by simp)
      · obtain rfl := Option.some.inj hnew
        obtain rfl := Option.some.inj hrun
        exact ⟨r', Function.update_self ..⟩
  case clean =>
    intro run' hunderway
    have hunderway := hmoved.underway hunderway
    obtain ⟨hidle, hstate, r₁, hr₁, hexact⟩ := hx.clean run' hunderway
    refine ⟨hidle, hfollows.state.trans hstate, ?_⟩
    by_cases heq : run' = r.source.run
    · subst heq
      exact ⟨r', Function.update_self .., hx.exact_advance hr halive hmoved hunderway⟩
    · rw [Function.update_of_ne heq, hmoved.frames_of_ne heq]
      exact ⟨r₁, hr₁, hexact⟩
  case retired =>
    -- A run that has ended is not the one that the source is in.
    intro run' hretired
    have hretired := hmoved.retired hretired
    have hne : run' ≠ r.source.run := by
      rintro rfl
      exact hx.not_retired hr halive hretired
    rw [Function.update_of_ne hne]
    exact hx.retired run' hretired
  case silent =>
    intro run' frame hnote
    rcases hmoved.note_cases with rfl | ⟨frame', rfl⟩
    · exact absurd hnote (by simp)
    · obtain ⟨rfl, -⟩ := Note.handed.inj (Option.some.inj hnote)
      exact hx.not_retired hr halive

/-! #### A move of the caller -/

/-- **A move of the caller**, a start apart, or something that goes on elsewhere.  All that it can
    do to a source is to tell it to stop. -/
theorem call (hx : Regular p n profile notes s next runners caller)
    (halike : Alike runners runners') (hprofile : s'.profile = s.profile)
    (hplace : ∀ o, s'.held = some o → o.device.camera = p)
    (hfits : caller'.Fits s') (hemitted : s'.emitted = s.emitted) (hnext : next ≤ next')
    (howned : ∀ run r, runners' run = some r → r.stage ≠ .finished → Owned s' caller' run r)
    (hnote : note.bind Note.run? = none)
    (hclean : note ≠ some .ending → caller = .idle → s.state = .capturing →
      caller' = .idle ∧ s'.state = .capturing)
    (hreturned : note.any Note.returned = true →
      ∀ run r, runners run = some r → r.stage = .finished) :
    Regular p n profile (notes ++ note.toList) s' next' runners' caller' := by
  -- The note names no run, so that the frames and runs on record are the old ones.
  obtain ⟨hframes, hruns⟩ := frames_of_nameless hnote notes
  refine
    { profile_eq := hprofile.trans hx.profile_eq
      place := hplace
      fits := hfits
      crew := ?crew
      latest := ?latest
      recorded := ?recorded
      ordered := hruns ▸ hx.ordered
      clean := ?clean
      retired := ?retired
      silent := hx.silent.append ?silent }
  case crew =>
    -- Sources are as they were, up to being told to stop.
    intro run r hr
    obtain ⟨r₀, hr₀, hsource, hstage⟩ := halike.symm.exists hr
    have hold := hx.crew run r₀ hr₀
    refine ⟨hsource ▸ hold.run_eq, Nat.lt_of_lt_of_le hold.below hnext, howned run r hr, ?_⟩
    rw [hframes, hprofile, hemitted, ← hsource, ← hstage]
    exact hold.tallied
  case latest =>
    intro run r hr halive run' r' hr'
    obtain ⟨r₀, hr₀, -, hstage⟩ := halike.symm.exists hr
    obtain ⟨r₁, hr₁, -⟩ := halike.symm.exists hr'
    exact hx.latest run r₀ hr₀ (hstage ▸ halive) run' r₁ hr₁
  case recorded =>
    intro m hm run hrun
    rcases List.mem_append.mp hm with hold | hnew
    · obtain ⟨r₀, hr₀⟩ := hx.recorded m hold run hrun
      obtain ⟨r, hr, -⟩ := halike.exists hr₀
      exact ⟨r, hr⟩
    · rw [Option.mem_toList] at hnew
      rw [hnew, Option.bind_some, hrun] at hnote
      exact absurd hnote (by simp)
  case clean =>
    intro run hunderway
    -- The run under way is an old one: what begins now would be named in the note.
    rcases hunderway.of_append with rfl | ⟨hending, hunderway⟩
    · exact absurd hnote (by simp [Note.run?])
    · obtain ⟨hidle, hstate, r₀, hr₀, hexact⟩ := hx.clean run hunderway
      obtain ⟨hidle', hstate'⟩ := hclean hending hidle hstate
      obtain ⟨r, hr, hsource, hstage⟩ := halike.exists hr₀
      refine ⟨hidle', hstate', r, hr, ?_⟩
      rwa [hframes, hsource, hstage]
  case retired =>
    intro run hretired
    rcases hretired.of_append with hretired | ⟨hnow, hmem⟩
    · obtain ⟨r₀, hr₀, hfinished⟩ := hx.retired run hretired
      obtain ⟨r, hr, -, hstage⟩ := halike.exists hr₀
      exact ⟨r, hr, hstage.trans hfinished⟩
    · -- The note says that a stop or close has returned, and by then all sources have ended.
      obtain ⟨r₀, hr₀⟩ := hx.recorded _ hmem run rfl
      obtain ⟨r, hr, -, hstage⟩ := halike.exists hr₀
      exact ⟨r, hr, hstage.trans (hreturned hnow run r₀ hr₀)⟩
  case silent =>
    intro run frame heq
    rw [heq] at hnote
    exact absurd hnote (by simp [Note.run?])

/-- Such a move, if nothing is noted about it. -/
theorem unnoted (hx : Regular p n profile notes s next runners caller)
    (halike : Alike runners runners') (hprofile : s'.profile = s.profile)
    (hplace : ∀ o, s'.held = some o → o.device.camera = p) (hfits : caller'.Fits s')
    (hemitted : s'.emitted = s.emitted) (hnext : next ≤ next')
    (howned : ∀ run r, runners' run = some r → r.stage ≠ .finished → Owned s' caller' run r)
    (hclean : caller = .idle → s.state = .capturing → caller' = .idle ∧ s'.state = .capturing) :
    Regular p n profile notes s' next' runners' caller' := by
  have h := hx.call halike hprofile hplace hfits hemitted hnext howned
    (show (none : Option Note).bind Note.run? = none from rfl) (fun _ => hclean)
    fun h => absurd h (by simp)
  rwa [Option.toList_none, List.append_nil] at h

/-- A move of a caller that is at something and waits for no source, and that leaves the device
    object as it is. -/
theorem goOn (hx : Regular p n profile notes s next runners caller) (hbusy : caller ≠ .idle)
    (hcaller : ∀ e run, caller ≠ .joining e run) (hprofile : s'.profile = s.profile)
    (hheld : s'.held = s.held) (hfits : caller'.Fits s') (hemitted : s'.emitted = s.emitted) :
    Regular p n profile notes s' next runners caller' :=
  hx.unnoted (.refl _) hprofile (hheld ▸ hx.place) hfits hemitted (Nat.le_refl _)
    (hx.kept hcaller (by rw [Scene.source?, hheld, Scene.source?]))
    fun hidle => absurd hidle hbusy

/-! #### A start -/

/-- A source that is just starting. -/
theorem enrolled_start {source : Source} (hrun : source.run = next) (hlimit : source.limit = some n)
    (hproduced : source.produced = 0) (hheld : s.source? = some source)
    (hnone : frames next notes = []) :
    Enrolled n notes s (next + 1) caller next { source } where
  run_eq := hrun
  below := Nat.lt_succ_self next
  owned _ := .inl ⟨hheld, rfl⟩
  tallied := by
    rw [hnone]
    exact ⟨hlimit, hproduced ▸ Nat.zero_le n, Nat.zero_le _,
      fun _ hmem => absurd hmem List.not_mem_nil, fun _ hmem => absurd hmem List.not_mem_nil,
      s.emitted, rfl, fun _ => rfl⟩

/-- **A start.** -/
theorem start (hx : Regular p n profile notes s next runners .idle) (hstate : s.state = .opened)
    {source : Source} (hrun : source.run = next) (hlimit : source.limit = some n)
    (hproduced : source.produced = 0) :
    Regular p n profile (notes ++ (some (Note.started next)).toList)
      { s.withSource (some source) with state := .capturing, capturing := true } (next + 1)
      (Function.update runners next (some { source })) .idle := by
  have hsettled : Settled s := hx.fits
  have hheld : s.held.isSome = true := by
    rw [Option.isSome_iff_ne_none]
    exact fun hnone => absurd (hsettled.closed_iff.mpr hnone) (by simp [hstate])
  -- All earlier sources have ended, since the session has none.
  have hended {run : Nat} {r : Runner} (hr : runners run = some r) : r.stage = .finished :=
    hx.ended_of_idle rfl (by simp [hstate]) hr
  have hnew : runners next = none :=
    Option.eq_none_iff_forall_ne_some.mpr fun r hr => Nat.lt_irrefl next (hx.crew next r hr).below
  have hkept {run : Nat} {r : Runner} (hr : runners run = some r) :
      Function.update runners next (some { source }) run = some r :=
    (Function.update_of_ne (Nat.ne_of_lt (hx.crew run r hr).below) ..).trans hr
  have hframes (run : Nat) :
      frames run (notes ++ (some (Note.started next)).toList) = frames run notes := by
    simp [frames, Note.frame?]
  have hnone : frames next (notes ++ (some (Note.started next)).toList) = [] :=
    (hframes next).trans (hx.frames_eq_nil hnew)
  refine
    { profile_eq := hx.profile_eq
      place := ?place
      fits := ?fits
      crew := ?crew
      latest := ?latest
      recorded := ?recorded
      ordered := ?ordered
      clean := ?clean
      retired := ?retired
      silent := hx.silent.append fun run frame h => absurd h (by simp) }
  case place =>
    intro o ho
    obtain ⟨o', ho', rfl⟩ := Option.map_eq_some_iff.mp ho
    exact hx.place o' ho'
  case fits =>
    refine ⟨?_, by simp, fun _ => hsettled.heard (by simp [hstate]), fun h => absurd rfl h⟩
    rw [Option.isSome_iff_ne_none] at hheld
    simp [Scene.withSource, hheld]
  case crew =>
    intro run r hr
    rcases update_eq_some hr with ⟨rfl, rfl⟩ | ⟨-, hr⟩
    · exact enrolled_start hrun hlimit hproduced (Scene.source?_withSource hheld _) hnone
    · exact (hx.crew run r hr).retire (hended hr) rfl (hframes run) (Nat.le_succ next)
  case latest =>
    intro run r hr halive run' r' hr'
    rcases update_eq_some hr with ⟨rfl, rfl⟩ | ⟨-, hr⟩
    · rcases update_eq_some hr' with ⟨rfl, -⟩ | ⟨-, hr'⟩
      · exact Nat.le_refl _
      · exact Nat.le_of_lt (hx.crew run' r' hr').below
    · exact absurd (hended hr) halive
  case recorded =>
    intro m hm run hrun'
    rcases List.mem_append.mp hm with hold | hlast
    · exact exists_update _ _ (hx.recorded m hold run hrun')
    · obtain rfl := List.mem_singleton.mp hlast
      obtain rfl := Option.some.inj hrun'
      exact ⟨_, Function.update_self ..⟩
  case ordered =>
    unfold handedRuns
    rw [List.filterMap_append]
    exact (List.append_nil _).symm ▸ hx.ordered
  case clean =>
    intro run hunderway
    rcases hunderway.of_append with hlast | ⟨-, hunderway⟩
    · obtain rfl := Note.started.inj (Option.some.inj hlast)
      refine ⟨rfl, rfl, _, Function.update_self .., ?_, fun h => absurd h (by simp)⟩
      rw [hnone]
      exact hproduced.symm
    · -- A run that is under way captures.
      obtain ⟨-, hcapturing, -⟩ := hx.clean run hunderway
      exact absurd hcapturing (by simp [hstate])
  case retired =>
    intro run hretired
    rcases hretired.of_append with hretired | ⟨hnow, -⟩
    · obtain ⟨r, hr, hfinished⟩ := hx.retired run hretired
      exact ⟨r, hkept hr, hfinished⟩
    · exact absurd hnow (by simp [Note.returned])

end Regular

end Pacing

end DepthRelay
