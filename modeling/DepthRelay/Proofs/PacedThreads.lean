import DepthRelay.FrameLoop
import DepthRelay.Proofs.Fixtures
import DepthRelay.Proofs.SessionCalls
import DepthRelay.Proofs.TimedRuns
import Mathlib.Logic.Function.Basic

namespace DepthRelay

/-!
# Frame sources between their steps

The frame source of a paced camera runs on a thread of its own.  It looks at its stop flag, sleeps,
looks at its limit and at the camera, and hands over the next frame; between any two of these steps
the caller can go on to stop or to close the session, which takes several steps as well.

* `Pacing.Stage`, `Pacing.Runner` — what a source is at; `Runner.step?` is its next step.
* `Pacing.Phase` — how far the caller is on the way to the end of a run.
* `Pacing`, `Pacing.step?` — a session with its sources, and one move of the caller or of a source.
* `Pacing.Step`, `Pacing.Run` — one step of anybody, and any number of them, with a record of it.
* `wake_uninterrupted`, `stop_uninterrupted`, `beginClose_uninterrupted`, `endClose_uninterrupted` —
  without interruption the steps make up what the relay does at once.
-/

variable {σ : Type}

/-! ### The record -/

/-- The frame that a camera makes of points: the next number, and the moment in microseconds. -/
def Camera.stamp {L : Type} (now : Nat) (points : List Point) (c : Camera L) : DepthFrame :=
  ⟨c.emitted, now / 1000, c.profile.width, c.profile.height, points⟩

/-- This is the frame that a listener gets. -/
theorem Camera.offer_fst {L : Type} (c : Camera L) (now : Nat) (points : List Point) :
    (c.offer now points).1 =
      if c.capturing then c.listener.map fun k => (k, c.stamp now points) else none := by
  unfold offer stamp
  cases c.capturing <;> cases c.listener <;> rfl

/-- What is noted about a session and its sources. -/
inductive Pacing.Note
  /-- A start has succeeded; the source has this identity. -/
  | started (run : Nat)
  /-- A stop that the driver does not refuse has begun, or a close. -/
  | ending
  /-- A stop has succeeded. -/
  | stopped
  /-- A close has returned. -/
  | closed
  /-- A source has handed a frame to the listener. -/
  | handed (run : Nat) (frame : DepthFrame)

/-! ### Sources -/

/-- What a source is at. -/
inductive Pacing.Stage
  /-- It looks at its stop flag. -/
  | checking
  | sleeping
  /-- The wait has run its full time, and the source looks at its limit. -/
  | awake
  /-- It has the next frame, and looks whether the camera captures. -/
  | looking (points : List Point)
  /-- It looks for the listener. -/
  | finding (points : List Point)
  /-- It has found the listener, a channel. -/
  | numbering (channel : Nat) (points : List Point)
  /-- The frame is handed over, and the listener at work. -/
  | serving (channel : Nat) (points : List Point)
  | finished

/-- The frame that a source has, until it is handed over. -/
def Pacing.Stage.upcoming : Stage → List (List Point)
  | looking points | finding points | numbering _ points => [points]
  | _ => []

/-- The frame that a source has handed over, until the listener has it. -/
def Pacing.Stage.served : Stage → List (List Point)
  | serving _ points => [points]
  | _ => []

/-- A source and its thread. -/
structure Pacing.Runner where
  source : Source
  stage : Stage := .checking
  /-- Its stop flag. -/
  told : Bool := false

/-- A listener gets a frame on a thread. -/
def Live.hear (h : Handler σ) (t : ThreadId) (k : Nat) (points : List Point) (l : Live σ) :
    Except Abort Unit × Live σ :=
  match (l.relay.channel k).handoff with
  | some q => (.ok (), l.withRelay (l.relay.submit k q points))
  | none => l.deliver h t k points

/-- The device object of a session keeps up with its source, if it still has the source with this
    identity. -/
def Relay.keepSource (i run : Nat) (source : Option Source) (w : Relay) : Relay :=
  if (w.session i).source?.any (·.run == run) then w.setSource i source else w

namespace Pacing.Runner

/-- The source goes on to another stage. -/
def goto (stage : Stage) (r : Runner) : Runner := { r with stage }

/-- The source is told to stop. -/
def tell (r : Runner) : Runner := { r with told := true }

/-- The thread ends. -/
def leave (i : Nat) (r : Runner) (l : Live σ) : Runner × Live σ :=
  (r.goto .finished, l.withRelay
    ((l.relay.keepSource i r.source.run none).exitThread (.source r.source.run)))

/-- The next step of a source that the session at place `i` has started on the camera at place `p`,
    unless its thread has ended. -/
def step? (h : Handler σ) (i p : Nat) (r : Runner) (l : Live σ) :
    Option (Option Note × Runner × Live σ) :=
  match r.stage with
  | .checking => if r.told then some (none, r.leave i l) else some (none, r.goto .sleeping, l)
  | .sleeping =>
    -- A stop that comes while the source sleeps ends the wait before its time.
    if sleepCompletes r.told then
      some (none, r.goto .awake,
        l.withRelay { l.relay with now := max l.relay.now r.source.due })
    else some (none, r.leave i l)
  | .awake =>
    -- The flag is not looked at again until the frame is out.
    match r.source.wake, l.relay.cameras[p]? with
    | some (phase, next), some c =>
      match c.profile.syntheticPoints phase with
      | .ok points =>
        some (none, { r with source := next, stage := .looking points },
          l.withRelay (l.relay.keepSource i r.source.run (some next)))
      | .error _ => some (none, r.leave i l)
    | _, _ => some (none, r.leave i l)
  | .looking points =>
    some (none, r.goto (if (l.relay.cameras[p]?).any Camera.capturing then .finding points
      else .checking), l)
  | .finding points =>
    some (none, r.goto (((l.relay.cameras[p]?).bind Camera.listener).elim .checking fun k =>
      .numbering k points), l)
  | .numbering k points =>
    -- The listener was found before, and gets the frame even if the camera has lost it since.
    (l.relay.cameras[p]?).map fun c =>
      (some (.handed r.source.run (c.stamp l.relay.now points)), r.goto (.serving k points),
        l.withRelay (l.relay.noteEmitted p))
  | .serving k points =>
    match l.hear h (.source r.source.run) k points with
    | (.ok (), l) => some (none, r.goto .checking, l)
    | (.error _, l) => some (none, r.leave i l)
  | .finished => none

end Pacing.Runner

/-! ### The caller -/

/-- What a caller ends a run with. -/
inductive Pacing.Ending
  | stop
  | close
  /-- The device object is dropped, in the course of closing. -/
  | drop
  deriving DecidableEq

/-- How far the caller is. -/
inductive Pacing.Phase
  | idle
  /-- The camera does not capture any more, and a source is still to be ended. -/
  | silenced (e : Ending)
  /-- The source is told to stop, and its thread is waited for. -/
  | joining (e : Ending) (run : Nat)
  /-- Nothing is left to stop, and the listener is to be removed. -/
  | unhearing
  /-- The hand-off is to be closed. -/
  | shutting
  /-- The dispatch thread is waited for. -/
  | draining
  deriving DecidableEq

/-- A session with the sources it has started, by their identities, between two steps. -/
structure Pacing (σ : Type) where
  live : Live σ
  runners : Nat → Option Pacing.Runner := fun _ => none
  caller : Pacing.Phase := .idle

namespace Pacing

/-- What a caller can ask for. -/
inductive Call
  | openCamera (d : Descriptor) (key : UInt32) (address : Nat)
  | start (timing : Bool)
  | stop
  | close

/-- One move of a source, or of the caller. -/
inductive Move
  | thread (run : Nat)
  | call (c : Call)
  /-- The caller goes on with what it has begun. -/
  | proceed

def setRelay (w : Relay) (x : Pacing σ) : Pacing σ := { x with live := x.live.withRelay w }

/-- The source with an identity has become another one, and something has happened. -/
def advance (run : Nat) (r : Runner) (l : Live σ) (x : Pacing σ) : Pacing σ where
  live := l
  runners := Function.update x.runners run (some r)
  caller := x.caller

/-- The session begins to capture; the source that this starts has a thread at once. -/
def start (i : Nat) (timing : Bool) (x : Pacing σ) : Option Note × Pacing σ :=
  let run := x.live.relay.nextRun
  match x.live.relay.start timing i with
  | (.ok (), w) =>
    (some (.started run),
      { x.setRelay w with
        runners := Function.update x.runners run
          ((w.session i).source?.map fun source => { source }) })
  | (.error _, w) => (none, x.setRelay w)

/-- The camera stops to capture, unless the driver refuses it. -/
def silence? (p : Nat) (e : Ending) (x : Pacing σ) : Option (Pacing σ) :=
  match x.live.relay.cameras[p]? with
  | none => none
  | some c =>
    match Camera.stopCapture c with
    | .ok () c =>
      some { x.setRelay { x.live.relay with cameras := x.live.relay.cameras.set p c } with
        caller := .silenced e }
    | .error _ _ => none

/-- What the caller does first when it is asked for something.  The camera that is opened is the one
    at place `p`. -/
def call? (i p : Nat) (c : Call) (x : Pacing σ) : Option (Option Note × Pacing σ) :=
  match c with
  | .openCamera d key address =>
    if (x.live.relay.target? d).all (· == p) then
      some (none, x.setRelay (x.live.relay.openSession d key address i).2)
    else none
  | .start timing => some (x.start i timing)
  | .stop =>
    -- If the driver refuses, the run goes on as if nobody had asked.
    if (x.live.relay.session i).state = .capturing then
      some ((x.silence? p .stop).elim (none, x) fun y => (some .ending, y))
    else some (none, x)
  | .close =>
    if (x.live.relay.session i).camera.isNone then some (some .closed, x)
    -- Here the run goes on until the device object is dropped.
    else if (x.live.relay.session i).state = .capturing then
      some (some .ending, (x.silence? p .close).getD { x with caller := .unhearing })
    else some (some .ending, { x with caller := .unhearing })

/-- The caller has ended the run, if there was one. -/
def finish (i : Nat) (e : Ending) (x : Pacing σ) : Option Note × Pacing σ :=
  match e with
  | .stop =>
    (some .stopped, { x.setRelay (x.live.relay.modifySession i fun s =>
      { s.endTiming.2 with state := .opened }) with caller := .idle })
  | .close => (none, { x with caller := .unhearing })
  | .drop => (some .closed, { x.setRelay (x.live.relay.endClose i) with caller := .idle })

/-- The device object gives up its source, which is told to stop. -/
def tell (i run : Nat) (e : Ending) (x : Pacing σ) : Pacing σ where
  live := x.live.withRelay (x.live.relay.setSource i none)
  runners := Function.update x.runners run ((x.runners run).map Runner.tell)
  caller := .joining e run

/-- The camera loses its listener.  The timing of a run that has not been stopped is over. -/
def unhear (i p : Nat) (x : Pacing σ) : Pacing σ where
  live := x.live.withRelay
    ((x.live.relay.modifyCamera p fun c => { c with listener := none }).modifySession i fun s =>
      if s.state = .capturing then { s with timing := s.timing.setEnabled false } else s)
  runners := x.runners
  caller := .shutting

/-- The caller goes on, unless it has to wait. -/
def proceed? (i p : Nat) (x : Pacing σ) : Option (Option Note × Pacing σ) :=
  match x.caller with
  | .idle => none
  | .silenced e =>
    match (x.live.relay.session i).source? with
    | none => some (x.finish i e)
    | some source => some (none, x.tell i source.run e)
  | .joining e run =>
    match x.runners run with
    | some ⟨_, .finished, _⟩ => some (x.finish i e)
    | _ => none
  | .unhearing => some (none, x.unhear i p)
  | .shutting =>
    match (x.live.relay.session i).camera with
    | none => none
    | some o =>
      some (none, { x.setRelay (x.live.relay.modifyChannel o.channel fun c =>
        { c with handoff := c.handoff.map Handoff.close }) with caller := .draining })
  | .draining =>
    if World.dispatched i { toLive := x.live } then
      some (none, { x.setRelay (x.live.relay.modifyCamera p fun c =>
        { c with capturing := false }) with caller := .silenced .drop })
    else none

/-- One move in the session at place `i` and on the camera at place `p`, if it can be made. -/
def step? (h : Handler σ) (i p : Nat) (m : Move) (x : Pacing σ) :
    Option (Option Note × Pacing σ) :=
  match m with
  | .thread run =>
    (x.runners run).bind fun r =>
      (r.step? h i p x.live).map fun y => (y.1, x.advance run y.2.1 y.2.2)
  | .call c => if x.caller = .idle then x.call? i p c else none
  | .proceed => x.proceed? i p

/-- Plays moves with nothing in between, if all of them can be made. -/
def play? (h : Handler σ) (i p : Nat) : List Move → Pacing σ → Option (List Note × Pacing σ)
  | [], x => some ([], x)
  | m :: ms, x =>
    match x.step? h i p m with
    | none => none
    | some (note, y) => (play? h i p ms y).map fun z => (note.toList ++ z.1, z.2)

end Pacing

/-! ### What a session and its camera show -/

/-- What a source depends on, of the session that has started it and of the camera. -/
structure Scene where
  state : SessionState
  /-- What the session holds. -/
  held : Option OpenCamera
  profile : CameraProfile
  listener : Option Nat
  capturing : Bool
  emitted : Nat

namespace Scene

def of (t : Session) (c : Camera Nat) : Scene :=
  ⟨t.state, t.camera, c.profile, c.listener, c.capturing, c.emitted⟩

/-- The source that the device object of the session owns. -/
def source? (s : Scene) : Option Source := s.held.bind (·.device.source)

/-- The device object has another source. -/
def withSource (source : Option Source) (s : Scene) : Scene :=
  { s with held := s.held.map fun o => { o with device := { o.device with source } } }

/-- The device object keeps up with its source, if it still has the source with this identity. -/
def track (run : Nat) (source : Option Source) (s : Scene) : Scene :=
  if s.source?.any (·.run == run) then s.withSource source else s

end Scene

namespace Relay

/-- The scene of the session at place `i` and the camera at place `p`. -/
def scene? (i p : Nat) (w : Relay) : Option Scene :=
  w.sessions[i]?.bind fun t => w.cameras[p]?.map (Scene.of t)

variable {v w : Relay} {i p : Nat} {s : Scene}

theorem scene?_eq_some : w.scene? i p = some s ↔
    ∃ t c, w.sessions[i]? = some t ∧ w.cameras[p]? = some c ∧ Scene.of t c = s := by
  simp [scene?, Option.bind_eq_some_iff, Option.map_eq_some_iff]

/-- The scene shows fixtures only. -/
theorem scene?_of_fixtures (h : v.fixtures = w.fixtures) : v.scene? i p = w.scene? i p := by
  have hscene (u : Relay) : u.scene? i p =
      u.fixtures.sessions[i]?.bind fun x => u.fixtures.cameras[p]?.map fun c =>
        ⟨x.1, x.2, c.profile, c.listener, c.capturing, c.emitted⟩ := by
    simp only [scene?, fixtures, List.getElem?_map]
    cases u.sessions[i]? <;> rfl
  rw [hscene, hscene, h]

/-- Only the camera at the place matters, and of it only what the scene shows. -/
theorem scene?_modifyCamera (q : Nat) {f : Camera Nat → Camera Nat}
    (hf : q = p → ∀ t c, Scene.of t (f c) = Scene.of t c) :
    (w.modifyCamera q f).scene? i p = w.scene? i p := by
  have hcamera (t : Session) :
      (w.cameras.modify q f)[p]?.map (Scene.of t) = w.cameras[p]?.map (Scene.of t) := by
    rw [List.getElem?_modify]
    cases w.cameras[p]? with
    | none => rfl
    | some c => by_cases hq : q = p <;> simp [hq, hf]
  exact congrArg (w.sessions[i]?.bind ·) (funext hcamera)

end Relay

/-! ### Everybody -/

namespace Pacing

/-- One step: a move, or something that goes on elsewhere, which leaves the session and its camera
    as they are. -/
inductive Step (h : Handler σ) (i p : Nat) (x : Pacing σ) : Option Note → Pacing σ → Prop
  | move (m : Move) {note : Option Note} {y : Pacing σ} (hstep : x.step? h i p m = some (note, y)) :
      Step h i p x note y
  | elsewhere (l : Live σ) (scene : l.relay.scene? i p = x.live.relay.scene? i p)
      (later : x.live.relay.nextRun ≤ l.relay.nextRun) : Step h i p x none { x with live := l }

/-- Any number of steps, with what is noted in the course of them. -/
inductive Run (h : Handler σ) (i p : Nat) (x : Pacing σ) : List Note → Pacing σ → Prop
  | refl : Run h i p x [] x
  | step {notes : List Note} {y : Pacing σ} {note : Option Note} {z : Pacing σ}
      (before : Run h i p x notes y) (last : Step h i p y note z) :
      Run h i p x (notes ++ note.toList) z

variable {h : Handler σ} {i p : Nat} {x y : Pacing σ} {notes : List Note}

/-- One step in front of a run. -/
theorem Run.cons {note : Option Note} (first : Step h i p x note y) {z : Pacing σ}
    (rest : Run h i p y notes z) : Run h i p x (note.toList ++ notes) z := by
  induction rest with
  | refl => simpa using Run.refl.step first
  | step _ last ih => simpa using ih.step last

end Pacing

/-- The event is no concern of whoever holds the camera at place `p`: dispatch threads, hosts and
    the clock go on, driver calls are made to fail, and frames are injected into other cameras. -/
def Event.remote (p : Nat) : Event → Bool
  | .dispatch _ | .fail _ _ _ | .clearFaults _ | .disableAttach _ _ | .refuseBuffers _ _
  | .exitWorker _ | .pass _ => true
  | .emit _ q _ => q != p
  | .operate _ _ | .beginClose _ | .endClose _ | .wake _ => false

/-- A frame that is injected into another camera does not change the scene. -/
theorem Live.scene?_emit {h : Handler σ} (hreturns : h.Returns) (l : Live σ) (t : ThreadId)
    {i p q : Nat} (hq : q ≠ p) (points : List Point) :
    (l.emit h t q points).2.relay.scene? i p = l.relay.scene? i p ∧
      (l.emit h t q points).2.relay.nextRun = l.relay.nextRun := by
  have hemit := fixtures_emit h l hreturns t q points
  split at hemit
  · refine ⟨(Relay.scene?_of_fixtures hemit).trans ?_, congrArg Fixtures.nextRun hemit⟩
    exact Relay.scene?_modifyCamera q fun heq => absurd heq hq
  · exact ⟨Relay.scene?_of_fixtures hemit, congrArg Fixtures.nextRun hemit⟩

/-- Such events go on elsewhere. -/
theorem Pacing.Step.of_remote {h : Handler σ} (hreturns : h.Returns) {i p : Nat} {x : Pacing σ}
    {e : Event} (hremote : e.remote p = true) (closing : List Nat) :
    Step h i p x none
      { x with live := (World.step h e { toLive := x.live, closing }).2.toLive } := by
  cases e with
  | operate j op | beginClose j | endClose j | wake j =>
    exact absurd hremote (by simp [Event.remote])
  | emit worker q points =>
    obtain ⟨hscene, hnext⟩ := x.live.scene?_emit hreturns (.worker worker) (i := i)
      (by simpa [Event.remote] using hremote) points
    exact .elsewhere _ hscene (Nat.le_of_eq hnext.symm)
  | dispatch k =>
    have hkept := x.live.fixtures_dispatch h k
    exact .elsewhere _ (Relay.scene?_of_fixtures hkept)
      (Nat.le_of_eq (congrArg Fixtures.nextRun hkept).symm)
  | fail q op s => exact .elsewhere _ (Relay.scene?_modifyCamera q fun _ _ _ => rfl) (Nat.le_refl _)
  | clearFaults q =>
    exact .elsewhere _ (Relay.scene?_modifyCamera q fun _ _ _ => rfl) (Nat.le_refl _)
  | disableAttach r on | refuseBuffers r fault | exitWorker worker | pass nanos =>
    exact .elsewhere _ rfl (Nat.le_refl _)

/-! ### Threads that nobody interrupts -/

/-- A source that goes on has not reached its limit. -/
theorem Source.wake_eq_some {source next : Source} {phase : Nat} :
    source.wake = some (phase, next) ↔
      source.limit.any (· ≤ source.produced) = false ∧ phase = source.produced ∧
        next = { source with
          produced := source.produced + 1
          due := source.due + source.interval } := by
  unfold wake
  cases hlimit : source.limit.any (· ≤ source.produced) <;> simp [eq_comm]

/-- A source is kept where it is the one of the session. -/
theorem Relay.keepSource_of_held {i : Nat} {source : Source} {w : Relay}
    (hsource : (w.session i).source? = some source) (next : Option Source) :
    w.keepSource i source.run next = w.setSource i next := by
  rw [keepSource, hsource]
  simp

/-- A listener always gets done with a frame, if handlers answer. -/
theorem Live.hear_ok {h : Handler σ} (hreturns : h.Returns) (t : ThreadId) (k : Nat)
    (points : List Point) (l : Live σ) : (l.hear h t k points).1 = .ok () := by
  unfold hear
  cases (l.relay.channel k).handoff with
  | some q => rfl
  | none => exact deliver_ok h l hreturns t k points

/-- **The listener gets the frame** that a source serves, and the source goes on to look at its
    flag. -/
theorem Pacing.Runner.step?_serving {h : Handler σ} (hreturns : h.Returns) (i p : Nat) {r : Runner}
    {k : Nat} {points : List Point} (hstage : r.stage = .serving k points) (l : Live σ) :
    r.step? h i p l =
      some (none, r.goto .checking, (l.hear h (.source r.source.run) k points).2) := by
  have hok := l.hear_ok hreturns (.source r.source.run) k points
  simp only [step?, hstage]
  generalize l.hear h (.source r.source.run) k points = result at hok ⊢
  obtain ⟨answer, v⟩ := result
  subst hok
  rfl

namespace Pacing

variable {h : Handler σ} {i p run : Nat} {x y : Pacing σ}

@[simp] theorem advance_advance (r r' : Runner) (l l' : Live σ) :
    (x.advance run r l).advance run r' l' = x.advance run r' l' := by
  simp [advance]

theorem advance_self {r : Runner} (hr : x.runners run = some r) :
    x.advance run r x.live = x := by
  unfold advance
  rw [← hr, Function.update_eq_self]

/-- A step of a source, as a move. -/
theorem step?_thread {r r' : Runner} {l l' : Live σ} {note : Option Note}
    (hstep : r.step? h i p l = some (note, r', l')) :
    (x.advance run r l).step? h i p (.thread run) = some (note, x.advance run r' l') := by
  simp only [step?]
  rw [show (x.advance run r l).runners run = some r from Function.update_self ..]
  simp only [Option.bind_some]
  rw [show (x.advance run r l).live = l from rfl, hstep]
  simp

/-- Steps of one source lead from one state to the other, with these notes. -/
def Leads (h : Handler σ) (i p run : Nat) (x : Pacing σ) (notes : List Note) (y : Pacing σ) :
    Prop :=
  ∃ n, x.play? h i p (List.replicate n (.thread run)) = some (notes, y)

theorem Leads.refl (h : Handler σ) (i p run : Nat) (x : Pacing σ) : Leads h i p run x [] x :=
  ⟨0, rfl⟩

/-- One step of a source, and those that follow. -/
theorem Leads.step {r r' : Runner} {l l' : Live σ} {note : Option Note} {notes : List Note}
    (hstep : r.step? h i p l = some (note, r', l'))
    (hrest : Leads h i p run (x.advance run r' l') notes y) :
    Leads h i p run (x.advance run r l) (note.toList ++ notes) y := by
  obtain ⟨n, hplay⟩ := hrest
  refine ⟨n + 1, ?_⟩
  rw [List.replicate_succ]
  simp only [play?, step?_thread hstep, hplay, Option.map_some]

/-- The last step of a lead. -/
theorem Leads.last {r r' : Runner} {l l' : Live σ}
    (hstep : r.step? h i p l = some (none, r', l')) :
    Leads h i p run (x.advance run r l) [] (x.advance run r' l') :=
  .step hstep (.refl h i p run _)

/-- A frame on its way to the listener, if there is one: the thread does what an injection does, and
    the frame is the one that the camera offers. -/
theorem leads_emit (hreturns : h.Returns) {r : Runner} {points : List Point}
    (hstage : r.stage = .looking points) {l : Live σ} {c : Camera Nat}
    (hc : l.relay.cameras[p]? = some c) :
    Leads h i p run (x.advance run r l)
      ((c.offer l.relay.now points).1.toList.map fun offered => .handed r.source.run offered.2)
      (x.advance run (r.goto .checking) (l.emit h (.source r.source.run) p points).2) := by
  rw [Live.emit_eq hreturns, Camera.offer_fst]
  have hlistener : l.relay.listener? p = if c.capturing then c.listener else none := by
    simp [Relay.listener?, hc]
  rw [hlistener]
  have hlooked : r.step? h i p l =
      some (none, r.goto (if c.capturing then .finding points else .checking), l) := by
    simp [Runner.step?, hstage, hc]
  refine .step hlooked ?_
  cases c.capturing with
  | false => exact .refl h i p run _
  | true =>
    have hfound : (r.goto (.finding points)).step? h i p l =
        some (none, r.goto (c.listener.elim .checking fun k => .numbering k points), l) := by
      simp [Runner.step?, Runner.goto, hc]
    refine .step hfound ?_
    cases c.listener with
    | none => exact .refl h i p run _
    | some k =>
      have hnumbered : (r.goto (.numbering k points)).step? h i p l =
          some (some (.handed r.source.run (c.stamp l.relay.now points)),
            r.goto (.serving k points), l.withRelay (l.relay.noteEmitted p)) := by
        simp [Runner.step?, Runner.goto, hc]
      -- The number that the camera counts does not matter to the channel.
      have hserved := (r.goto (.serving k points)).step?_serving hreturns i p rfl
        (l.withRelay (l.relay.noteEmitted p))
      have hheard : Leads h i p run _ [] _ := .last (x := x) hserved
      unfold Live.hear at hheard
      rw [show (l.withRelay (l.relay.noteEmitted p)).relay.channel k = l.relay.channel k from rfl]
        at hheard
      refine .step hnumbered ?_
      simp only [if_pos]
      cases hhandoff : (l.relay.channel k).handoff <;> rw [hhandoff] at hheard <;> exact hheard

/-- **A source that nobody interrupts does the work of one frame as `Live.wake` does it.** -/
theorem wake_uninterrupted (hreturns : h.Returns) {t : Session} {o : OpenCamera} {r : Runner}
    (ht : x.live.relay.sessions[i]? = some t) (ho : t.camera = some o)
    (hplace : o.device.camera = p) (hsource : o.device.source = some r.source)
    (hr : x.runners r.source.run = some r) (hstage : r.stage = .checking) (htold : r.told = false) :
    ∃ r' notes, (r'.stage = .checking ∨ r'.stage = .finished) ∧
      Leads h i p r.source.run x notes
        (x.advance r.source.run r' (x.live.wake h i r.source)) := by
  have hchecked : r.step? h i p x.live = some (none, r.goto .sleeping, x.live) := by
    simp [Runner.step?, hstage, htold]
  have hslept : (r.goto .sleeping).step? h i p x.live = some (none, r.goto .awake,
      x.live.withRelay { x.live.relay with now := max x.live.relay.now r.source.due }) := by
    simp [Runner.step?, Runner.goto, sleepCompletes, htold]
  suffices hleads : ∃ r' notes, (r'.stage = .checking ∨ r'.stage = .finished) ∧
      Leads h i p r.source.run (x.advance r.source.run r x.live) notes
        (x.advance r.source.run r' (x.live.wake h i r.source)) by
    rwa [x.advance_self hr] at hleads
  rw [Live.wake_eq hreturns]
  unfold Relay.wakeSource
  dsimp only
  -- Time passes, which neither the session nor the camera notices.
  generalize hw : ({ x.live.relay with now := max x.live.relay.now r.source.due } : Relay) = w
    at hslept ⊢
  have hcameras : w.cameras = x.live.relay.cameras := hw ▸ rfl
  have hsession : w.session i = t := hw ▸ Relay.session_eq ht
  have hcamera : ((w.session i).camera.map (·.device.camera)).getD 0 = p := by
    rw [hsession, ho]
    exact hplace
  have hkept (next : Option Source) :
      w.keepSource i r.source.run next = w.setSource i next := by
    refine Relay.keepSource_of_held ?_ next
    rw [hsession, Session.source?, ho]
    exact hsource
  have hended (hstep : (r.goto .awake).step? h i p (x.live.withRelay w) =
      some (none, (r.goto .awake).leave i (x.live.withRelay w))) :
      Leads h i p r.source.run (x.advance r.source.run r x.live) []
        (x.advance r.source.run (r.goto .finished)
          (x.live.withRelay (w.endSource i r.source.run))) := by
    have hleave : (r.goto .awake).leave i (x.live.withRelay w) =
        (r.goto .finished, x.live.withRelay (w.endSource i r.source.run)) :=
      congrArg (fun v : Relay => (r.goto .finished,
        x.live.withRelay (v.exitThread (.source r.source.run)))) (hkept none)
    rw [hleave] at hstep
    exact .step hchecked (.step hslept (.last hstep))
  rw [hcamera]
  cases hwake : r.source.wake with
  | none =>
    refine ⟨r.goto .finished, [], .inr rfl, hended ?_⟩
    simp only [Runner.step?, Runner.goto, hwake]
  | some frame =>
    obtain ⟨phase, next⟩ := frame
    obtain ⟨-, -, hnext⟩ := Source.wake_eq_some.mp hwake
    cases hc : x.live.relay.cameras[p]? with
    | none =>
      refine ⟨r.goto .finished, [], .inr rfl, hended ?_⟩
      simp only [Runner.step?, Runner.goto, hwake, Live.withRelay, hcameras, hc]
    | some c =>
      dsimp only
      cases hpoints : c.profile.syntheticPoints phase with
      | error e =>
        rw [show next.run = r.source.run from hnext ▸ rfl]
        refine ⟨r.goto .finished, [], .inr rfl, hended ?_⟩
        simp only [Runner.step?, Runner.goto, hwake, Live.withRelay, hcameras, hc, hpoints]
      | ok points =>
        have hproduced : (r.goto .awake).step? h i p (x.live.withRelay w) =
            some (none, { r with source := next, stage := .looking points },
              x.live.withRelay (w.setSource i (some next))) := by
          rw [← hkept]
          simp only [Runner.step?, Runner.goto, hwake, Live.withRelay, hcameras, hc, hpoints]
        have hemitted : Leads h i p r.source.run _ _ _ := leads_emit (x := x) hreturns
          (r := { r with source := next, stage := .looking points }) rfl
          (l := x.live.withRelay (w.setSource i (some next))) (hcameras ▸ hc)
        rw [show next.run = r.source.run from hnext ▸ rfl] at hemitted
        exact ⟨_, _, .inl rfl, .step hchecked (.step hslept (.step hproduced hemitted))⟩

section

variable {s : Session} {o : OpenCamera} {c : Camera Nat} {r : Runner}

/-- A camera that agrees to stop does so at once. -/
theorem silence?_eq (hc : x.live.relay.cameras[p]? = some c)
    (hagreed : c.obstacle? .stopCapture = none) (e : Ending) :
    x.silence? p e = some
      { x.setRelay { x.live.relay with
          cameras := x.live.relay.cameras.set p { c with capturing := false } } with
        caller := .silenced e } := by
  unfold silence?
  simp only [hc, Camera.stopCapture_eq, hagreed, Camera.ended]

/-- A source between two frames ends as soon as it is told to. -/
theorem retired_uninterrupted {e : Ending} (hs : x.live.relay.sessions[i]? = some s)
    (ho : s.camera = some o) (hsource : o.device.source = some r.source)
    (hcaller : x.caller = .silenced e) (hr : x.runners r.source.run = some r)
    (hstage : r.stage = .checking) (moves : List Move) :
    x.play? h i p (.proceed :: .thread r.source.run :: .proceed :: moves) =
      let y : Pacing σ :=
        { live := x.live.withRelay
            (({ x.live.relay with sessions := x.live.relay.sessions.set i { s with
              camera := some { o with device := { o.device with source := none } } } } :
                Relay).exitThread (.source r.source.run))
          runners := Function.update x.runners r.source.run (some (r.tell.goto .finished))
          caller := .joining e r.source.run }
      ((y.finish i e).2.play? h i p moves).map fun z => ((y.finish i e).1.toList ++ z.1, z.2) := by
  have hheld : (x.live.relay.session i).source? = some r.source := by
    rw [Relay.session_eq hs, Session.source?, ho]
    exact hsource
  generalize hw : ({ x.live.relay with sessions := x.live.relay.sessions.set i { s with
    camera := some { o with device := { o.device with source := none } } } } : Relay) = w
  have htaken : x.live.relay.setSource i none = w := by
    rw [← hw, Relay.setSource, Relay.modifySession, modify_of_getElem? _ hs, ho]
    rfl
  have hleft : (w.session i).source? = none := by
    rw [← hw, Relay.session_eq (getElem?_set_of_some hs)]
    rfl
  -- The caller tells the source, which sees it and ends; then the caller can go on.
  have htold : x.step? h i p .proceed = some (none,
      ({ x with caller := .joining e r.source.run } : Pacing σ).advance r.source.run r.tell
        (x.live.withRelay w)) := by
    simp only [step?, proceed?, hcaller, hheld, tell, htaken, hr, Option.map_some, advance]
  have hended : r.tell.step? h i p (x.live.withRelay w) = some (none, r.tell.goto .finished,
      x.live.withRelay (w.exitThread (.source r.source.run))) := by
    have hkept : w.keepSource i r.source.run none = w := by
      rw [Relay.keepSource, hleft]
      rfl
    simp only [Runner.step?, Runner.tell, hstage, Runner.leave, Runner.goto, Live.withRelay, hkept,
      if_true]
  simp only [play?, htold, step?_thread hended]
  simp only [step?, proceed?, advance, Function.update_self, Runner.goto, Option.map_map,
    Function.comp_def, Option.toList_none, List.nil_append]

/-- **A stop that is not interrupted does what `Relay.stop` does.** -/
theorem stop_uninterrupted (hs : x.live.relay.sessions[i]? = some s) (ho : s.camera = some o)
    (hplace : o.device.camera = p) (hc : x.live.relay.cameras[p]? = some c)
    (hstate : s.state = .capturing) (hagreed : c.obstacle? .stopCapture = none)
    (hcaller : x.caller = .idle) (hsource : o.device.source = some r.source)
    (hr : x.runners r.source.run = some r) (hstage : r.stage = .checking) :
    x.play? h i p [.call .stop, .proceed, .thread r.source.run, .proceed] =
      some ([.ending, .stopped], x.advance r.source.run (r.tell.goto .finished)
        (x.live.withRelay (x.live.relay.stop i).2)) := by
  subst hplace
  have hsilenced : x.step? h i o.device.camera (.call .stop) = some (some .ending,
      { x.setRelay { x.live.relay with
          cameras := x.live.relay.cameras.set o.device.camera { c with capturing := false } } with
        caller := .silenced .stop }) := by
    simp only [step?, hcaller, if_true, call?, Relay.session_eq hs, hstate, silence?_eq hc hagreed,
      Option.elim_some]
  have hretired := retired_uninterrupted (h := h) (p := o.device.camera) (r := r) (o := o)
    (x := { x.setRelay { x.live.relay with
          cameras := x.live.relay.cameras.set o.device.camera { c with capturing := false } } with
        caller := .silenced .stop }) hs ho hsource rfl hr hstage []
  rw [play?, hsilenced]
  dsimp only
  rw [hretired, Relay.stop_eq hs ho hc hstate, hagreed, hsource]
  simp only [finish, Relay.modifySession, Relay.exitThread_eq, setRelay, Live.withRelay,
    modify_of_getElem? _ (getElem?_set_of_some hs), List.set_set, Session.endTiming_eq,
    Relay.ended, Relay.exitSource, Relay.update, advance, hcaller]
  rfl

/-- **The first part of a close that is not interrupted does what `Relay.beginClose` does.** -/
theorem beginClose_uninterrupted (hs : x.live.relay.sessions[i]? = some s) (ho : s.camera = some o)
    (hplace : o.device.camera = p) (hc : x.live.relay.cameras[p]? = some c)
    (hstate : s.state = .capturing) (hagreed : c.obstacle? .stopCapture = none)
    (hcaller : x.caller = .idle) (hsource : o.device.source = some r.source)
    (hr : x.runners r.source.run = some r) (hstage : r.stage = .checking) :
    x.play? h i p
        [.call .close, .proceed, .thread r.source.run, .proceed, .proceed, .proceed] =
      some ([.ending], { x.advance r.source.run (r.tell.goto .finished)
        (x.live.withRelay (x.live.relay.beginClose i)) with caller := .draining }) := by
  subst hplace
  -- The driver stops the camera first; then `retired_uninterrupted`; then the rest of the calls.
  have hsilenced : x.step? h i o.device.camera (.call .close) = some (some .ending,
      { x.setRelay { x.live.relay with
          cameras := x.live.relay.cameras.set o.device.camera { c with capturing := false } } with
        caller := .silenced .close }) := by
    simp only [step?, hcaller, if_true, call?, Relay.session_eq hs, ho, hstate,
      silence?_eq hc hagreed, Option.getD_some, Option.isNone_some, Bool.false_eq_true, if_false]
  have hretired := retired_uninterrupted (h := h) (p := o.device.camera) (r := r) (o := o)
    (x := { x.setRelay { x.live.relay with
          cameras := x.live.relay.cameras.set o.device.camera { c with capturing := false } } with
        caller := .silenced .close }) hs ho hsource rfl hr hstage [.proceed, .proceed]
  rw [play?, hsilenced]
  dsimp only
  rw [hretired, Relay.beginClose_eq hs ho hc]
  -- The relay does the same three changes to session and camera at once.
  have hstops : Relay.stops s c = true := by simp [Relay.stops, hstate, hagreed]
  simp only [finish, play?, step?, proceed?, unhear, setRelay, Live.withRelay, Relay.exitThread_eq,
    Relay.modifyCamera, Relay.modifySession, modify_of_getElem? _ (getElem?_set_of_some hc),
    modify_of_getElem? _ (getElem?_set_of_some hs), List.set_set, hstate, hstops, if_true,
    Relay.session, List.getD_eq_getElem?_getD, getElem?_set_of_some hs, Option.getD_some]
  simp only [hsource, Relay.halted, Relay.quiet, hstops, hstate, if_true, Bool.not_true,
    Bool.and_false, Relay.exitSource, Relay.exitThread_eq, Relay.update, advance]
  rfl

/-- **The second part does what `Relay.endClose` does**, once everything is dispatched. -/
theorem endClose_uninterrupted (hs : x.live.relay.sessions[i]? = some s) (ho : s.camera = some o)
    (hplace : o.device.camera = p) (hc : x.live.relay.cameras[p]? = some c)
    (hcaller : x.caller = .draining) (hsource : o.device.source = none)
    (hdispatched : World.dispatched i { toLive := x.live } = true) :
    x.play? h i p [.proceed, .proceed] =
      some ([.closed],
        { x.setRelay (x.live.relay.endClose i) with caller := .idle }) := by
  subst hplace
  have hheld : (x.live.relay.session i).source? = none := by
    rw [Relay.session_eq hs, Session.source?, ho]
    exact hsource
  have hsilenced : x.step? h i o.device.camera .proceed = some (none,
      { x.setRelay (x.live.relay.modifyCamera o.device.camera fun c =>
        { c with capturing := false }) with caller := .silenced .drop }) := by
    simp only [step?, proceed?, hcaller, hdispatched, if_true]
  have hreleased : (x.live.relay.modifyCamera o.device.camera fun c =>
      { c with capturing := false }).endClose i = x.live.relay.endClose i := by
    rw [Relay.endClose_eq (w := x.live.relay.modifyCamera _ _) hs ho
      (getElem?_modify_of_some hc), Relay.endClose_eq hs ho hc, hsource]
    simp only [Relay.modifyCamera, modify_of_getElem? _ hc, Relay.exitSource, Relay.exitThread_eq,
      Relay.update, List.set_set]
    rfl
  simp only [play?, hsilenced]
  simp only [step?, proceed?, setRelay, Live.withRelay]
  rw [show ((x.live.relay.modifyCamera o.device.camera fun c =>
    { c with capturing := false }).session i).source? = none from hheld]
  simp only [finish, setRelay, Live.withRelay, hreleased]
  rfl

end

end Pacing

end DepthRelay
