import DepthRelay.Relay.Live

namespace DepthRelay

/-!
# Runs of a relay

The relay and its hosts as a system that takes one step after the other.  Whatever callers, driver
threads, dispatch threads and frame sources do is an *event*, and a schedule of all of them is a
list of events.

* `Operation` — what a caller can ask of a session, closing apart; `Operation.perform` does it.
* `Event` — one step of somebody.  Closing takes two steps, since frames are still dispatched,
  injected and refused while it waits for the hand-off.
* `World` — the relay with its hosts, and which sessions are being closed.
* `World.step`, `World.run`, `World.responses` — what one event does, and what a schedule does and
  answers.
* `World.fresh`, `World.solo` — where runs start.
* `Event.Private` — an opening does not go for a camera that another session holds.
-/

/-! ### Operations -/

/-- What a caller can ask of a session, closing apart. -/
inductive Operation
  /-- Open the single camera behind a descriptor; the buffer will lie at `address`. -/
  | openCamera (d : Descriptor) (key : UInt32) (address : Nat)
  | start (timing : Bool)
  | stop
  | setExposure
  | maxWidth
  | maxHeight
  deriving DecidableEq, Repr

/-- What a caller gets back. -/
inductive Operation.Result
  | unit (r : Except RelayError Unit)
  | samples (r : Except RelayError (List TimingSample))
  | size (r : Except RelayError UInt32)

namespace Operation

/-- Whether the result is an error. -/
def Result.failed : Result → Bool
  | unit (.error _) => true
  | samples (.error _) => true
  | size (.error _) => true
  | _ => false

/-- Carries out an operation for the session at place `i`. -/
def perform (i : Nat) (op : Operation) (w : Relay) : Result × Relay :=
  match op with
  | openCamera d key address => ((w.openSession d key address i).map Result.unit id)
  | start timing => (w.start timing i).map Result.unit id
  | stop => (w.stop i).map Result.samples id
  | setExposure => (w.setExposure i).map Result.unit id
  | maxWidth => (w.maxWidth i).map Result.size id
  | maxHeight => (w.maxHeight i).map Result.size id

end Operation

/-! ### Events -/

/-- One step of somebody. -/
inductive Event
  /-- A caller asks something of the session at place `i`. -/
  | operate (i : Nat) (op : Operation)
  /-- A caller begins to close the session. -/
  | beginClose (i : Nat)
  /-- The dispatch thread of a session that is being closed has ended, and closing goes on. -/
  | endClose (i : Nat)
  /-- A worker injects a frame into a camera. -/
  | emit (worker : String) (camera : Nat) (points : List Point)
  /-- The dispatch thread of a channel delivers a frame. -/
  | dispatch (channel : Nat)
  /-- The frame source of a session wakes up. -/
  | wake (i : Nat)
  /-- A driver operation of a camera is made to fail. -/
  | fail (camera : Nat) (op : DriverOp) (s : Status)
  /-- All driver operations of a camera work again. -/
  | clearFaults (camera : Nat)
  /-- A host begins to refuse threads, or stops to. -/
  | disableAttach (runtime : Nat) (on : Bool)
  /-- A host begins to refuse buffers, or stops to. -/
  | refuseBuffers (runtime : Nat) (fault : Option HostError)
  /-- A worker ends. -/
  | exitWorker (worker : String)
  /-- Time passes. -/
  | pass (nanos : Nat)
  deriving DecidableEq, Repr

/-- The session that a caller acts upon. -/
def Event.caller? : Event → Option Nat
  | .operate i _ | .beginClose i | .endClose i => some i
  | _ => none

/-- What the party that takes a step learns. -/
inductive Response
  | answered (r : Operation.Result)
  | emitted (r : Except Abort Bool)
  | done
  /-- The step cannot be taken now. -/
  | unavailable

instance decidableEqExcept {ε α : Type} [DecidableEq ε] [DecidableEq α] :
    DecidableEq (Except ε α)
  | .ok a, .ok b => decidable_of_iff (a = b) (by simp)
  | .error a, .error b => decidable_of_iff (a = b) (by simp)
  | .ok _, .error _ => .isFalse (by simp)
  | .error _, .ok _ => .isFalse (by simp)

deriving instance DecidableEq for Operation.Result
deriving instance DecidableEq for Response

/-! ### Worlds -/

/-- A relay with its hosts, between two steps. -/
structure World (σ : Type) extends Live σ where
  /-- Sessions whose closing has begun and not ended. -/
  closing : List Nat := []

namespace World

variable {σ : Type}

/-- Replaces the relay. -/
def setRelay (v : Relay) (w : World σ) : World σ := { w with relay := v }

/-- Whether there is a session at place `i` that takes calls: a session that is being closed is
    in the hands of the caller who closes it. -/
def ready (i : Nat) (w : World σ) : Bool :=
  decide (i < w.relay.sessions.length) && !w.closing.contains i

/-- Whether closing has nothing left to wait for. -/
def dispatched (i : Nat) (w : World σ) : Bool :=
  (w.relay.session i).camera.all fun o => (w.relay.channel o.channel).handoff.all Handoff.finished

/-- One step. -/
def step (h : Handler σ) (e : Event) (w : World σ) : Response × World σ :=
  match e with
  | .operate i op =>
    if w.ready i then
      (.answered (op.perform i w.relay).1, w.setRelay (op.perform i w.relay).2)
    else (.unavailable, w)
  | .beginClose i =>
    if w.ready i then
      if (w.relay.session i).camera.isSome then
        (.done, { w.setRelay (w.relay.beginClose i) with closing := i :: w.closing })
      else (.done, w)
    else (.unavailable, w)
  | .endClose i =>
    if w.closing.contains i && w.dispatched i then
      (.done, { w.setRelay (w.relay.endClose i) with closing := w.closing.filter (· ≠ i) })
    else (.unavailable, w)
  | .emit worker camera points =>
    let (r, l) := w.toLive.emit h (.worker worker) camera points
    (.emitted r, { w with toLive := l })
  | .dispatch k => (.done, { w with toLive := w.toLive.dispatch h k })
  | .wake i =>
    match (w.relay.session i).source? with
    | none => (.unavailable, w)
    | some source => (.done, { w with toLive := w.toLive.wake h i source })
  | .fail camera op s => (.done, w.setRelay (w.relay.modifyCamera camera (Camera.fail op s)))
  | .clearFaults camera => (.done, w.setRelay (w.relay.modifyCamera camera Camera.clearFaults))
  | .disableAttach r on =>
    (.done, w.setRelay (w.relay.modifyRuntime r fun x => { x with attachDisabled := on }))
  | .refuseBuffers r fault =>
    (.done, w.setRelay (w.relay.modifyRuntime r fun x => { x with exposeFault := fault }))
  | .exitWorker worker => (.done, w.setRelay (w.relay.exitThread (.worker worker)))
  | .pass nanos => (.done, w.setRelay { w.relay with now := w.relay.now + nanos })

/-- The world after a schedule. -/
def run (h : Handler σ) (events : List Event) (w : World σ) : World σ :=
  events.foldl (fun w e => (w.step h e).2) w

/-- What the parties learn in the course of a schedule. -/
def responses (h : Handler σ) : List Event → World σ → List Response
  | [], _ => []
  | e :: es, w => (w.step h e).1 :: responses h es (w.step h e).2

theorem run_append (h : Handler σ) (es fs : List Event) (w : World σ) :
    w.run h (es ++ fs) = (w.run h es).run h fs := List.foldl_append

/-- The answers to two schedules, one after the other. -/
theorem responses_append (h : Handler σ) (es fs : List Event) (w : World σ) :
    responses h (es ++ fs) w = responses h es w ++ responses h fs (w.run h es) := by
  induction es generalizing w with
  | nil => rfl
  | cons e es ih => exact congrArg ((w.step h e).1 :: ·) (ih (w.step h e).2)

/-- Each event is answered once. -/
theorem length_responses (h : Handler σ) (es : List Event) (w : World σ) :
    (responses h es w).length = es.length := by
  induction es generalizing w with
  | nil => rfl
  | cons e es ih => exact congrArg (· + 1) (ih (w.step h e).2)

/-! ### Where runs start -/

/-- Fresh cameras, fresh hosts, and closed sessions, each with the place of its host. -/
def fresh (profiles : List CameraProfile) (runtimes : Nat) (sessions : List (Nat × Settings))
    (host : σ) (now : Nat) : World σ where
  relay :=
    { cameras := profiles.map fun p => { profile := p }
      runtimes := List.replicate runtimes {}
      sessions := sessions.map fun (r, s) => { runtime := r, settings := s }
      now := now }
  host := host

/-- One session with a host of its own. -/
def solo (profiles : List CameraProfile) (settings : Settings) (host : σ) (now : Nat) : World σ :=
  fresh profiles 1 [(0, settings)] host now

/-- Valid settings are what it takes to add the session of a `solo` world. -/
theorem addSession_solo (profiles : List CameraProfile) (settings : Settings) (host : σ)
    (now : Nat) (valid : settings.validate = .ok ()) :
    (fresh profiles 1 [] host now).relay.addSession 0 settings =
      .ok (solo profiles settings host now).relay := by
  simp [Relay.addSession, Session.ofSettings, valid, fresh, solo]

end World

/-! ### Handlers -/

/-- The handlers always answer. -/
def Handler.Returns {σ : Type} (h : Handler σ) : Prop :=
  ∀ r d s reason, (h r d s).reply ≠ .aborted reason

/-- Handlers that accept every frame. -/
def Handler.accepting : Handler Unit := fun _ _ host => { reply := .accepted, host := host }

/-- The same handlers, which also note every delivery with the place of its host. -/
def Handler.noting {σ : Type} (h : Handler σ) : Handler (σ × List (Nat × Delivery)) :=
  fun r d (s, notes) =>
    let a := h r d s
    { reply := a.reply, host := (a.host, notes ++ [(r, d)]), elapsed := a.elapsed }

/-! ### Who holds a camera -/

/-- The place of the camera that an opening behind a descriptor would get. -/
def Relay.target? (d : Descriptor) (w : Relay) : Option Nat :=
  match connected w.cameras d with
  | [serial] => place? w.cameras serial
  | _ => none

/-- The session at place `i` holds the camera at place `p`. -/
def Relay.Holds (w : Relay) (i p : Nat) : Prop :=
  ∃ s o, w.sessions[i]? = some s ∧ s.camera = some o ∧ o.device.camera = p

/-- The event is an opening by the session at place `i` that goes for the camera at place `p`. -/
def Event.Reaches (e : Event) (w : Relay) (i p : Nat) : Prop :=
  i < w.sessions.length ∧
    ∃ d key address, e = .operate i (.openCamera d key address) ∧ w.target? d = some p

/-- An opening does not go for a camera that another session holds. -/
def Event.Private {σ : Type} (e : Event) (w : World σ) : Prop :=
  ∀ i p j, e.Reaches w.relay i p → w.relay.Holds j p → j = i

end DepthRelay
