import DepthRelay.Bench.Crew

namespace DepthRelay.Bench

/-!
# Sessions on the bench

Named sessions over a few cameras and scripted hosts, and named workers that inject frames.  After
each request all threads run until they are done or wait.

* `SessionBench.add`, `SessionBench.drop`, `SessionBench.close` — sessions come and go.  One with
  queued delivery waits for its handlers when it closes, so its host's gate is opened before.
* `SessionBench.operate` — an operation on a session.
* `SessionBench.emit`, `SessionBench.emitSynthetic` — a worker injects a frame; `CallStatus` tells
  what has come of it.
* `SessionBench.await` — lets time pass for the frame sources.
* `SessionBench.shutdown` — the end of everything.
-/

/-- A crew with names for sessions and workers. -/
structure SessionBench where
  crew : Crew
  /-- Sessions by name, with their places. -/
  names : List (String × Nat) := []
  /-- Workers that have been started. -/
  workers : List String := []

/-- What has come of a worker's call. -/
inductive CallStatus
  /-- There is no such camera. -/
  | noCamera
  /-- The worker is still in an earlier call. -/
  | busy
  /-- The call has not ended yet. -/
  | blocked
  | returned (result : Except Abort Bool)

/-- What has come of the wish to end a worker. -/
inductive ExitStatus
  /-- There is no such worker. -/
  | unknown
  /-- The worker is in a call. -/
  | busy
  | ended

namespace SessionBench

variable {α : Type}

/-- Lets all threads run. -/
def settle (b : SessionBench) : SessionBench := { b with crew := b.crew.settle }

/-- Changes the relay. -/
def withRelay (f : Relay → α × Relay) (b : SessionBench) : α × SessionBench :=
  let (a, w) := f b.crew.relay
  (a, { b with crew := { b.crew with relay := w } })

/-- The place of a session. -/
def place? (name : String) (b : SessionBench) : Option Nat := b.names.lookup name

/-! ### Sessions -/

/-- Opens or closes the gate of a host. -/
def setGate (runtime : Nat) (closed : Bool) (b : SessionBench) : SessionBench :=
  { b with crew := b.crew.modifyScript runtime fun s =>
      { s with gate := s.gate.setClosed closed } }.settle

/-- Closes the session at a place. -/
def closeAt (i : Nat) (b : SessionBench) : SessionBench :=
  let s := b.crew.relay.session i
  let b := if s.settings.delivery = .queued then b.setGate s.runtime false else b
  let b := (b.withRelay fun w => ((), w.beginClose i)).2.settle
  (b.withRelay fun w => ((), w.endClose i)).2

/-- Closes a session, if there is one of that name. -/
def close (name : String) (b : SessionBench) : Option SessionBench :=
  (b.place? name).map fun i => b.closeAt i

/-- Drops a session; the answer tells whether there was one. -/
def drop (name : String) (b : SessionBench) : Bool × SessionBench :=
  match b.place? name with
  | none => (false, b)
  | some i => (true, { b.closeAt i with names := b.names.filter (·.1 ≠ name) })

/-- Makes a session, in place of one of the same name. -/
def add (name : String) (runtime : Nat) (settings : Settings) (b : SessionBench) :
    Except RelayError Unit × SessionBench :=
  let b := (b.drop name).2
  match b.crew.relay.addSession runtime settings with
  | .error e => (.error e, b)
  | .ok w =>
    (.ok (), { b with
      crew := { b.crew with relay := w }
      names := (name, b.crew.relay.sessions.length) :: b.names })

/-- An operation on a session, if there is one of that name. -/
def operate (name : String) (f : Nat → Relay → Except RelayError α × Relay) (b : SessionBench) :
    Option (Except RelayError α) × SessionBench :=
  match b.place? name with
  | none => (none, b)
  | some i =>
    let (r, b) := b.withRelay (f i)
    (some r, b.settle)

/-- Opens a session; every buffer has an address of its own. -/
def openSession (name : String) (d : Descriptor) (key : UInt32) (b : SessionBench) :
    Option (Except RelayError Unit) × SessionBench :=
  b.operate name fun i w => w.openSession d key (w.channels.length + 1) i

/-! ### Workers -/

/-- Takes the result of a worker's call, if it has ended. -/
def takeReturned (name : String) (b : SessionBench) : CallStatus × SessionBench :=
  match b.crew.returned.lookup name with
  | none => (.blocked, b)
  | some r =>
    (.returned r,
      { b with crew := { b.crew with returned := b.crew.returned.filter (·.1 ≠ name) } })

/-- The results of all calls that have ended meanwhile, by worker. -/
def collectReturned (b : SessionBench) : List (String × Except Abort Bool) × SessionBench :=
  (b.crew.returned.mergeSort fun x y => x.1 ≤ y.1,
    { b with crew := { b.crew with returned := [] } })

/-- A worker, which is started if need be, injects a frame into a camera. -/
def call (worker serial : String) (points : Camera Nat → Except Abort (List Point))
    (b : SessionBench) : CallStatus × SessionBench :=
  match (DepthRelay.place? b.crew.relay.cameras serial).bind fun p =>
      (b.crew.relay.cameras[p]?).map fun c => (p, c) with
  | none => (.noCamera, b)
  | some (p, c) =>
    let t := ThreadId.worker worker
    let b := if worker ∈ b.workers then b else { b with workers := worker :: b.workers }
    if b.crew.isBusy t then (.busy, b)
    else
      match points c with
      | .error a => (.returned (.error a), b)
      | .ok points =>
        let (found, crew) := b.crew.inject t p points
        let b := { b with crew := crew }
        if crew.isBusy t then b.settle.takeReturned worker
        else (.returned (.ok found), b.settle)

/-- A worker injects a frame. -/
def emit (worker serial : String) (points : List Point) (b : SessionBench) :
    CallStatus × SessionBench :=
  b.call worker serial fun _ => .ok points

/-- A worker injects a synthetic frame, whose phase is the number of frames so far. -/
def emitSynthetic (worker serial : String) (b : SessionBench) : CallStatus × SessionBench :=
  b.call worker serial fun c => c.profile.syntheticPoints c.emitted

/-- Ends a worker that runs; one that is in a call goes on. -/
def exit (worker : String) (b : SessionBench) : ExitStatus × SessionBench :=
  let t := ThreadId.worker worker
  if worker ∉ b.workers then (.unknown, b)
  else if b.crew.isBusy t then (.busy, b)
  else
    let b := { b with workers := b.workers.filter (· ≠ worker) }
    (.ended, (b.withRelay fun w => ((), w.exitThread t)).2)

/-! ### Frame sources -/

/-- Lets a frame source do its work. -/
def wake (i : Nat) (source : Source) (b : SessionBench) : SessionBench :=
  let (frame, b) := b.withRelay fun w => w.wakeSource i source
  match frame with
  | none => b
  | some (camera, points) =>
    { b with crew := (b.crew.inject (.source source.run) camera points).2 }.settle

/-- Lets time pass until `n` frames of the session at a place have come to an end, for at most
    `fuel` frames. -/
def await (i n : Nat) : Nat → SessionBench → SessionBench
  | 0, b => b
  | fuel + 1, b =>
    if n ≤ (b.crew.relay.session i).stats.settled then b
    else
      match b.crew.relay.nextSource? with
      | none => b
      | some (j, source) => await i n fuel (b.wake j source)

/-! ### The end -/

/-- Opens all gates, ends all workers, and drops all sessions in the order of their names. -/
def shutdown (b : SessionBench) : SessionBench :=
  let b := (List.range b.crew.scripts.length).foldl (fun b r => b.setGate r false) b
  let b := b.workers.foldl (fun b w => (b.exit w).2) b
  let names := (b.names.map Prod.fst).mergeSort fun x y => x ≤ y
  let b := names.foldl (fun b n => (b.drop n).2) b
  (b.withRelay fun w => ((), w.exitThread .control)).2

end SessionBench

end DepthRelay.Bench
