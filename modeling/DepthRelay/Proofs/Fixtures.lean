import DepthRelay.Proofs.Outcomes

namespace DepthRelay

/-!
# What a delivery leaves alone

A thread that delivers a frame works on a channel, a host and the counts of a session.  Cameras are
not touched by it, and neither is what a session holds, its frame source included; only before the
delivery has the camera counted the frame.

* `Relay.fixtures` — the cameras, for each session its state and what it holds, and the identity of
  the next frame source.
* `Live.fixtures_deliver`, `Live.fixtures_dispatch` — deliveries leave all of it alone.
* `Live.fixtures_emit` — a frame that is injected is counted by its camera.
* `Live.faults_wake` — a frame source makes no driver call fail.
-/

variable {σ : Type}

/-- What deliveries leave alone. -/
structure Fixtures where
  cameras : List (Camera Nat)
  /-- For each session its state and what it holds. -/
  sessions : List (SessionState × Option OpenCamera)
  /-- Identity of the next frame source. -/
  nextRun : Nat

/-- What deliveries leave alone of a relay. -/
def Relay.fixtures (w : Relay) : Fixtures where
  cameras := w.cameras
  sessions := w.sessions.map fun s => (s.state, s.camera)
  nextRun := w.nextRun

namespace Relay

variable (w : Relay)

/-- A change of a session other than to its state and what it holds. -/
theorem fixtures_modifySession (i : Nat) {f : Session → Session}
    (h : ∀ s, (f s).state = s.state ∧ (f s).camera = s.camera) :
    (w.modifySession i f).fixtures = w.fixtures := by
  unfold fixtures modifySession
  rw [map_modify_of_eq fun s _ => by rw [(h s).1, (h s).2]]

theorem fixtures_count (k : Nat) (f : Stats → Stats) : (w.count k f).fixtures = w.fixtures :=
  fixtures_modifySession w _ fun _ => ⟨rfl, rfl⟩

/-- Attaching changes no session's state and no camera. -/
theorem fixtures_begin (t : ThreadId) (k : Nat) : (w.begin t k).2.fixtures = w.fixtures := by
  unfold begin
  dsimp only
  generalize w.attachments.attach t (w.channel k).binding w.runtimes = result
  obtain ⟨handle, as, runtimes⟩ := result
  cases handle with
  | some h => rfl
  | none => exact fixtures_count _ k _

/-- A frame is written into a buffer, which is no fixture. -/
theorem fixtures_publish (k : Nat) (points : List Point) :
    (w.publish k points).2.fixtures = w.fixtures := by
  unfold publish
  cases (w.channel k).publish points with
  | error e => exact fixtures_count w k _
  | ok result => exact fixtures_count _ k _

theorem fixtures_enter (k : Nat) (d : Delivery) : (w.enter k d).2.fixtures = w.fixtures := by
  unfold enter
  dsimp only
  cases (w.runtime (w.channel k).binding.runtime).enter d.view <;> rfl

/-- A sample is none either. -/
theorem fixtures_time (t : Ticket) : (w.time t).fixtures = w.fixtures := by
  unfold time
  cases t.started with
  | none => rfl
  | some start => exact fixtures_modifySession w _ fun _ => ⟨rfl, rfl⟩

/-- The end of a call changes hosts and counts only. -/
theorem fixtures_conclude (t : Ticket) (call : Except HostError Unit) :
    (w.conclude t call).fixtures = w.fixtures := by
  unfold conclude
  dsimp only
  cases ((w.runtime (w.channel t.channel).binding.runtime).conclude call t.handle).1 with
  | delivered => exact (fixtures_time _ t).trans (fixtures_count _ _ _)
  | failed text => exact fixtures_count _ _ _

/-- A frame that waits changes its channel and the counts only. -/
theorem fixtures_submit (k : Nat) (q : Handoff) (points : List Point) :
    (w.submit k q points).fixtures = w.fixtures := by
  unfold submit
  cases q.submit points with
  | mk status q' =>
    cases status with
    | queued => rfl
    | dropped => exact fixtures_count _ k _

/-- To take out a frame leaves fixtures as they are. -/
theorem fixtures_takeQueued? {k : Nat} {points : List Point} {v : Relay}
    (h : w.takeQueued? k = some (points, v)) : v.fixtures = w.fixtures := by
  obtain ⟨q, rest, -, -, rfl⟩ := takeQueued?_eq_some h
  rfl

end Relay

namespace Live

variable (h : Handler σ) (l : Live σ)

/-- A call of the handler, and its end. -/
theorem fixtures_handle (t : Ticket) (d : Delivery) :
    (l.handle h t d).2.relay.fixtures = l.relay.fixtures := by
  have henter := Relay.fixtures_enter l.relay t.channel d
  unfold handle
  generalize l.relay.enter t.channel d = result at henter ⊢
  obtain ⟨answer, w⟩ := result
  cases answer with
  | error e => exact (Relay.fixtures_conclude _ t _).trans henter
  | ok u =>
    dsimp only
    split
    · exact henter
    · exact (Relay.fixtures_conclude _ t _).trans henter

/-- **A delivery touches neither cameras nor what sessions hold.** -/
theorem fixtures_deliver (t : ThreadId) (k : Nat) (points : List Point) :
    (l.deliver h t k points).2.relay.fixtures = l.relay.fixtures := by
  have hbegin := Relay.fixtures_begin l.relay t k
  unfold deliver
  generalize l.relay.begin t k = result at hbegin ⊢
  obtain ⟨ticket, w⟩ := result
  cases ticket with
  | none => exact hbegin
  | some ticket =>
    have hpublish := (Relay.fixtures_publish w k points).trans hbegin
    dsimp only
    generalize w.publish k points = result at hpublish ⊢
    obtain ⟨delivery, v⟩ := result
    cases delivery with
    | none => exact hpublish
    | some d => exact (fixtures_handle h (l.withRelay v) ticket d).trans hpublish

/-- **A dispatch thread** leaves sessions and cameras alone. -/
theorem fixtures_dispatch (k : Nat) : (l.dispatch h k).relay.fixtures = l.relay.fixtures := by
  unfold dispatch
  cases htake : l.relay.takeQueued? k with
  | none => rfl
  | some taken =>
    obtain ⟨points, w⟩ := taken
    have hdeliver := (fixtures_deliver h (l.withRelay w) (.dispatch k) k points).trans
      (Relay.fixtures_takeQueued? _ htake)
    dsimp only
    generalize (l.withRelay w).deliver h (.dispatch k) k points = result at hdeliver ⊢
    obtain ⟨answer, v⟩ := result
    cases answer <;> exact hdeliver

/-- **A frame that is injected is counted by its camera** if somebody listens, and touches nothing
    else of what is fixed. -/
theorem fixtures_emit (hreturns : h.Returns) (t : ThreadId) (p : Nat) (points : List Point) :
    (l.emit h t p points).2.relay.fixtures =
      if (l.relay.listener? p).isSome then (l.relay.noteEmitted p).fixtures
      else l.relay.fixtures := by
  rw [emit_eq hreturns]
  cases l.relay.listener? p with
  | none => rfl
  | some k =>
    dsimp only
    cases (l.relay.channel k).handoff with
    | some q => exact Relay.fixtures_submit _ k q points
    | none => exact fixtures_deliver h (l.withRelay (l.relay.noteEmitted p)) t k points

end Live

/-! ### Faults -/

/-- A frame source that wakes up does not touch the cameras. -/
theorem Relay.cameras_wakeSource (i : Nat) (source : Source) (w : Relay) :
    (w.wakeSource i source).2.cameras = w.cameras := by
  unfold wakeSource
  dsimp only
  split
  · split <;> rfl
  · rfl

/-- Frames do not make driver calls fail. -/
theorem Live.faults_emit (h : Handler σ) (hreturns : h.Returns) (l : Live σ) (t : ThreadId)
    (p : Nat) (points : List Point) :
    (l.emit h t p points).2.relay.cameras.map Camera.faults =
      l.relay.cameras.map Camera.faults := by
  have hcameras := congrArg Fixtures.cameras (fixtures_emit h l hreturns t p points)
  unfold Relay.fixtures at hcameras
  dsimp only at hcameras
  rw [hcameras]
  split
  · exact map_modify_of_eq fun _ _ => rfl
  · rfl

/-- Nor do frames of a source. -/
theorem Live.faults_wake (h : Handler σ) (hreturns : h.Returns) (l : Live σ) (i : Nat)
    (source : Source) :
    (l.wake h i source).relay.cameras.map Camera.faults = l.relay.cameras.map Camera.faults := by
  have hcameras := Relay.cameras_wakeSource i source l.relay
  rw [wake_eq hreturns]
  generalize l.relay.wakeSource i source = result at hcameras ⊢
  obtain ⟨frame, v⟩ := result
  dsimp only at hcameras
  cases frame with
  | none => exact congrArg _ hcameras
  | some frame =>
    exact (faults_emit h hreturns (l.withRelay v) _ frame.1 frame.2).trans (congrArg _ hcameras)

end DepthRelay
