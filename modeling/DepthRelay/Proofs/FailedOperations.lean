import DepthRelay.Proofs.Blurring

namespace DepthRelay

/-!
# Operations that fail

An operation of a session that fails has done nothing that anybody could notice, then or later.
What it leaves behind is blurred: the choices of a device object that has been given back, and the
samples of an earlier run in a log that is off.

* `Relay.perform_failed` — a relay looks the same before and after an operation that fails.
* `Relay.perform_failed_stop` — after a stop that fails it is the same.
* `World.Sight`, `World.sight` — what can be read off a world from outside.
* `failed_operation_leaves_no_trace` — a failed operation can be struck out of any schedule.
-/

variable {σ : Type}

/-! ### What is left behind -/

namespace Camera

variable {c c' : Camera Nat}

/-- To a camera that is not in use a release does nothing. -/
theorem Idle.release_eq (hidle : c.Idle) : c.release = c := by
  obtain ⟨hinitialized, hcapturing, hlistener⟩ := hidle
  cases c
  simp_all [release]

/-- Of a camera that was not in use, preparations in vain leave nothing that can be seen. -/
theorem blurred_of_residue (hidle : c.Idle) (hresidue : c'.blank = c.blank.release) :
    c'.blurred = c.blurred := by
  obtain ⟨-, -, hinitialized, -⟩ := residue hresidue
  calc
    c'.blurred = c'.blank := blurred_of_not_initialized hinitialized
    _ = c.release.blank := hresidue
    _ = c.blank := by rw [hidle.release_eq]
    _ = c.blurred := (blurred_of_not_initialized hidle.1).symm

end Camera

/-- A log that was off looks the same once it has been switched on and off again. -/
theorem TimingLog.blurred_of_off {l : TimingLog} (hoff : l.enabled = false) (timing : Bool) :
    ((l.setEnabled timing).setEnabled false).blurred = l.blurred := by
  unfold blurred setEnabled
  simp [hoff]

namespace Relay

variable {w : Relay} {closing : List Nat} {i : Nat}

/-- **A relay looks the same after an operation that fails.**  If the operation is an opening, it
    must not have gone for a camera that another session holds: that camera is given back. -/
theorem perform_failed (op : Operation) (hcustody : Custody (w.standing closing))
    (hi : i < w.sessions.length) (hfailed : (op.perform i w).1.failed = true)
    (hprivate : ∀ d key address p j, op = .openCamera d key address → w.target? d = some p →
      w.Holds j p → j = i) :
    (op.perform i w).2.blurred = w.blurred := by
  obtain ⟨s, hs⟩ : ∃ s, w.sessions[i]? = some s := ⟨_, List.getElem?_eq_getElem hi⟩
  obtain ⟨hclosed, hfound⟩ := of_custody hcustody hs
  have hcases := perform_cases op hs hclosed hfound
  rw [hfailed] at hcases
  generalize (op.perform i w).2 = v at hcases ⊢
  -- Only three ways to end are failures.
  cases hcases with
  | idle => rfl
  | undone d key address p c c' target found residue closed =>
    have hunheld (j : Nat) : ¬w.Holds j p := fun hj =>
      hcustody.not_holds (session_standing hs) closed (holds_standing.mpr hj)
        (hprivate d key address p j rfl target hj)
    have hsame : c'.blurred = c.blurred :=
      Camera.blurred_of_residue (idle_of_not_holds hcustody found hunheld) residue
    unfold blurred
    rw [map_set_of_eq found hsame]
  | unstarted timing o c held found state =>
    -- The run would have been the first to switch the log on.
    have hoff : s.timing.enabled = false := by
      cases hon : s.timing.enabled with
      | false => rfl
      | true =>
        have hcapturing := hcustody.timed i s.standing (session_standing hs) hon
        exact absurd (state.symm.trans hcapturing) (by decide)
    have hsame : Session.blurred
        { s with timing := (s.timing.setEnabled timing).setEnabled false } = s.blurred := by
      unfold Session.blurred
      dsimp only
      rw [TimingLog.blurred_of_off hoff]
    rw [blurred_update, hsame, ← blurred_update, update_self hs found]

/-- **After a stop that fails the relay is the same.** -/
theorem perform_failed_stop (hcustody : Custody (w.standing closing))
    (hi : i < w.sessions.length) (hfailed : (Operation.stop.perform i w).1.failed = true) :
    (Operation.stop.perform i w).2 = w := by
  obtain ⟨s, hs⟩ : ∃ s, w.sessions[i]? = some s := ⟨_, List.getElem?_eq_getElem hi⟩
  obtain ⟨hclosed, hfound⟩ := of_custody hcustody hs
  have hcases := perform_cases .stop hs hclosed hfound
  rw [hfailed] at hcases
  generalize (Operation.stop.perform i w).2 = v at hcases ⊢
  cases hcases with
  | idle => rfl

end Relay

/-! ### What can be seen -/

/-- What a camera shows of itself. -/
structure Camera.Sight where
  initialized : Bool
  capturing : Bool
  heard : Bool
  exposureTime : UInt32
  emitted : Nat
  deriving DecidableEq, Repr

def Camera.sight (c : Camera Nat) : Camera.Sight where
  initialized := c.initialized
  capturing := c.capturing
  heard := c.listener.isSome
  exposureTime := c.exposureTime
  emitted := c.emitted

namespace World

/-- What can be read off a world from outside. -/
structure Sight (σ : Type) where
  states : List SessionState
  stats : List Stats
  cameras : List Camera.Sight
  /-- The buffers that are exposed, by hosts. -/
  exposed : List (List View)
  /-- What the handlers remember. -/
  host : σ

def sight (w : World σ) : Sight σ where
  states := w.relay.sessions.map Session.state
  stats := w.relay.sessions.map Session.stats
  cameras := w.relay.cameras.map Camera.sight
  exposed := w.relay.runtimes.map Runtime.exposed
  host := w.host

/-- Nothing of it is blurred. -/
theorem sight_blurred (w : World σ) : w.blurred.sight = w.sight := by
  have hcamera (c : Camera Nat) : c.blurred.sight = c.sight := by
    unfold Camera.sight
    simp
  unfold sight
  simp only [blurred, Live.blurred, Live.withRelay, Relay.blurred, List.map_map]
  congr 1
  apply List.map_congr_left
  intro c _
  exact hcamera c

variable {w : World σ} {h : Handler σ} {i : Nat} {op : Operation} {r : Operation.Result}

/-- A session that takes calls answers. -/
theorem step_operate (hready : w.ready i = true) :
    w.step h (.operate i op) =
      (.answered (op.perform i w.relay).1, w.setRelay (op.perform i w.relay).2) :=
  if_pos hready

/-- Only a session that takes calls answers. -/
theorem of_answered (hanswer : (w.step h (.operate i op)).1 = .answered r) :
    w.ready i = true ∧ (op.perform i w.relay).1 = r := by
  by_cases hready : w.ready i
  · rw [step_operate hready] at hanswer
    exact ⟨hready, Response.answered.inj hanswer⟩
  · have hunavailable : w.step h (.operate i op) = (.unavailable, w) := if_neg hready
    rw [hunavailable] at hanswer
    exact absurd hanswer (by simp)

/-- A world looks the same after an operation that fails. -/
theorem step_failed (hcustody : Custody w.standing)
    (hanswer : (w.step h (.operate i op)).1 = .answered r) (hfailed : r.failed = true)
    (hprivate : (Event.operate i op).Private w) :
    (w.step h (.operate i op)).2.blurred = w.blurred := by
  obtain ⟨hready, rfl⟩ := of_answered hanswer
  have hi := (of_ready hready).1
  rw [step_operate hready]
  have hrelay : (op.perform i w.relay).2.blurred = w.relay.blurred := by
    refine Relay.perform_failed op hcustody hi hfailed ?_
    rintro d key address p j rfl htarget hholds
    exact hprivate i p j ⟨hi, d, key, address, rfl, htarget⟩ hholds
  unfold blurred Live.blurred
  dsimp only [setRelay, Live.withRelay]
  rw [hrelay]

/-- A world is the same after a stop that fails. -/
theorem step_failed_stop (hcustody : Custody w.standing)
    (hanswer : (w.step h (.operate i .stop)).1 = .answered r) (hfailed : r.failed = true) :
    (w.step h (.operate i .stop)).2 = w := by
  obtain ⟨hready, rfl⟩ := of_answered hanswer
  have hrelay := Relay.perform_failed_stop hcustody (of_ready hready).1 hfailed
  rw [step_operate hready, hrelay]
  rfl

/-- An opening is private if no other session holds the camera that it goes for. -/
theorem private_openCamera {d : Descriptor} {key : UInt32} {address : Nat}
    (hothers : ∀ j < w.relay.sessions.length, ∀ o ∈ (w.relay.session j).camera,
      w.relay.target? d = some o.device.camera → j = i) :
    (Event.operate i (.openCamera d key address)).Private w := by
  rintro _ _ j ⟨-, d, key, address, hreach, htarget⟩ ⟨s, o, hs, ho, rfl⟩
  obtain ⟨rfl, hopen⟩ := Event.operate.inj hreach
  obtain ⟨rfl, -, -⟩ := Operation.openCamera.inj hopen
  refine hothers j (List.getElem?_eq_some_iff.mp hs).1 o ?_ htarget
  rw [Relay.session_eq hs]
  exact ho

end World

/-! ### Striking an operation out -/

/-- **A failed operation leaves no trace.**  Struck out of a schedule, it changes no answer to
    anybody else, no delivery and nothing of what can be seen in the end, whatever the schedule goes
    on with; only an opening must not have gone for a camera that another session holds.  A stop
    that fails changes nothing at all, so the samples of its run wait for the next one. -/
theorem failed_operation_leaves_no_trace (profiles : List CameraProfile) (runtimes : Nat)
    (sessions : List (Nat × Settings)) (host : σ) (now : Nat) (h : Handler σ)
    (before after : List Event) (i : Nat) (op : Operation) (r : Operation.Result) :
    let start := World.fresh profiles runtimes sessions (host, []) now
    let w := start.run h.noting before
    let e := Event.operate i op
    (w.step h.noting e).1 = .answered r → r.failed = true → e.Private w →
      (start.responses h.noting (before ++ e :: after)).eraseIdx before.length =
          start.responses h.noting (before ++ after) ∧
        (start.run h.noting (before ++ e :: after)).sight =
          (start.run h.noting (before ++ after)).sight ∧
        (op = .stop → (w.step h.noting e).2 = w) := by
  intro start w e hanswer hfailed hprivate
  have hw : Custody w.standing := World.custody_run h.noting before
    (World.custody_fresh profiles runtimes sessions (host, []) now)
  have hv : Custody (w.step h.noting e).2.standing := hw.shift (World.step_shift h.noting e hw)
  -- From here on two worlds that look alike go through the same schedule.
  obtain ⟨hresponses, halike⟩ := World.run_of_blurred h.noting after hv hw
    (World.step_failed hw hanswer hfailed hprivate)
  refine ⟨?_, ?_, ?_⟩
  · have hlength := World.length_responses h.noting before start
    rw [World.responses_append, World.responses_append,
      List.eraseIdx_append_of_length_le (Nat.le_of_eq hlength), hlength, Nat.sub_self]
    show _ ++ (w.step h.noting e).2.responses h.noting after = _ ++ w.responses h.noting after
    rw [hresponses]
  · rw [World.run_append, World.run_append]
    show ((w.step h.noting e).2.run h.noting after).sight = (w.run h.noting after).sight
    rw [← World.sight_blurred, halike, World.sight_blurred]
  · rintro rfl
    exact World.step_failed_stop hw hanswer hfailed

/-- While another session captures, an opening fails at the last stage; it can be struck out. -/
theorem failed_operation_leaves_no_trace_opening :
    let h := Handler.accepting.noting
    let start : World (Unit × List (Nat × Delivery)) :=
      World.fresh [{ serial := "A", fd := 3 }, { serial := "B", fd := 4 }] 2
        [(0, { maxPoints := 2 }), (1, { maxPoints := 2 })] ((), []) 0
    let before : List Event :=
      [.operate 1 (.openCamera ⟨4⟩ 5 96), .operate 1 (.start true), .emit "W" 1 [default],
        .fail 0 .setExposureMode .deviceIsBusy]
    let op : Operation := .openCamera ⟨3⟩ 5 64
    let after : List Event :=
      [.clearFaults 0, .operate 0 (.openCamera ⟨3⟩ 10 64), .operate 0 (.start false),
        .emit "W" 0 [default]]
    (op.perform 0 (start.run h before).relay).1.failed = true ∧
      (start.responses h (before ++ .operate 0 op :: after)).eraseIdx 4 =
        start.responses h (before ++ after) ∧
      (start.run h (before ++ .operate 0 op :: after)).sight =
        (start.run h (before ++ after)).sight ∧
      (start.run h (before ++ after)).host.2.map Prod.fst = [1, 0] := by
  intro h start before op after
  have hready : (start.run h before).ready 0 = true := by decide
  have hfailed : (op.perform 0 (start.run h before).relay).1.failed = true := by decide
  have hanswer : ((start.run h before).step h (.operate 0 op)).1 =
      .answered (op.perform 0 (start.run h before).relay).1 :=
    congrArg Prod.fst (World.step_operate hready)
  have hprivate : (Event.operate 0 op).Private (start.run h before) :=
    World.private_openCamera (by decide)
  obtain ⟨hresponses, hsight, -⟩ := failed_operation_leaves_no_trace _ 2 _ () 0 Handler.accepting
    before after 0 op _ hanswer hfailed hprivate
  refine ⟨hfailed, hresponses, hsight, ?_⟩
  decide

end DepthRelay
