import DepthRelay.Proofs.ExposedBuffers
import DepthRelay.Proofs.FailedOperations
import DepthRelay.Proofs.OperationErrors
import Mathlib.Data.List.Nodup

namespace DepthRelay

/-!
# Stages of an opening

An opening looks at one thing after the other, and the first that does not fit is its error.
Cameras have distinct serials here, so that the serial which a descriptor answers with names one
camera.

* `OpeningStage.choosing`, `OpeningStage.preparing` — the stages in their order, before and after
  there is a camera to work on; `OpeningStage.failure?` is the error that a stage makes.
* `Relay.openSession_error?` — the answer of an opening is the first failure, or the host's refusal
  of the buffer.
* `Relay.Opens`, `Relay.opens_of_ok` — what an opening that has worked leaves.
* `opening_stages` — openings in every reachable world.
-/

variable {σ : Type}

/-! ### Stages -/

/-- The cameras that are reachable through a descriptor. -/
def Relay.behind (d : Descriptor) (w : Relay) : List (Camera Nat) :=
  w.cameras.filter (·.profile.fd == d.fd)

theorem Relay.connected_eq (d : Descriptor) (w : Relay) :
    connected w.cameras d = (w.behind d).map (·.profile.serial) := rfl

/-- What an opening looks at. -/
inductive OpeningStage
  /-- The session is closed. -/
  | state
  /-- The key is that of a frame rate. -/
  | rate
  /-- One camera is reachable through the descriptor. -/
  | count
  /-- A driver call works. -/
  | call (x : DriverOp)
  /-- The camera offers use cases. -/
  | offers
  /-- The camera offers the use case of the frame rate. -/
  | useCase
  deriving DecidableEq, Repr

namespace OpeningStage

/-- The stages that lead to a camera. -/
def choosing : List OpeningStage := [state, rate, count]

/-- The stages on that camera. -/
def preparing : List OpeningStage :=
  [call .createCamera, call .prepare, call .registerListener, call .useCases, offers, useCase,
    call .setUseCase, call .setExposureMode]

/-- The error that a stage makes when the session `s` asks for the camera behind `d` at the rate
    with a key. -/
def failure? (s : Session) (d : Descriptor) (key : UInt32) (w : Relay) :
    OpeningStage → Option RelayError
  | state => if s.state = .closed then none else some (.invalidState "open" s.state)
  | rate => if (FrameRate.ofKey? key).isSome then none else some (.unsupportedFrameRate key)
  | count =>
    match w.behind d with
    | [] => some .noDevice
    | [_] => none
    | cameras => some (.ambiguousDevice cameras.length)
  | call x => (w.behind d).head?.bind (·.injected x)
  | offers => (w.behind d).head?.bind fun c =>
    if c.profile.useCases = [] then some (.device DriverOp.useCases.text .noUseCasesForDevice)
    else none
  | useCase => (w.behind d).head?.bind fun c => (FrameRate.ofKey? key).bind fun rate =>
    if rate.useCase ∈ c.profile.useCases then none else some (.useCaseNotFound rate.useCase)

/-- The error of the first stage that fails. -/
def firstFailure? (s : Session) (d : Descriptor) (key : UInt32) (w : Relay) : Option RelayError :=
  (choosing ++ preparing).findSome? (failure? s d key w)

variable {s : Session} {d : Descriptor} {key : UInt32} {w : Relay} {c : Camera Nat}
  {rate : FrameRate}

/-- Nothing fails before there is a camera if and only if it is clear which camera is meant. -/
theorem choosing_eq_none :
    choosing.findSome? (failure? s d key w) = none ↔
      s.state = .closed ∧ (∃ rate, FrameRate.ofKey? key = some rate) ∧ ∃ c, w.behind d = [c] := by
  have hcount : failure? s d key w count = none ↔ ∃ c, w.behind d = [c] := by
    unfold failure?
    rcases w.behind d with _ | ⟨c, _ | ⟨c', rest⟩⟩ <;> simp
  rw [List.findSome?_eq_none_iff]
  simp only [choosing, List.forall_mem_cons, List.not_mem_nil, IsEmpty.forall_iff, implies_true,
    and_true, hcount]
  simp [failure?, Option.isSome_iff_exists]

/-- The stages on an idle camera are those of its preparation. -/
theorem preparing_findSome? {b : FrameBuffer} (hbehind : w.behind d = [c])
    (hrate : FrameRate.ofKey? key = some rate) (hidle : c.capturing = false) :
    preparing.findSome? (failure? s d key w) =
      (c.injected .createCamera).or (Session.refusal? rate (.ok b) c) := by
  have hoffers : (c.profile.useCases.isEmpty = true) = (c.profile.useCases = []) := by simp
  simp only [preparing, findSome?_cons_or, List.findSome?_nil, failure?, hbehind, hrate,
    List.head?_cons, Option.bind_some, Session.refusal?, Session.stage?, Session.error?,
    Camera.injected, DriverOp.text, hidle, hoffers, Bool.false_eq_true, if_false, Option.or_none,
    Option.none_or, List.contains_iff_mem, Option.map_or, Option.or_assoc]
  split <;> rfl

end OpeningStage

namespace Relay

variable {w : Relay} {i : Nat} {s : Session} {d : Descriptor} {key : UInt32} {address : Nat}

/-! ### The answer of an opening -/

/-- Serials tell cameras apart. -/
def Distinct (w : Relay) : Prop := (w.cameras.map (·.profile.serial)).Nodup

/-- The camera behind a descriptor is the one that is found by its serial. -/
theorem found_behind {c : Camera Nat} (hdistinct : w.Distinct) (hbehind : w.behind d = [c]) :
    ∃ p, place? w.cameras c.profile.serial = some p ∧ w.target? d = some p ∧
      w.cameras[p]? = some c := by
  have hserials : connected w.cameras d = [c.profile.serial] := by
    rw [connected_eq, hbehind, List.map_singleton]
  obtain ⟨p, c', hplace, htarget, hc'⟩ := found_of_connected hserials
  obtain ⟨hp, hserial, -⟩ := List.findIdx?_eq_some_iff_getElem.mp hplace
  have hc : c ∈ w.cameras := (List.mem_filter.mp (hbehind ▸ List.mem_singleton_self c)).1
  obtain rfl := Option.some.inj (hc'.symm.trans (List.getElem?_eq_getElem hp))
  have hsame := List.inj_on_of_nodup_map hdistinct (List.getElem_mem hp) hc (by simpa using hserial)
  exact ⟨p, hplace, htarget, hsame ▸ hc'⟩

/-- An opening fails before there is a camera. -/
theorem openSession_of_choosing (address : Nat) (hs : w.sessions[i]? = some s) {e : RelayError}
    (he : OpeningStage.choosing.findSome? (OpeningStage.failure? s d key w) = some e) :
    w.openSession d key address i = (.error e, w) := by
  unfold openSession
  rw [session_eq hs]
  simp only [OpeningStage.choosing, findSome?_cons_or, List.findSome?_nil] at he
  by_cases hstate : s.state = .closed
  · rw [if_pos hstate]
    cases hrate : FrameRate.ofKey? key with
    | none =>
      simp only [OpeningStage.failure?, hstate, hrate, if_true, Option.isSome_none,
        Bool.false_eq_true, if_false, Option.none_or, Option.some_or, Option.some.injEq] at he
      rw [← he]
    | some rate =>
      simp only [OpeningStage.failure?, hstate, hrate, if_true, Option.isSome_some, Option.none_or,
        Option.or_none] at he
      rw [connected_eq]
      rcases hbehind : w.behind d with _ | ⟨c, _ | ⟨c', rest⟩⟩
      · rw [hbehind] at he
        obtain rfl := Option.some.inj he
        rfl
      · rw [hbehind] at he
        exact absurd he (by simp)
      · rw [hbehind] at he
        obtain rfl := Option.some.inj he
        simp
  · simp only [OpeningStage.failure?, hstate, if_false, Option.some_or, Option.some.injEq] at he
    rw [if_neg hstate, ← he]

/-- **The answer of an opening** is the failure of the first stage that fails, or the host's refusal
    of the buffer, if a camera in use is out of reach. -/
theorem openSession_error? (key : UInt32) (address : Nat) (hs : w.sessions[i]? = some s)
    (hdistinct : w.Distinct)
    (hidle : s.state = .closed → ∀ p c, w.target? d = some p → w.cameras[p]? = some c →
      c.capturing = false)
    (hroom : s.settings.maxPoints.toNat ≤ Sensor.maxPoints) :
    Session.error? (w.openSession d key address i).1 =
      (OpeningStage.firstFailure? s d key w).or
        ((w.runtime s.runtime).exposeFault.map .host) := by
  unfold OpeningStage.firstFailure?
  rw [List.findSome?_append]
  cases hchoosing : OpeningStage.choosing.findSome? (OpeningStage.failure? s d key w) with
  | some e =>
    rw [openSession_of_choosing address hs hchoosing]
    rfl
  | none =>
    obtain ⟨hstate, ⟨rate, hrate⟩, c, hbehind⟩ := OpeningStage.choosing_eq_none.mp hchoosing
    obtain ⟨p, hplace, htarget, hc⟩ := found_behind hdistinct hbehind
    have hserials : connected w.cameras d = [c.profile.serial] := by
      rw [connected_eq, hbehind, List.map_singleton]
    have hbuffer : FrameBuffer.ofCapacity address s.settings.maxPoints.toNat = .ok _ :=
      FrameBuffer.ofCapacity_eq_ok.mpr ⟨hroom, rfl⟩
    unfold openSession
    rw [session_eq hs, if_pos hstate, hrate]
    simp only [hserials, hplace, Option.bind_some, hc, Option.map_some, Option.none_or]
    rw [openCamera_error? (by rw [session_eq hs]; exact hbuffer), session_eq hs,
      OpeningStage.preparing_findSome? hbehind hrate (hidle hstate p c htarget hc)]

/-! ### What an opening leaves -/

/-- The session `s` at place `i` has opened the camera `c` at place `p`, the one behind `d`, and its
    host sees one more buffer, `v`. -/
structure Opens (d : Descriptor) (i : Nat) (s : Session) (rate : FrameRate) (p : Nat)
    (c : Camera Nat) (v : View) (w w' : Relay) : Prop where
  alone : w.behind d = [c]
  place : w.cameras[p]? = some c
  /-- The camera is initialised and configured, with a new channel as its listener. -/
  cameras : w'.cameras = w.cameras.set p
    { c with
      initialized := true
      listener := some w.channels.length
      useCase := some rate.useCase
      exposureMode := .manual }
  channel : ∃ x, w'.channels = w.channels ++ [x] ∧ x.session = i ∧ x.view = v
  state : (w'.session i).state = .opened
  length : v.length = 12 * s.settings.maxPoints.toNat
  hosted : s.runtime < w.runtimes.length
  fresh : v ∉ (w.runtime s.runtime).exposed
  exposed : w'.runtimes.map Runtime.exposed =
    (w.runtimes.map Runtime.exposed).modify s.runtime (v :: ·)

/-- How an opening of the session `s` at place `i` ends. -/
structure Staged (d : Descriptor) (key : UInt32) (i : Nat) (s : Session)
    (result : Except RelayError Unit) (w w' : Relay) : Prop where
  /-- The error is that of the first stage that fails; a host that refuses the buffer comes last. -/
  error : Session.error? result =
    (OpeningStage.firstFailure? s d key w).or ((w.runtime s.runtime).exposeFault.map .host)
  succeeds : result = .ok () ↔
    (∀ stage ∈ OpeningStage.choosing ++ OpeningStage.preparing, stage.failure? s d key w = none) ∧
      (w.runtime s.runtime).exposeFault = none
  opens : result = .ok () → ∃ rate p c v, FrameRate.ofKey? key = some rate ∧
    Opens d i s rate p c v w w'
  /-- Nothing at all is changed before it is clear which camera is meant. -/
  spares : (∃ stage ∈ OpeningStage.choosing, stage.failure? s d key w ≠ none) → w' = w

/-- Without an error there is a success. -/
theorem ok_iff_error?_eq_none {result : Except RelayError Unit} :
    result = .ok () ↔ Session.error? result = none := by
  rcases result with e | ⟨⟩ <;> simp [Session.error?]

/-- What an opening that has worked leaves, if nobody shows the new buffer. -/
theorem opens_of_ok (hs : w.sessions[i]? = some s) (hdistinct : w.Distinct)
    (hok : (w.openSession d key address i).1 = .ok ())
    (hnone : OpeningStage.firstFailure? s d key w = none) (hhosted : s.runtime < w.runtimes.length)
    (hfresh : ∀ x, (w.openSession d key address i).2.channels = w.channels ++ [x] →
      x.view ∉ (w.runtime s.runtime).exposed) :
    ∃ rate p c v, FrameRate.ofKey? key = some rate ∧
      Opens d i s rate p c v w (w.openSession d key address i).2 := by
  unfold OpeningStage.firstFailure? at hnone
  rw [List.findSome?_append, Option.or_eq_none_iff] at hnone
  obtain ⟨-, -, c, hbehind⟩ := OpeningStage.choosing_eq_none.mp hnone.1
  obtain ⟨p, -, htarget, hc⟩ := found_behind hdistinct hbehind
  have hcases := openSession_cases d key address i w
  rw [hok] at hcases
  generalize (w.openSession d key address i).2 = w' at hcases hfresh ⊢
  cases hcases with
  | done q c' rate b r target found closed idle rated room exposed =>
    obtain rfl := Option.some.inj (htarget.symm.trans target)
    obtain rfl := Option.some.inj (hc.symm.trans found)
    rw [session_eq hs] at room exposed
    obtain ⟨-, rfl⟩ := FrameBuffer.ofCapacity_eq_ok.mp room
    let v := (FrameBuffer.zeros address s.settings.maxPoints.toNat).view
    -- The view is new, so that it is put in front of those that are exposed.
    have hview : v ∉ (w.runtime s.runtime).exposed := hfresh _ rfl
    refine ⟨rate, p, c, v, rated, hbehind, hc, rfl, ⟨_, rfl, rfl, rfl⟩, ?_, ?_, hhosted, hview, ?_⟩
    · simp [session, opened, update, List.getD_eq_getElem?_getD, (List.getElem?_eq_some_iff.mp hs).1]
    · simp [v, FrameBuffer.view, FrameBuffer.zeros, Sensor.floatsPerPoint]
      omega
    · -- What the host exposes is the only other change.
      have hbefore : (w.runtimes.map Runtime.exposed)[s.runtime]? =
          some (w.runtime s.runtime).exposed := by
        rw [runtime_eq (List.getElem?_eq_getElem hhosted)]
        simp [hhosted]
      show (w.runtimes.set (w.session i).runtime r).map Runtime.exposed = _
      rw [session_eq hs, exposed_set exposed, modify_of_getElem? _ hbefore,
        modify_of_getElem? _ hbefore, exposing, if_neg hview]

end Relay

/-! ### Openings in worlds -/

namespace World

variable {w : World σ} {i r : Nat} {settings : Settings}

/-- Addresses are free in two schedules, one after the other. -/
theorem disjoint_append (h : Handler σ) (es fs : List Event) (w : World σ) :
    w.disjoint h (es ++ fs) = (w.disjoint h es && (w.run h es).disjoint h fs) := by
  induction es generalizing w with
  | nil => rfl
  | cons e es ih =>
    show (e.disjoint w && disjoint h (es ++ fs) (w.step h e).2) = _
    rw [ih, ← Bool.and_assoc]
    rfl

/-- The buffer of a new channel is one that no host sees. -/
theorem Exposing.unseen (hw : w.Exposing) (h : Handler σ) {e : Event}
    (hdisjoint : e.disjoint w = true) {x : Channel}
    (hnew : (w.step h e).2.relay.channels = w.relay.channels ++ [x]) {n : Nat}
    (hn : n < w.relay.runtimes.length) : x.view ∉ (w.relay.runtime n).exposed := by
  intro hseen
  have hwirings : (w.step h e).2.standing.channels = w.standing.channels ++ [x.wiring] := by
    simp [standing, Relay.standing, hnew]
  have hexposed : w.standing.exposed[n]? = some (w.relay.runtime n).exposed := by
    rw [Relay.runtime_eq (List.getElem?_eq_getElem hn)]
    simp [standing, Relay.standing, hn]
  obtain ⟨j, hj⟩ := hw.exact.shown n _ _ hexposed hseen
  exact not_shows_new h hw.custody hw.shown hdisjoint hwirings j n hj

/-- **An opening** by a session that takes calls goes through its stages, unless another session
    holds the camera. -/
theorem Exposing.staged (hw : w.Exposing) (h : Handler σ) {d : Descriptor} {key : UInt32}
    {address : Nat} {s : Session} (hs : w.relay.sessions[i]? = some s) (hready : w.ready i = true)
    (hdistinct : w.relay.Distinct) (hroom : s.settings.maxPoints.toNat ≤ Sensor.maxPoints)
    (hdisjoint : (Event.operate i (.openCamera d key address)).disjoint w = true)
    (hprivate : (Event.operate i (.openCamera d key address)).Private w) :
    ∃ result, (w.step h (.operate i (.openCamera d key address))).1 = .answered (.unit result) ∧
      Relay.Staged d key i s result w.relay
        (w.step h (.operate i (.openCamera d key address))).2.relay := by
  have hi := (List.getElem?_eq_some_iff.mp hs).1
  have hs' : w.standing.sessions[i]? = some s.standing := Relay.session_standing hs
  -- Nobody holds the camera, so it does not capture.
  have hidle : s.state = .closed → ∀ p c, w.relay.target? d = some p →
      w.relay.cameras[p]? = some c → c.capturing = false := by
    intro hstate p c htarget hc
    refine (Relay.idle_of_not_holds hw.custody hc fun j hj => ?_).2.1
    exact hw.custody.not_holds hs' hstate (Relay.holds_standing.mpr hj)
      (hprivate i p j ⟨hi, d, key, address, rfl, htarget⟩ hj)
  have hhosted : s.runtime < w.relay.runtimes.length := by
    have hhosted := hw.shown.hosted i s.standing hs'
    simpa [standing, Relay.standing, Session.standing] using hhosted
  have herror := Relay.openSession_error? key address hs hdistinct hidle hroom
  have hunseen (x : Channel) := hw.unseen h hdisjoint (x := x) (n := s.runtime)
  rw [step_operate hready] at hunseen ⊢
  refine ⟨_, rfl, herror, ?_, ?_, ?_⟩
  · rw [Relay.ok_iff_error?_eq_none]
    show Session.error? (w.relay.openSession d key address i).1 = none ↔ _
    rw [herror, Option.or_eq_none_iff, Option.map_eq_none_iff]
    exact and_congr_left' List.findSome?_eq_none_iff
  · intro hok
    have hnone := Relay.ok_iff_error?_eq_none.mp hok
    refine Relay.opens_of_ok hs hdistinct hok ?_ hhosted fun x hnew => hunseen x hnew hhosted
    exact (Option.or_eq_none_iff.mp (herror.symm.trans hnone)).1
  · rintro ⟨stage, hmem, hfails⟩
    have hsome : OpeningStage.choosing.findSome? (OpeningStage.failure? s d key w.relay) ≠ none :=
      fun hnone => hfails (List.findSome?_eq_none_iff.mp hnone stage hmem)
    obtain ⟨e, he⟩ := Option.ne_none_iff_exists'.mp hsome
    exact congrArg Prod.snd (Relay.openSession_of_choosing address hs he)

end World

/-- **An opening fails at the first stage that does not fit, and succeeds if all do.**  Cameras have
    distinct serials, and no other session holds the camera that is meant.  Then after every
    schedule, whatever has failed in its course and whatever is made to fail right now, the error is
    that of the first stage that fails.  A session that has opened its camera has it configured and
    listens to it, and its host sees one new buffer with room for all points. -/
theorem opening_stages (profiles : List CameraProfile) (runtimes : Nat)
    (sessions : List (Nat × Settings)) (host : σ) (now : Nat) (h : Handler σ) (events : List Event)
    (i : Nat) (d : Descriptor) (key : UInt32) (address : Nat) (hi : i < sessions.length)
    (hvalid : ∀ r settings, (r, settings) ∈ sessions → r < runtimes ∧ settings.validate = .ok ())
    (hserials : (profiles.map CameraProfile.serial).Nodup)
    (hdisjoint : (World.fresh profiles runtimes sessions host now).disjoint h
      (events ++ [.operate i (.openCamera d key address)]) = true) :
    let w := (World.fresh profiles runtimes sessions host now).run h events
    let opening := Event.operate i (.openCamera d key address)
    i ∉ w.closing → opening.Private w →
      ∃ s result, w.relay.sessions[i]? = some s ∧ sessions[i]? = some (s.runtime, s.settings) ∧
        (w.step h opening).1 = .answered (.unit result) ∧
        Relay.Staged d key i s result w.relay (w.step h opening).2.relay := by
  intro w opening hfree hprivate
  rw [World.disjoint_append, Bool.and_eq_true] at hdisjoint
  have hcustody := World.custody_fresh profiles runtimes sessions host now
  have hw : w.Exposing :=
    (World.exposing_fresh profiles runtimes sessions host now hvalid).run h events hdisjoint.1
  have hlast : opening.disjoint w = true := ((Bool.and_eq_true _ _).mp hdisjoint.2).1
  have hdistinct : w.relay.Distinct := by
    have hprofiles : w.relay.cameras.map Camera.profile = profiles := by
      rw [World.profiles_run h events hcustody]
      simp [World.fresh, Function.comp_def]
    rw [← hprofiles, List.map_map] at hserials
    exact hserials
  -- The session is the one that has been added, with the same settings.
  have hfixed : w.relay.sessions.map (fun s => (s.runtime, s.settings)) = sessions := by
    rw [World.fixed_run h events hcustody]
    simp [World.fresh, Function.comp_def]
  have hlt : i < w.relay.sessions.length := by
    rw [← hfixed, List.length_map] at hi
    exact hi
  have hs := List.getElem?_eq_getElem hlt
  have hsettings : sessions[i]? = some (w.relay.sessions[i].runtime, w.relay.sessions[i].settings) := by
    simp [← hfixed, hlt]
  have hbounds := Settings.bounds_of_validate (hvalid _ _ (List.mem_of_getElem? hsettings)).2
  have hready : w.ready i = true := by simp [World.ready, hfree, hlt]
  obtain ⟨result, hanswer, hstaged⟩ :=
    hw.staged h hs hready hdistinct hbounds.1.2 hlast hprivate
  exact ⟨_, result, hs, hsettings, hanswer, hstaged⟩

/-- Two stages fail at a camera without use cases, and the driver's failure comes first.  The
    session has opened another camera before, and opens it again where its first buffer was. -/
theorem opening_stages_reopened :
    let settings : Settings := { maxPoints := 2 }
    let start : World Unit :=
      World.fresh [{ serial := "A", fd := 3, useCases := [] }, { serial := "B", fd := 4 }] 1
        [(0, settings)] () 0
    let events : List Event :=
      [.operate 0 (.openCamera ⟨4⟩ 5 64), .beginClose 0, .endClose 0, .fail 0 .useCases .timeout]
    let w := start.run .accepting events
    (∃ s, Relay.Staged ⟨3⟩ 5 0 s (.error (.device "retrieve use cases" .timeout)) w.relay
      (w.step .accepting (.operate 0 (.openCamera ⟨3⟩ 5 64))).2.relay) ∧
    ∃ s rate p c v, Relay.Opens ⟨4⟩ 0 s rate p c v w.relay
      (w.step .accepting (.operate 0 (.openCamera ⟨4⟩ 15 64))).2.relay := by
  intro settings start events w
  have hvalid : ∀ r settings', (r, settings') ∈ [(0, settings)] →
      r < 1 ∧ settings'.validate = .ok () := by
    intro r settings' hmem
    obtain ⟨rfl, rfl⟩ := Prod.mk.inj (List.mem_singleton.mp hmem)
    decide
  have hfree : 0 ∉ w.closing := by decide
  have hw : World.run .accepting events start = w := rfl
  have hbare := opening_stages _ 1 _ () 0 .accepting events 0 ⟨3⟩ 5 64 (by decide) hvalid
    (by decide) (show start.disjoint .accepting (events ++ [_]) = true by decide)
  have hagain := opening_stages _ 1 _ () 0 .accepting events 0 ⟨4⟩ 15 64 (by decide) hvalid
    (by decide) (show start.disjoint .accepting (events ++ [_]) = true by decide)
  rw [show World.fresh _ 1 _ () 0 = start from rfl, hw] at hbare hagain
  obtain ⟨s, result, -, -, hresult, hstaged⟩ := hbare hfree (World.private_openCamera (by decide))
  obtain ⟨t, result', -, -, hresult', hstaged'⟩ :=
    hagain hfree (World.private_openCamera (by decide))
  have hanswer : (w.step .accepting (.operate 0 (.openCamera ⟨3⟩ 5 64))).1 =
      .answered (.unit (.error (.device "retrieve use cases" .timeout))) := by decide
  have hanswer' : (w.step .accepting (.operate 0 (.openCamera ⟨4⟩ 15 64))).1 =
      .answered (.unit (.ok ())) := by decide
  obtain rfl := Operation.Result.unit.inj (Response.answered.inj (hresult.symm.trans hanswer))
  obtain rfl := Operation.Result.unit.inj (Response.answered.inj (hresult'.symm.trans hanswer'))
  obtain ⟨rate, p, c, v, -, hopens⟩ := hstaged'.opens rfl
  exact ⟨⟨s, hstaged⟩, t, rate, p, c, v, hopens⟩

end DepthRelay
