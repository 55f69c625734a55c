import DepthRelay.Proofs.BufferContents
import DepthRelay.Proofs.Metadata
import DepthRelay.Proofs.Passage

namespace DepthRelay

/-!
# What hosts decode

A host that reads a delivery by the layout of its session finds the points that the driver has
handed over.

* `Delivery.Shows` — what a host finds in a delivery for a frame.
* `Wiring.Fits` — how a channel is made for its session; `shows_of_carries` is what follows for the
  frame at the front of its buffer, and `shows_of_delivery?` for its deliveries.
* `Fitted` — all channels are made for their sessions, which every step keeps.
* `deliveries_decode` — whole runs.
-/

variable {σ : Type}

/-! ### One delivery -/

/-- What a host finds in a delivery for the frame `points`, by the layout of the session `s`. -/
structure Delivery.Shows (d : Delivery) (s : Session) (points : List Point) : Prop where
  /-- All points, or as many as there is room for. -/
  counted : d.pointCount = min points.length s.pointLayout.maxPoints
  whole : s.settings.overflowPolicy = .reject → points.length ≤ s.pointLayout.maxPoints
  sized : d.data.size = s.pointLayout.maxPoints * s.pointLayout.pointStep.toNat
  exposed : d.view.length = s.pointLayout.maxPoints * s.pointLayout.pointStep.toNat
  framed : ∃ bytes, d.frameBytes = .ok bytes ∧
    bytes.size = d.pointCount * s.pointLayout.pointStep.toNat ∧
    bytes = d.data.extract 0 (d.pointCount * s.pointLayout.pointStep.toNat)
  /-- The fields of each point are its coordinates, bit by bit. -/
  decoded : ∀ (n : Nat) (p : Point), n < d.pointCount → points[n]? = some p →
    s.pointLayout.fields.map (fun f =>
        (f.name, readWord? d.data (n * s.pointLayout.pointStep.toNat + f.offset.toNat))) =
      [("x", some p.x), ("y", some p.y), ("z", some p.z)]

/-- The channel is made for the session. -/
structure Wiring.Fits (x : Wiring) (s : Session) : Prop where
  runtime : x.binding.runtime = s.runtime
  policy : x.policy = s.settings.overflowPolicy
  sized : x.view.length = Sensor.bytesPerPoint * s.settings.maxPoints.toNat
  bounded : s.settings.maxPoints.toNat ≤ Sensor.maxPoints

/-- Only what is fixed about the session matters. -/
theorem Wiring.Fits.congr {x : Wiring} {s t : Session} (h : x.Fits s)
    (hruntime : t.runtime = s.runtime) (hsettings : t.settings = s.settings) : x.Fits t := by
  obtain ⟨h₁, h₂, h₃, h₄⟩ := h
  rw [← hsettings] at h₂ h₃ h₄
  exact ⟨h₁.trans hruntime.symm, h₂, h₃, h₄⟩

/-- The buffer of a channel has room for as many points as its session asks for. -/
theorem Wiring.Fits.capacity {x : Channel} {s : Session} (h : x.wiring.Fits s) :
    x.buffer.words.size = Sensor.floatsPerPoint * s.settings.maxPoints.toNat ∧
      x.buffer.capacity = s.settings.maxPoints.toNat := by
  have hwords : x.buffer.words.size = Sensor.floatsPerPoint * s.settings.maxPoints.toNat := by
    have hsized : 4 * x.buffer.words.size = Sensor.bytesPerPoint * s.settings.maxPoints.toNat :=
      h.sized
    unfold Sensor.bytesPerPoint at hsized
    rw [Nat.mul_assoc] at hsized
    exact Nat.eq_of_mul_eq_mul_left (by decide) hsized
  refine ⟨hwords, ?_⟩
  unfold FrameBuffer.capacity
  rw [hwords]
  exact Nat.mul_div_cancel_left _ (by decide)

/-- **A frame at the front of the buffer is what a host finds there.** -/
theorem shows_of_carries {x : Channel} {s : Session} {points : List Point} {n : Nat}
    (hfits : x.wiring.Fits s) (hn : x.policy.accept? x.buffer.capacity points.length = some n)
    (hcarries : FrameBuffer.Carries x.buffer.words (points.take n)) (sequence : Nat) :
    Delivery.Shows ⟨x.view, x.buffer.bytes, n, sequence⟩ s points := by
  obtain ⟨hwords, hcapacity⟩ := hfits.capacity
  obtain ⟨hcount, hwhole⟩ := OverflowPolicy.of_accept? hn
  rw [hcapacity] at hcount hwhole
  have hle : n ≤ s.settings.maxPoints.toNat := hcount ▸ Nat.min_le_right _ _
  have hbytes : x.buffer.bytes.size = s.settings.maxPoints.toNat * Sensor.bytesPerPoint := by
    show (FrameBuffer.bytesOf x.buffer.words).size = _
    rw [FrameBuffer.size_bytesOf, hwords]
    unfold Sensor.bytesPerPoint Sensor.floatsPerPoint
    omega
  have hsame : x.view.length = s.settings.maxPoints.toNat * Sensor.bytesPerPoint :=
    hfits.sized.trans (Nat.mul_comm _ _)
  refine ⟨hcount, fun hreject => hwhole (hfits.policy.trans hreject), hbytes, hsame, ?_, ?_⟩
  · -- The frame lies within the buffer, and so far below the limit of a product.
    have hwithin := Nat.mul_le_mul_right Sensor.bytesPerPoint hle
    have hsmall : n * Sensor.bytesPerPoint < UInt64.size := by
      refine Nat.lt_of_le_of_lt (Nat.mul_le_mul_right _ (Nat.le_trans hle hfits.bounded)) ?_
      decide
    have hmin : min (n * Sensor.bytesPerPoint) x.buffer.bytes.size = n * Sensor.bytesPerPoint := by
      rw [hbytes]
      exact Nat.min_eq_left hwithin
    refine ⟨_, if_pos hsmall, ?_, ?_⟩
    · dsimp only
      rw [hmin, ByteArray.size_extract, hmin, Nat.sub_zero]
      rfl
    · dsimp only
      rw [hmin]
      rfl
  · intro j p hj hp
    have htake : (points.take n)[j]? = some p := by
      rw [List.getElem?_take_of_lt hj]
      exact hp
    -- Pattern by pattern, what is read is what was carried there.
    have hread (c : Nat) (hc : c < Sensor.floatsPerPoint) :
        readWord? x.buffer.bytes (j * Sensor.bytesPerPoint + 4 * c) = p.coordinates[c]? := by
      have hplace : j * Sensor.bytesPerPoint + 4 * c = 4 * (Sensor.floatsPerPoint * j + c) := by
        unfold Sensor.bytesPerPoint Sensor.floatsPerPoint
        omega
      rw [hplace, ← hcarries.getElem? htake hc]
      exact FrameBuffer.readWord?_bytesOf x.buffer.words _
    have hx := hread 0 (by decide)
    have hy := hread 1 (by decide)
    have hz := hread 2 (by decide)
    show [("x", readWord? x.buffer.bytes (j * Sensor.bytesPerPoint + 4 * 0)),
      ("y", readWord? x.buffer.bytes (j * Sensor.bytesPerPoint + 4 * 1)),
      ("z", readWord? x.buffer.bytes (j * Sensor.bytesPerPoint + 4 * 2))] = _
    rw [hx, hy, hz]
    rfl

/-- **The deliveries of a channel show the frames.** -/
theorem shows_of_delivery? {x : Channel} {s : Session} {points : List Point} {d : Delivery}
    (hfits : x.wiring.Fits s) (hd : x.delivery? points = some d) : d.Shows s points := by
  obtain ⟨written, y, hpublish⟩ := Channel.delivery?_eq_some.mp hd
  -- The buffer has been written to, and is still wired as it was.
  have hwiring := Relay.wiring_publish hpublish
  obtain ⟨b, hwrite, rfl, rfl⟩ := Channel.publish_eq_ok.mp hpublish
  obtain ⟨haccept, hsize, hcarries⟩ := FrameBuffer.of_write hwrite
  have hview : x.view = b.view := congrArg Wiring.view hwiring.symm
  have hcapacity : b.capacity = x.buffer.capacity := congrArg (· / _) hsize
  rw [hview]
  rw [← hwiring] at hfits
  exact shows_of_carries hfits (hcapacity ▸ haccept) hcarries _

/-! ### All channels -/

/-- A new channel is made for its session. -/
theorem fits_newChannel {w : Relay} {i address : Nat} {s : Session} {b : FrameBuffer}
    (hs : w.sessions[i]? = some s)
    (room : FrameBuffer.ofCapacity address s.settings.maxPoints.toNat = .ok b) :
    (w.newChannel i b).wiring.Fits s := by
  have hsession := Relay.session_eq hs
  obtain ⟨hlimit, rfl⟩ := FrameBuffer.ofCapacity_eq_ok.mp room
  refine ⟨congrArg Session.runtime hsession, ?_, ?_, hlimit⟩
  · exact congrArg (fun s => s.settings.overflowPolicy) hsession
  · show 4 * (Array.replicate _ _).size = _
    rw [Array.size_replicate, ← Nat.mul_assoc]
    rfl

/-- All channels are made for their sessions. -/
def Fitted (st : Standing) : Prop :=
  ∀ (k : Nat) (x : Wiring), st.channels[k]? = some x →
    ∃ s, st.sessions[x.session]? = some s ∧ x.Fits s

namespace World

variable {w : World σ} (h : Handler σ)

/-- Channels stay as they are, and a new one is made for its session. -/
theorem step_channels (e : Event) (hcustody : Custody w.standing) :
    (w.step h e).2.standing.channels = w.standing.channels ∨
      ∃ s x, w.standing.sessions[x.session]? = some s ∧ x.Fits s ∧
        (w.step h e).2.standing.channels = w.standing.channels ++ [x] := by
  have hshift := step_shift h e hcustody
  cases e with
  | operate i op =>
    rcases w.step_operate_cases h i op with hsame | ⟨hi, -, hafter⟩
    · rw [hsame]
      exact .inl rfl
    · have hs := List.getElem?_eq_getElem hi
      rw [hafter]
      rcases Relay.perform_channels op hcustody hs with hsame | ⟨-, -, address, b, -, -, hroom, hnew⟩
      · exact .inl (congrArg (List.map Channel.wiring) hsame)
      · refine .inr ⟨_, (w.relay.newChannel i b).wiring, Relay.session_standing hs,
          (fits_newChannel hs hroom).congr rfl rfl, ?_⟩
        show (op.perform i w.relay).2.channels.map Channel.wiring = _
        rw [hnew, List.map_append, List.map_singleton]
        rfl
  | _ =>
    refine .inl (hshift.channels_of_unreached ?_)
    rintro i p ⟨-, d, key, address, he, -⟩
    exact absurd he (by simp)

/-- **All channels stay made for their sessions.** -/
theorem fitted_step (e : Event) (hcustody : Custody w.standing) (hfitted : Fitted w.standing) :
    Fitted (w.step h e).2.standing := by
  intro k x hx
  -- The session of the channel was there before the step, and what is fixed about it was the same.
  obtain ⟨s, hs, hfits⟩ : ∃ s, w.standing.sessions[x.session]? = some s ∧ x.Fits s := by
    rcases step_channels h e hcustody with hsame | ⟨s, y, hs, hfits, hnew⟩
    · exact hfitted k x (hsame ▸ hx)
    · rw [hnew] at hx
      rcases getElem?_concat_cases hx with hx | rfl
      · exact hfitted k x hx
      · exact ⟨s, hs, hfits⟩
  obtain ⟨t, ht, hruntime, hsettings⟩ := (step_shift h e hcustody).session_after hs
  exact ⟨t, ht, hfits.congr hruntime hsettings⟩

/-- A run leaves every buffer fit for its camera. -/
theorem fitted_run (events : List Event) (hcustody : Custody w.standing)
    (hfitted : Fitted w.standing) : Fitted (w.run h events).standing := by
  induction events generalizing w with
  | nil => exact hfitted
  | cons e rest ih =>
    exact ih (hcustody.shift (step_shift h e hcustody)) (fitted_step h e hcustody hfitted)

/-- What the hosts note in a step: nothing, or one delivery, which shows the frame that the step
    delivers. -/
theorem step_notes {w : World (σ × List (Nat × Delivery))} (e : Event)
    (hcustody : Custody w.standing) (hfitted : Fitted w.standing) :
    (w.step h.noting e).2.host.2 = w.host.2 ∨
      ∃ d k points s, (w.step h.noting e).2.host.2 = w.host.2 ++ [(s.runtime, d)] ∧
        w.delivered? e = some (k, points) ∧
        w.relay.sessions[(w.relay.channel k).session]? = some s ∧
        (w.relay.runtime s.runtime).isExposed d.view = true ∧ d.Shows s points := by
  have hpassage := step_passage h.noting e hcustody
  -- Whoever delivers the frame, it is for a channel that is made for its session.
  have hshown {k : Nat} {points : List Point} (hdelivered : w.delivered? e = some (k, points))
      (hcalled : Called h.noting w.toLive k points (w.step h.noting e).2.host) :
      (w.step h.noting e).2.host.2 = w.host.2 ∨
        ∃ d s, (w.step h.noting e).2.host.2 = w.host.2 ++ [(s.runtime, d)] ∧
          w.relay.sessions[(w.relay.channel k).session]? = some s ∧
          (w.relay.runtime s.runtime).isExposed d.view = true ∧ d.Shows s points := by
    obtain ⟨x, hx⟩ := channel_of_delivered? hcustody hdelivered
    obtain ⟨t, ht, hfits⟩ := hfitted k x.wiring (Relay.channel_standing hx)
    have hsession := ht
    simp only [standing, Relay.standing, List.getElem?_map, Option.map_eq_some_iff] at hsession
    obtain ⟨s, hs, rfl⟩ := hsession
    have hfits' : x.wiring.Fits s := hfits.congr rfl rfl
    have hruntime : x.binding.runtime = s.runtime := hfits'.runtime
    cases hcalled with
    | not kept => exact .inl (congrArg Prod.snd kept)
    | called d delivery exposed answered =>
      rw [Relay.channel_eq hx] at delivery exposed answered ⊢
      rw [hruntime] at exposed answered
      exact .inr ⟨d, s, congrArg Prod.snd answered, hs, exposed,
        shows_of_delivery? hfits' delivery⟩
  generalize hdelivered : w.delivered? e = delivered at hpassage hshown
  generalize w.arrived? e = arrived at hpassage
  cases hpassage with
  | idle host lanes => exact .inl (congrArg Prod.snd host)
  | left k points q queued host lanes => exact .inl (congrArg Prod.snd host)
  | direct k points direct called lanes =>
    rcases hshown rfl called with hnone | ⟨d, s, hnote, hrest⟩
    · exact .inl hnone
    · exact .inr ⟨d, k, points, s, hnote, rfl, hrest⟩
  | dispatched k points rest lane called lanes after =>
    rcases hshown rfl called with hnone | ⟨d, s, hnote, hrest⟩
    · exact .inl hnone
    · exact .inr ⟨d, k, points, s, hnote, rfl, hrest⟩

end World

/-! ### What hosts read -/

/-- **Hosts decode what drivers have handed over.**  Whatever happens, each step calls a handler at
    most once, and then for a frame that is the next one of those that the channel has kept; by the
    layout of the session the host finds its points, bit by bit, in a view that it has been shown.
    Schedules that differ in noise, gray values and confidences only are noticed alike. -/
theorem deliveries_decode (h : Handler σ) (profiles : List CameraProfile) (runtimes : Nat)
    (sessions : List (Nat × Settings)) (host : σ) (now : Nat) :
    let start := World.fresh profiles runtimes sessions (host, []) now
    (∀ (events : List Event) (e : Event),
      let w := start.run h.noting events
      (w.step h.noting e).2.host.2 = w.host.2 ∨
        ∃ d k points s, (w.step h.noting e).2.host.2 = w.host.2 ++ [(s.runtime, d)] ∧
          (World.frames World.kept? h.noting k (events ++ [e]) start)[
            (World.frames World.delivered? h.noting k events start).length]? = some points ∧
          w.relay.sessions[(w.relay.channel k).session]? = some s ∧
          sessions[(w.relay.channel k).session]? = some (s.runtime, s.settings) ∧
          (w.relay.runtime s.runtime).isExposed d.view = true ∧ d.Shows s points) ∧
      ∀ events events', events.map Event.bare = events'.map Event.bare →
        (start.run h.noting events).host = (start.run h.noting events').host := by
  intro start
  have hstart : Custody start.standing :=
    World.custody_fresh profiles runtimes sessions (host, []) now
  have hempty : Fitted start.standing := by
    intro k x hx
    exact absurd hx (by simp [start, World.standing, Relay.standing, World.fresh])
  constructor
  · intro events e w
    -- The invariants hold after any schedule; what is left is a matter of one step.
    have hw : Custody w.standing := World.custody_run h.noting events hstart
    have hfitted : Fitted w.standing := World.fitted_run h.noting events hstart hempty
    rcases World.step_notes h e hw hfitted with hnone | ⟨d, k, points, s, hnote, hdelivered, hs, hd⟩
    · exact .inl hnone
    · -- The note is for the next frame of its channel, and the settings are those of the start.
      have hnext := World.delivered_next h.noting events e hstart rfl hdelivered
      have hfixed := World.fixed_run h.noting events hstart
      have hsettings : sessions[(w.relay.channel k).session]? = some (s.runtime, s.settings) := by
        have hplace := congrArg (·[(w.relay.channel k).session]?) hfixed
        simp only [List.getElem?_map] at hplace
        rw [hs] at hplace
        simpa [start, World.fresh] using hplace.symm
      exact .inr ⟨d, k, points, s, hnote, hnext, hs, hsettings, hd⟩
  · intro events events' hbare
    -- Without their metadata the two runs are one.
    have hrun := World.run_of_bare h.noting hbare (rfl : start.bare = start.bare)
    have hhost := congrArg (fun w : World (σ × List (Nat × Delivery)) => w.host) hrun
    exact hhost

/-- A frame of one point comes after a frame of two, whose second point is still in the buffer; the
    first coordinate is a pattern that is not a number.  With other noise the host notes the
    same. -/
theorem deliveries_decode_short_after_long :
    let h := Handler.accepting.noting
    let start : World (Unit × List (Nat × Delivery)) :=
      World.fresh [{ serial := "A", fd := 3 }] 1 [(0, { maxPoints := 2 })] ((), []) 0
    let before (noise : UInt32) : List Event :=
      [.operate 0 (.openCamera ⟨3⟩ 5 64), .operate 0 (.start false),
        .emit "W" 0 [⟨1, 2, 3, noise, 0, 255⟩, ⟨4, 5, 6, noise, 7, 0⟩]]
    let e : Event := .emit "W" 0 [⟨2143289345, 7, 8, 0, 0, 255⟩]
    let w := start.run h (before 0)
    (∃ d k points s, (w.step h e).2.host.2 = w.host.2 ++ [(s.runtime, d)] ∧
        (World.frames World.kept? h k (before 0 ++ [e]) start)[
          (World.frames World.delivered? h k (before 0) start).length]? = some points ∧
        d.Shows s points) ∧
      (w.step h e).2.host.2.map (fun (_, d) => (d.pointCount, d.data.data.toList)) =
        [(2, [1, 0, 0, 0, 2, 0, 0, 0, 3, 0, 0, 0, 4, 0, 0, 0, 5, 0, 0, 0, 6, 0, 0, 0]),
          (1, [1, 0, 192, 127, 7, 0, 0, 0, 8, 0, 0, 0, 4, 0, 0, 0, 5, 0, 0, 0, 6, 0, 0, 0])] ∧
      (start.run h (before 0)).host = (start.run h (before 9)).host := by
  intro h start before e w
  have hdecode := deliveries_decode Handler.accepting
    [{ serial := "A", fd := 3 }] 1 [(0, { maxPoints := 2 })] () 0
  have hstart : World.fresh [{ serial := "A", fd := 3 }] 1 [(0, { maxPoints := 2 })] ((), []) 0 =
    start := rfl
  rw [hstart, show Handler.accepting.noting = h from rfl] at hdecode
  obtain ⟨hstep, hbare⟩ := hdecode
  have hnotes := hstep (before 0) e
  dsimp only at hnotes
  rw [show start.run h (before 0) = w from rfl] at hnotes
  refine ⟨?_, ?_, hbare (before 0) (before 9) (by decide)⟩
  · rcases hnotes with hnone | ⟨d, k, points, s, hnote, hnext, -, -, -, hshows⟩
    · -- The step is the second call of the handler.
      have hfirst : w.host.2.length = 1 := by decide
      have hsecond : (w.step h e).2.host.2.length = 2 := by decide
      rw [hnone, hfirst] at hsecond
      exact absurd hsecond (by decide)
    · exact ⟨d, k, points, s, hnote, hnext, hshows⟩
  · decide +kernel

end DepthRelay
