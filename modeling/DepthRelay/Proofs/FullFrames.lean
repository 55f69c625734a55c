import DepthRelay.Command.Capture
import DepthRelay.Proofs.QueuedDelivery

namespace DepthRelay

/-!
# Frames of one size

The frames that sources produce are full frames of their cameras.  What becomes of frames of one
size, when nothing but the overflow policy is in their way, is settled by their number.

* `CameraProfile.syntheticPoints_ok`, `World.length_kept` — frames of a source are full frames.
* `World.erase` — a world whose hosts have not noted their deliveries; `World.run_noting` says that
  notes change nothing.
* `Settings.outcome` — what becomes of a number of frames of one size.
* `Ledger.After.deliverAll` — it is what a ledger shows of a host that counts points.
-/

variable {σ : Type}

/-! ### Synthetic frames -/

/-- Points of a full frame. -/
def CameraProfile.size (p : CameraProfile) : Nat := p.width.toNat * p.height.toNat

/-- A synthetic frame has a point for each pixel. -/
theorem CameraProfile.length_syntheticPoints {p : CameraProfile} {phase : Nat}
    {points : List Point} (h : p.syntheticPoints phase = .ok points) : points.length = p.size := by
  unfold syntheticPoints at h
  split at h
  · rw [← Except.ok.inj h]
    simp [List.length_flatMap, List.map_const', size, Nat.mul_comm]
  · exact absurd h (by simp)

/-- **Cameras whose size fits 32 bits can always produce a frame.** -/
theorem CameraProfile.syntheticPoints_ok {p : CameraProfile} (h : p.size < UInt32.size)
    (phase : Nat) : ∃ points, p.syntheticPoints phase = .ok points ∧ points.length = p.size := by
  have hok : ∃ points, p.syntheticPoints phase = .ok points := by
    unfold syntheticPoints
    rw [if_pos (show p.width.toNat * p.height.toNat < UInt32.size from h)]
    exact ⟨_, rfl⟩
  obtain ⟨points, hpoints⟩ := hok
  exact ⟨points, hpoints, length_syntheticPoints hpoints⟩

/-- A frame of a source is a full frame of the camera that it comes from. -/
theorem Relay.length_wakeSource {v w : Relay} {i p : Nat} {source : Source} {points : List Point}
    (h : w.wakeSource i source = (some (p, points), v)) :
    ∃ c, w.cameras[p]? = some c ∧ points.length = c.profile.size := by
  unfold wakeSource at h
  dsimp only at h
  split at h
  · next phase next c hwake hc =>
    split at h
    · next points' hpoints =>
      obtain ⟨hframe, -⟩ := Prod.mk.inj h
      obtain ⟨rfl, rfl⟩ := Prod.mk.inj (Option.some.inj hframe)
      exact ⟨c, hc, CameraProfile.length_syntheticPoints hpoints⟩
    · exact absurd (congrArg Prod.fst h) (by simp)
  · exact absurd (congrArg Prod.fst h) (by simp)

/-- The event injects a frame from outside. -/
def Event.injects : Event → Bool
  | .emit _ _ _ => true
  | _ => false

namespace World

/-- Without frames from outside, whatever comes from a camera is a full frame of it. -/
theorem length_injected {w : World σ} {e : Event} (hsource : e.injects = false) {p : Nat}
    {points : List Point} (hinjected : w.injected? e = some (p, points)) :
    ∃ c, w.relay.cameras[p]? = some c ∧ points.length = c.profile.size := by
  unfold injected? at hinjected
  split at hinjected
  · exact absurd hsource (by simp [Event.injects])
  · next i =>
    obtain ⟨source, -, hframe⟩ := Option.bind_eq_some_iff.mp hinjected
    exact Relay.length_wakeSource (v := (w.relay.wakeSource i source).2) (Prod.ext hframe rfl)
  · exact absurd hinjected (by simp)

/-- **Without frames from outside, all frames are full.** -/
theorem length_kept {w : World σ} {h : Handler σ} {n : Nat} (k : Nat) (events : List Event)
    (hsource : ∀ e ∈ events, e.injects = false) (hcustody : Custody w.standing)
    (hsize : ∀ p ∈ w.relay.cameras.map Camera.profile, p.size = n) :
    ∀ points ∈ frames kept? h k events w, points.length = n := by
  induction events generalizing w with
  | nil => exact fun _ hnone => absurd hnone List.not_mem_nil
  | cons e events ih =>
    intro points hmem
    rcases List.mem_append.mp hmem with hnow | hlater
    · -- It came from a camera just now.
      obtain ⟨harrived, -⟩ := Option.filter_eq_some_iff.mp (mem_onChannel.mp hnow)
      obtain ⟨⟨p, points'⟩, hinjected, hheard⟩ := Option.bind_eq_some_iff.mp harrived
      obtain ⟨k', -, hframe⟩ := Option.map_eq_some_iff.mp hheard
      obtain ⟨rfl, rfl⟩ := Prod.mk.inj hframe
      obtain ⟨c, hc, hlength⟩ := length_injected (hsource e List.mem_cons_self) hinjected
      rw [hlength]
      exact hsize _ (List.mem_map_of_mem (List.mem_of_getElem? hc))
    · refine ih (fun x hx => hsource x (List.mem_cons_of_mem e hx))
        (hcustody.shift (step_shift h e hcustody)) ?_ points hlater
      rw [profiles_step h e hcustody]
      exact hsize

end World

/-! ### Notes -/

/-- The hosts without their notes. -/
def Live.erase (l : Live (σ × List (Nat × Delivery))) : Live σ := ⟨l.relay, l.host.1⟩

/-- The world whose hosts have noted nothing. -/
def World.erase (w : World (σ × List (Nat × Delivery))) : World σ :=
  { toLive := w.toLive.erase, closing := w.closing }

namespace Live

variable (h : Handler σ) (l : Live (σ × List (Nat × Delivery)))

/-- A handler is entered alike with notes and without. -/
theorem handle_noting (t : Ticket) (d : Delivery) :
    l.erase.handle h t d = ((l.handle h.noting t d).1, (l.handle h.noting t d).2.erase) := by
  unfold handle
  rw [show l.erase.relay = l.relay from rfl]
  generalize l.relay.enter t.channel d = result
  obtain ⟨answer, w⟩ := result
  cases answer with
  | error e => rfl
  | ok u =>
    have hreply : (h.noting (w.channel t.channel).binding.runtime d l.host).reply =
        (h (w.channel t.channel).binding.runtime d l.host.1).reply := rfl
    dsimp only
    rw [hreply, show l.erase.host = l.host.1 from rfl]
    cases (h (w.channel t.channel).binding.runtime d l.host.1).reply <;> rfl

/-- **A delivery** is the same with notes and without. -/
theorem deliver_noting (t : ThreadId) (k : Nat) (points : List Point) :
    l.erase.deliver h t k points =
      ((l.deliver h.noting t k points).1, (l.deliver h.noting t k points).2.erase) := by
  unfold deliver
  rw [show l.erase.relay = l.relay from rfl]
  generalize l.relay.begin t k = result
  obtain ⟨ticket, w⟩ := result
  cases ticket with
  | none => rfl
  | some ticket =>
    dsimp only
    generalize w.publish k points = result
    obtain ⟨delivery, v⟩ := result
    cases delivery with
    | none => rfl
    | some d => exact handle_noting h (l.withRelay v) ticket d

/-- **An injected frame** is delivered the same. -/
theorem emit_noting (t : ThreadId) (p : Nat) (points : List Point) :
    l.erase.emit h t p points =
      ((l.emit h.noting t p points).1, (l.emit h.noting t p points).2.erase) := by
  unfold emit
  rw [show l.erase.relay = l.relay from rfl]
  generalize l.relay.offer p points = result
  obtain ⟨taken, w⟩ := result
  cases taken with
  | none => rfl
  | some k =>
    dsimp only
    cases (w.channel k).handoff with
    | some q => rfl
    | none =>
      dsimp only
      rw [show l.erase.withRelay w = (l.withRelay w).erase from rfl, deliver_noting]
      generalize (l.withRelay w).deliver h.noting t k points = result
      obtain ⟨answer, v⟩ := result
      cases answer <;> rfl

/-- **A dispatch thread** does the same. -/
theorem dispatch_noting (k : Nat) : l.erase.dispatch h k = (l.dispatch h.noting k).erase := by
  unfold dispatch
  rw [show l.erase.relay = l.relay from rfl]
  cases l.relay.takeQueued? k with
  | none => rfl
  | some taken =>
    obtain ⟨points, w⟩ := taken
    dsimp only
    rw [show l.erase.withRelay w = (l.withRelay w).erase from rfl, deliver_noting]
    generalize (l.withRelay w).deliver h.noting (.dispatch k) k points = result
    obtain ⟨answer, v⟩ := result
    cases answer <;> rfl

/-- **A frame source** does the same. -/
theorem wake_noting (i : Nat) (source : Source) :
    l.erase.wake h i source = (l.wake h.noting i source).erase := by
  unfold wake
  rw [show l.erase.relay = l.relay from rfl]
  generalize l.relay.wakeSource i source = result
  obtain ⟨frame, w⟩ := result
  cases frame with
  | none => rfl
  | some frame =>
    dsimp only
    rw [show l.erase.withRelay w = (l.withRelay w).erase from rfl, emit_noting]
    generalize (l.withRelay w).emit h.noting (.source source.run) frame.1 frame.2 = result
    obtain ⟨answer, v⟩ := result
    cases answer <;> rfl

end Live

namespace World

variable (h : Handler σ) (w : World (σ × List (Nat × Delivery)))

/-- A step does the same whether hosts note their deliveries or not. -/
theorem step_noting (e : Event) :
    w.erase.step h e = ((w.step h.noting e).1, (w.step h.noting e).2.erase) := by
  cases e with
  | operate i op =>
    unfold step
    dsimp only
    -- The guards do not look at the notes.
    rw [show w.erase.ready i = w.ready i from rfl]
    cases w.ready i <;> rfl
  | beginClose i =>
    unfold step
    dsimp only
    rw [show w.erase.ready i = w.ready i from rfl, show w.erase.relay = w.relay from rfl]
    cases w.ready i with
    | false => rfl
    | true => cases (w.relay.session i).camera <;> rfl
  | endClose i =>
    unfold step
    dsimp only
    rw [show w.erase.closing = w.closing from rfl,
      show w.erase.dispatched i = w.dispatched i from rfl]
    cases w.closing.contains i && w.dispatched i <;> rfl
  | emit worker camera points =>
    unfold step
    dsimp only
    rw [show w.erase.toLive = w.toLive.erase from rfl, Live.emit_noting]
    rfl
  | dispatch k =>
    unfold step
    dsimp only
    rw [show w.erase.toLive = w.toLive.erase from rfl, Live.dispatch_noting]
    rfl
  | wake i =>
    unfold step
    dsimp only
    rw [show w.erase.toLive = w.toLive.erase from rfl, show w.toLive.erase.relay = w.relay from rfl]
    cases (w.relay.session i).source? with
    | none => rfl
    | some source =>
      dsimp only
      rw [Live.wake_noting]
      rfl
  | _ => rfl

/-- **Notes change nothing** about a schedule. -/
theorem run_noting (events : List Event) :
    w.erase.run h events = (w.run h.noting events).erase := by
  induction events generalizing w with
  | nil => rfl
  | cons e events ih =>
    show (w.erase.step h e).2.run h events = _
    rw [step_noting, ih]
    rfl

end World

/-! ### What becomes of frames -/

/-- What becomes of `n` frames of `size` points each, when nothing but the overflow policy is in
    their way. -/
def Settings.outcome (s : Settings) (size n : Nat) : Stats :=
  if size ≤ s.maxPoints.toNat then { delivered := n }
  else match s.overflowPolicy with
    | .reject => { overflowRejects := n }
    | .truncate => { delivered := n, truncatedFrames := n }

theorem Command.countPoints_returns : Handler.Returns Command.countPoints := by
  intro r d n reason
  simp [Command.countPoints]

/-- To count points is to go by what is seen of a delivery. -/
theorem Command.countPoints_observant : Handler.Observant Command.countPoints := by
  intro r r' d d' n hseen
  have hcount : d.pointCount = d'.pointCount := congrArg Prod.fst hseen
  exact ⟨rfl, congrArg (n + ·) hcount⟩

/-- The ledger after `n` frames of `size` points each. -/
structure Ledger.After (s : Settings) (size n : Nat) (L : Ledger Nat) : Prop where
  policy : L.channel.policy = s.overflowPolicy
  room : L.channel.buffer.capacity = s.maxPoints.toNat
  stats : L.stats = s.outcome size n
  points : L.host = (s.outcome size n).delivered * min size s.maxPoints.toNat

namespace Ledger

variable {s : Settings} {size n : Nat} {L : Ledger Nat}

/-- Before the first frame a ledger is as fresh. -/
theorem after_fresh (s : Settings) (size : Nat) : (Ledger.fresh s 0).After s size 0 where
  policy := rfl
  room := FrameBuffer.capacity_zeros 0 _
  stats := by
    unfold Settings.outcome
    split
    · rfl
    · split <;> rfl
  points := by
    unfold Settings.outcome
    split
    · exact (Nat.zero_mul _).symm
    · split <;> exact (Nat.zero_mul _).symm

/-- Whether a frame is delivered, and how much of it, is up to the policy of the channel. -/
theorem deliver_accept (L : Ledger Nat) (points : List Point) :
    let after := L.deliver Command.countPoints points
    after.channel.policy = L.channel.policy ∧
      after.channel.buffer.capacity = L.channel.buffer.capacity ∧
      match L.channel.policy.accept? L.channel.buffer.capacity points.length with
      | none => after.stats = L.stats.noteOverflow ∧ after.host = L.host
      | some m =>
        after.stats = (L.stats.noteWritten (points.length - m)).noteDelivered ∧
          after.host = L.host + m := by
  unfold Ledger.deliver Channel.publish FrameBuffer.write
  cases L.channel.policy.accept? L.channel.buffer.capacity points.length with
  | none => exact ⟨rfl, rfl, rfl, rfl⟩
  | some m => exact ⟨rfl, by simp [FrameBuffer.capacity], rfl, rfl⟩

/-- One more frame. -/
theorem After.deliver (hL : L.After s size n) {points : List Point} (hsize : points.length = size) :
    (L.deliver Command.countPoints points).After s size (n + 1) := by
  obtain ⟨hpolicy, hroom, hcounted⟩ := L.deliver_accept points
  rw [hL.policy, hL.room, hsize, hL.stats, hL.points] at hcounted
  suffices hcounts : (L.deliver Command.countPoints points).stats = s.outcome size (n + 1) ∧
      (L.deliver Command.countPoints points).host =
        (s.outcome size (n + 1)).delivered * min size s.maxPoints.toNat from
    ⟨hpolicy.trans hL.policy, hroom.trans hL.room, hcounts.1, hcounts.2⟩
  unfold OverflowPolicy.accept? at hcounted
  unfold Settings.outcome at hcounted ⊢
  -- Frames all have one size, so that either all of them fit or none.
  by_cases hfits : size ≤ s.maxPoints.toNat
  · simp only [if_pos hfits, Nat.sub_self] at hcounted ⊢
    refine ⟨hcounted.1, hcounted.2.trans ?_⟩
    rw [Nat.min_eq_left hfits, Nat.succ_mul]
  · have hcut : size - s.maxPoints.toNat ≠ 0 := by omega
    simp only [if_neg hfits] at hcounted ⊢
    cases hover : s.overflowPolicy with
    | reject =>
      simp only [hover] at hcounted ⊢
      exact ⟨hcounted.1, hcounted.2.trans ((Nat.zero_mul _).trans (Nat.zero_mul _).symm)⟩
    | truncate =>
      simp only [hover, Stats.noteWritten, if_neg hcut] at hcounted ⊢
      refine ⟨hcounted.1, hcounted.2.trans ?_⟩
      rw [Nat.min_eq_right (Nat.le_of_not_le hfits), Nat.succ_mul]

/-- **What becomes of frames of one size** depends on their number alone. -/
theorem After.deliverAll (hL : L.After s size n) {frames : List (List Point)}
    (hsize : ∀ points ∈ frames, points.length = size) :
    (L.deliverAll Command.countPoints frames).After s size (n + frames.length) := by
  induction frames generalizing L n with
  | nil => exact hL
  | cons points frames ih =>
    have hnext := ih (hL.deliver (hsize points List.mem_cons_self))
      fun x hx => hsize x (List.mem_cons_of_mem points hx)
    rw [Nat.add_assoc, Nat.add_comm 1] at hnext
    exact hnext

end Ledger

end DepthRelay
