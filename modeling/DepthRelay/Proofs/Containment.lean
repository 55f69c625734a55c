import DepthRelay.Proofs.LostPeriods

namespace DepthRelay

/-!
# A handler that gives up is contained

What the caller of a lone session sees of a handler that gives up: frames that are dropped until the
session is closed, and a session that is as good as new when it opens a camera again.

* `World.Delivering`, `World.Reopens` — frames are delivered as they should, from an opening on.
* `World.Contained`, `World.Recovered` — what is left of the open period, and what closing it leaves
  behind.
* `aborted_calls_are_contained` — both, for every open period in which the handler gives up.
-/

variable {σ : Type}

namespace World

/-! ### Delivering as before -/

/-- Since `v`, the frames of the channel `k` of the session at place `i` have been delivered as they
    should. -/
structure Delivering (h : Handler σ) (i k depth : Nat) (next : List Event)
    (v : World (σ × List (Nat × Delivery))) : Prop where
  alive : ((v.run h.noting next).relay.lane k).2 = true
  /-- Frames are kept as long as there is a slot, -/
  kept : i ∉ (v.run h.noting next).closing → ∀ points,
    (v.run h.noting next).relay.keeps k points = true ↔
      ((v.run h.noting next).relay.lane k).1.length < depth
  /-- have been delivered in order, or still wait, -/
  ordered : frames kept? h.noting k next v =
    frames delivered? h.noting k next v ++ ((v.run h.noting next).relay.lane k).1
  /-- and the next one is delivered when the dispatch thread has its turn. -/
  served : ∀ points rest, ((v.run h.noting next).relay.lane k).1 = points :: rest →
    Reception h.noting (v.run h.noting next).toLive
      ((v.run h.noting next).step h.noting (.dispatch k)).2.toLive k points

/-- The session at place `i` opens a camera with a channel that knows nothing of earlier ones, and
    frames are delivered on it as they should until the handler gives up again. -/
def Reopens (h : Handler σ) (i r : Nat) (settings : Settings) (own : Nat → Bool)
    (z : World (σ × List (Nat × Delivery))) : Prop :=
  ∀ d key address next,
    (∀ e ∈ .operate i (.openCamera d key address) :: next, e.KeepsTo i own z.relay) →
    let v := z.step h.noting (.operate i (.openCamera d key address))
    let k := z.relay.channels.length
    v.1 = .answered (.unit (.ok ())) →
      (v.2.relay.session i).channel? = some k ∧
      (v.2.relay.session i).stats = (z.relay.session i).stats ∧
      v.2.relay.channel k = z.relay.newChannel i (.zeros address settings.maxPoints.toNat) ∧
      (((v.2.run h.noting next).relay.session i).channel? = some k →
        (∃ es e fs, next = es ++ e :: fs ∧ (v.2.run h.noting es).GivesUp h r e) ∨
          v.2.Delivering h i k settings.handoffDepth.toNat next)

/-- As long as the dispatch thread lives, frames that are kept are delivered in order. -/
theorem frames_of_alive {τ : Type} {w : World τ} (h : Handler τ) (events : List Event)
    (hcustody : Custody w.standing) {k : Nat}
    (halive : ((w.run h events).relay.lane k).2 = true) :
    (w.relay.lane k).1 ++ frames kept? h k events w =
      frames delivered? h k events w ++ ((w.run h events).relay.lane k).1 := by
  induction events generalizing w with
  | nil => simp [frames, run]
  | cons e rest ih =>
    have hcustody' := hcustody.shift (step_shift h e hcustody)
    have hrest := ih hcustody' halive
    rcases step_lane h e hcustody k with ⟨-, hqueue, -⟩ | ⟨hlost, -⟩
    · rw [frames, frames, ← List.append_assoc, hqueue, List.append_assoc, hrest, List.append_assoc]
      rfl
    · -- A thread that is lost does not come back.
      have hdead : ∀ (es : List Event) (v : World τ), Custody v.standing →
          v.relay.lane k = ([], false) → (v.run h es).relay.lane k = ([], false) := by
        intro es
        induction es with
        | nil => exact fun v _ hv => hv
        | cons e es ih =>
          intro v hv hlost
          exact ih _ (hv.shift (step_shift h e hv)) (Lone.lane_of_lost h e hv hlost)
      rw [show (w.run h (e :: rest)).relay.lane k = _ from hdead rest _ hcustody' hlost] at halive
      exact absurd halive (by simp)

namespace Lone

variable {w : World (σ × List (Nat × Delivery))} {h : Handler σ} {i r k : Nat}
  {settings : Settings} {own : Nat → Bool}

/-- The dispatch thread lives until the handler gives up. -/
theorem alive_run (hw : w.Lone i r settings own) (hqueued : settings.delivery = .queued)
    (events : List Event) (hkeeps : ∀ e ∈ events, e.KeepsTo i own w.relay)
    (hk : k < w.relay.channels.length) (hsession : (w.relay.channel k).session = i)
    (halive : (w.relay.lane k).2 = true) :
    (∃ es e fs, events = es ++ e :: fs ∧ (w.run h.noting es).GivesUp h r e) ∨
      ((w.run h.noting events).relay.lane k).2 = true := by
  induction events generalizing w with
  | nil => exact .inr halive
  | cons e rest ih =>
    cases hafter : ((w.step h.noting e).2.relay.lane k).2 with
    | false =>
      exact .inl ⟨[], e, rest, rfl, hw.givesUp_of_lost hqueued hsession hk halive hafter⟩
    | true =>
      obtain ⟨hwiring, hlt⟩ := wiring_step h.noting e hw.custody (List.getElem?_eq_getElem hk)
      have hsession' : ((w.step h.noting e).2.relay.channel k).session = i := by
        rw [Relay.channel_eq (List.getElem?_eq_getElem hk)] at hsession
        exact (congrArg Wiring.session hwiring).trans hsession
      have hprofiles := profiles_step h.noting e hw.custody
      rcases ih (hw.step hqueued h.noting (hkeeps e List.mem_cons_self))
        (fun e' he' => (hkeeps e' (List.mem_cons_of_mem e he')).congr hprofiles) hlt hsession'
        hafter with ⟨es, e', fs, hsplit, hup⟩ | hend
      · exact .inl ⟨e :: es, e', fs, by rw [hsplit]; rfl, hup⟩
      · exact .inr hend

/-- The host sees the buffer of the channel that the session holds. -/
theorem visible (hw : w.Lone i r settings own)
    (hheld : (w.relay.session i).channel? = some k) : w.relay.visible k = true := by
  obtain ⟨hk, hsession⟩ := hw.held hheld
  have hs := List.getElem?_eq_getElem hw.session_lt
  have hx := List.getElem?_eq_getElem hk
  rw [Relay.session_eq hs] at hheld
  rw [Relay.channel_eq hx] at hsession
  obtain ⟨o, ho, rfl⟩ := Option.map_eq_some_iff.mp hheld
  have hvisible : w.relay.visible o.standing.channel = true :=
    visible_of_secluded hw.secluded (Relay.session_standing hs) (Relay.held_standing ho) hx hsession
  exact hvisible

/-- What waits is delivered when the dispatch thread has its turn. -/
theorem delivered?_dispatch (hw : w.Lone i r settings own)
    (hsession : (w.relay.channel k).session = i) {points : List Point} {rest : List (List Point)}
    (hlane : w.relay.lane k = (points :: rest, true)) :
    w.delivered? (.dispatch k) = some (k, points) := by
  obtain ⟨q, hq, hqlane⟩ := Relay.handoff_of_lane (w := w.relay) (k := k) (by simp [hlane])
  obtain ⟨hqueue, halive⟩ := Prod.mk.inj (hqlane.symm.trans hlane)
  have hresting := (hw.stocked k q hq hsession).resting
  unfold delivered? Relay.takeQueued? Handoff.take?
  dsimp only
  rw [hq]
  simp [hqueue, halive, hresting]

/-- **Frames are delivered as they should** from the opening of a channel on, until the handler
    gives up. -/
theorem delivering (hw : w.Lone i r settings own) (hqueued : settings.delivery = .queued)
    (next : List Event) (hkeeps : ∀ e ∈ next, e.KeepsTo i own w.relay)
    (hheld : (w.relay.session i).channel? = some k) (hlane : w.relay.lane k = ([], true))
    (hheld' : ((w.run h.noting next).relay.session i).channel? = some k) :
    (∃ es e fs, next = es ++ e :: fs ∧ (w.run h.noting es).GivesUp h r e) ∨
      w.Delivering h i k settings.handoffDepth.toNat next := by
  obtain ⟨hk, hsession⟩ := hw.held hheld
  rcases hw.alive_run hqueued next hkeeps hk hsession (congrArg Prod.snd hlane) with hup | halive
  · exact .inl hup
  · obtain ⟨hx, -⟩ := hw.run hqueued h.noting next hkeeps
    obtain ⟨hk', hsession'⟩ := hx.held hheld'
    obtain ⟨q, hq⟩ := hx.handoff hqueued hk' hsession'
    have hqlane : (w.run h.noting next).relay.lane k = (q.queue, q.alive) := Channel.lane_of_some hq
    refine .inr ⟨halive, fun hfree points => ?_, ?_, fun points rest hwaits => ?_⟩
    · have halive' : q.alive = true := (congrArg Prod.snd hqlane).symm.trans halive
      rw [Relay.keeps, hq, hqlane, Option.all_some, decide_eq_true_eq]
      exact (hx.stocked k q hq hsession').submit_iff (hx.accepting k q hheld' hfree hq) halive'
        points
    · have hframes := frames_of_alive h.noting next hw.custody halive
      rw [hlane] at hframes
      exact hframes
    · have hdelivered := hx.delivered?_dispatch hsession' (Prod.ext hwaits halive)
      exact step_reception h.noting hdelivered (hx.visible hheld')

/-- **A closed session opens a camera again** as if nothing had happened. -/
theorem reopens (hw : w.Lone i r settings own) (hqueued : settings.delivery = .queued) :
    w.Reopens h i r settings own := by
  intro d key address next hkeeps v k hopened
  have hv : v.2.Lone i r settings own :=
    hw.step hqueued h.noting (hkeeps _ List.mem_cons_self)
  have hprofiles := profiles_step h.noting (.operate i (.openCamera d key address)) hw.custody
  obtain ⟨s, hs, -, hsettings⟩ := hw.session
  rcases step_open_cases h.noting d key address i w with
    ⟨-, -, p, c, rate, x, hafter⟩ | ⟨hfailed, -⟩
  · -- The new channel has an empty lane and a thread that is alive, which is all that is needed.
    rw [Relay.session_eq hs, hsettings] at hafter
    have hsession : v.2.relay.session i =
        { s with
          state := .opened
          camera := some
            { device := { camera := p }, channel := k, serial := c.profile.serial, rate } } := by
      rw [← Relay.session_eq hs]
      refine Relay.session_eq ?_
      rw [show v.2 = _ from hafter]
      exact getElem?_set_of_some hs
    have hchannel : v.2.relay.channel k =
        w.relay.newChannel i (.zeros address settings.maxPoints.toNat) := by
      refine Relay.channel_eq ?_
      rw [show v.2 = _ from hafter]
      exact List.getElem?_concat_length
    have hheld : (v.2.relay.session i).channel? = some k := by
      rw [hsession]
      rfl
    have hlane : v.2.relay.lane k = ([], true) := by
      rw [Relay.lane, hchannel]
      exact Relay.lane_newChannel i _ w.relay
    refine ⟨hheld, ?_, hchannel, fun hheld' => ?_⟩
    · rw [hsession, Relay.session_eq hs]
    · refine hv.delivering hqueued next (fun e he => ?_) hheld hlane hheld'
      exact (hkeeps e (List.mem_cons_of_mem _ he)).congr hprofiles
  · exact absurd hopened hfailed

end Lone

/-! ### What is left of the open period -/

/-- What is left of an open period of the session at place `i`, with the camera at place `p` and the
    channel `k`, once the dispatch thread is lost. -/
structure Contained (h : Handler σ) (i p k : Nat) (u : World (σ × List (Nat × Delivery))) :
    Prop where
  /-- A frame that arrives is dropped, -/
  dropped : ∀ e points, u.arrived? e = some (k, points) →
    ((u.step h.noting e).2.relay.session i).stats = (u.relay.session i).stats.noteBackpressure
  /-- and whoever injects one while the session captures does not see that. -/
  heard : i ∉ u.closing → (u.relay.session i).state = .capturing → ∀ worker points,
    u.arrived? (.emit worker p points) = some (k, points) ∧
      (u.step h.noting (.emit worker p points)).1 = .emitted (.ok true)
  /-- Operations do what they would do with any other hand-off. -/
  unaffected : ∀ (op : Operation) (q : Handoff), op.perform i (u.relay.setHandoff k q) =
    ((op.perform i u.relay).1, (op.perform i u.relay).2.setHandoff k q)
  /-- Closing waits for nobody. -/
  begins : i ∉ u.closing → (u.step h.noting (.beginClose i)).1 = .done
  ends : i ∈ u.closing → (u.step h.noting (.endClose i)).1 = .done

/-- What closing leaves behind: `z` is what the end of closing makes of `u`, and `b` was before the
    open period. -/
structure Recovered (h : Handler σ) (i r p k : Nat) (settings : Settings) (own : Nat → Bool)
    (b u z : World (σ × List (Nat × Delivery))) : Prop where
  ended : i ∉ z.closing
  closed : Relay.ClosedOff i p k u.relay z.relay
  /-- Every thread that has attached to the host has detached again. -/
  detached : (z.relay.runtime r).attaches = (z.relay.runtime r).detaches
  reopens : z.Reopens h i r settings own
  /-- Of the frames that the camera has handed out meanwhile, at least the one that the handler has
      given up on is in no count, and no more than the hand-off has slots. -/
  missing : let lost : Int :=
      ((z.account i r own).emitted - (b.account i r own).emitted : Int) -
        ((z.account i r own).stats.settled - (b.account i r own).stats.settled)
    1 ≤ lost ∧ lost ≤ settings.handoffDepth.toNat

/-- Nobody waits for a dispatch thread that is lost. -/
theorem dispatched_of_lost {τ : Type} {u : World τ} {i : Nat} {s : Session} {o : OpenCamera}
    (hs : u.relay.sessions[i]? = some s) (ho : s.camera = some o)
    (hlost : u.relay.lane o.channel = ([], false)) : u.dispatched i = true := by
  unfold dispatched
  rw [Relay.session_eq hs, ho, Option.all_some]
  cases hq : (u.relay.channel o.channel).handoff with
  | none => rfl
  | some q =>
    rw [Relay.lane, Channel.lane_of_some hq] at hlost
    rw [Option.all_some, Handoff.finished, (Prod.mk.inj hlost).2]
    rfl

namespace Lone

variable {u : World (σ × List (Nat × Delivery))} {h : Handler σ} {i r k : Nat}
  {settings : Settings} {own : Nat → Bool} {s : Session} {o : OpenCamera}

/-- The camera that the session captures from, and who listens to it. -/
theorem listener?_of_capturing (hu : u.Lone i r settings own) (hs : u.relay.sessions[i]? = some s)
    (ho : s.camera = some o) (hfree : i ∉ u.closing) (hcapturing : s.state = .capturing) :
    u.relay.listener? o.device.camera = some o.channel := by
  obtain ⟨c, hc⟩ := (Relay.of_custody hu.custody hs).2 o ho
  have hstanding : u.standing.sessions[i]? = some s.standing := Relay.session_standing hs
  have hheld : s.standing.camera = some o.standing := Relay.held_standing ho
  have hmine : own o.device.camera = true :=
    (hu.secluded.owned i o.device.camera ⟨_, _, hstanding, hheld, rfl⟩).mpr rfl
  obtain ⟨hlistener, hstate⟩ := hu.attuned.following i s.standing o.standing c.standing hmine hfree
    hstanding hheld (Relay.camera_standing hc)
  exact Relay.listener?_eq_some.mpr ⟨c, hc, hstate.mpr hcapturing, hlistener⟩

/-- **What is left of an open period** in which the dispatch thread is lost. -/
theorem contained (hu : u.Lone i r settings own) (hqueued : settings.delivery = .queued)
    (hs : u.relay.sessions[i]? = some s) (ho : s.camera = some o)
    (hlost : u.relay.lane o.channel = ([], false)) :
    u.Contained h i o.device.camera o.channel := by
  have hheld : (u.relay.session i).channel? = some o.channel := by
    simp [Relay.session_eq hs, Session.channel?, ho]
  obtain ⟨hk, hsession⟩ := hu.held hheld
  obtain ⟨q, hq⟩ := hu.handoff hqueued hk hsession
  have hdead : q.alive = false := by
    rw [Relay.lane, Channel.lane_of_some hq] at hlost
    exact congrArg Prod.snd hlost
  refine ⟨fun e points harrived => ?_, fun hfree hcapturing worker points => ?_,
    fun op q' => Operation.perform_setHandoff q' hk op i, fun hfree => ?_, fun hbegun => ?_⟩
  · have hstats := stats_of_arrived? h.noting harrived hq hdead
    rw [Relay.stats_of_modify hstats hu.session_lt, if_pos hsession]
  · rw [Relay.session_eq hs] at hcapturing
    have hlistener := hu.listener?_of_capturing hs ho hfree hcapturing
    refine ⟨?_, ?_⟩
    · simp [arrived?, injected?, hlistener]
    · obtain ⟨hanswer, -⟩ := Live.emit_dropped (h := h.noting) (l := u.toLive) hlistener hq hdead
        (.worker worker) points
      exact congrArg Response.emitted hanswer
  · rw [step_beginClose_of_held hs hfree ho]
  · exact (closedOff_of_dispatched h.noting hu.custody hbegun (dispatched_of_lost hs ho hlost)).1

/-- Nothing waits for a session that holds no channel. -/
theorem waiting_of_closed {τ : Type} {w : World τ} (hw : w.Lone i r settings own)
    (hclosed : (w.relay.session i).channel? = none) : (w.account i r own).waiting = 0 := by
  obtain ⟨s, hs, -⟩ := hw.session
  rw [Relay.session_eq hs] at hclosed
  refine hw.attended.claimed.waitingFor_eq_zero hw.custody (Relay.session_standing hs) ?_
  have hnone : s.camera = none := Option.map_eq_none_iff.mp hclosed
  simp [Session.standing, hnone]

/-- **What closing leaves behind** where frames are missing. -/
theorem recovered {b : World (σ × List (Nat × Delivery))} (hu : u.Lone i r settings own)
    (hqueued : settings.delivery = .queued) (hs : u.relay.sessions[i]? = some s)
    (ho : s.camera = some o) (hlost : u.relay.lane o.channel = ([], false)) (hbegun : i ∈ u.closing)
    (hshort : Shortfall settings.handoffDepth.toNat (b.account i r own) (u.account i r own) false) :
    Recovered h i r o.device.camera o.channel settings own b u
      (u.step h.noting (.endClose i)).2 := by
  have hdispatched := dispatched_of_lost hs ho hlost
  obtain ⟨-, hended, s', o', hs', ho', hclosed⟩ :=
    closedOff_of_dispatched h.noting hu.custody hbegun hdispatched
  obtain rfl : s = s' := Option.some.inj (hs.symm.trans hs')
  obtain rfl : o = o' := Option.some.inj (ho.symm.trans ho')
  have hbooks := (closed_of_step h.noting hu.custody hbegun hended).2.2
  have hz := hu.step hqueued h.noting
    (show (Event.endClose i).KeepsTo i own u.relay from fun _ _ _ _ _ he => absurd he (by simp))
  generalize (u.step h.noting (.endClose i)).2 = z at hended hclosed hbooks hz ⊢
  have hreleased : (z.relay.session i).channel? = none := by
    rw [Session.channel?, hclosed.closed.2]
    rfl
  refine ⟨hended, hclosed, ?_, hz.reopens hqueued, ?_⟩
  · -- Nobody is attached but on behalf of the channel that a session holds.
    have hnobody : z.relay.attachments.countP (·.runtime == r) = 0 := by
      refine List.countP_eq_zero.mpr fun a ha har => ?_
      obtain ⟨_, -, hheld⟩ := hz.manned a ha (by simpa using har)
      exact absurd (hreleased.symm.trans hheld) (by simp)
    have hlevel := hz.level
    unfold Relay.Level Relay.dues at hlevel
    rw [hlevel, hnobody, Nat.add_zero]
  · have hsame : z.account i r own = u.account i r own :=
      congrArg (Books.account i r own) hbooks
    have hwaiting := hz.waiting_of_closed hreleased
    obtain ⟨n, hsum, -, hsome⟩ := hshort
    obtain ⟨hleast, hmost⟩ := hsome rfl
    rw [hsame] at hwaiting ⊢
    dsimp only
    omega

/-- **Where an open period begins**, no frame has been missed. -/
theorem shortfall_of_opened {b : World (σ × List (Nat × Delivery))} (hb : b.Lone i r settings own)
    (hqueued : settings.delivery = .queued) {d : Descriptor} {key : UInt32} {address : Nat}
    (hkeeps : (Event.operate i (.openCamera d key address)).KeepsTo i own b.relay)
    (hopened : (b.step h.noting (.operate i (.openCamera d key address))).1 =
      .answered (.unit (.ok ()))) :
    let v := (b.step h.noting (.operate i (.openCamera d key address))).2
    let k := b.relay.channels.length
    (v.relay.session i).channel? = some k ∧
      Shortfall settings.handoffDepth.toNat (b.account i r own) (v.account i r own)
        (v.relay.lane k).2 := by
  intro v k
  obtain ⟨hheld, -⟩ := hb.reopens (h := h) hqueued d key address [] (by simpa using hkeeps) hopened
  refine ⟨hheld, ?_⟩
  have hfree (k' : Nat) (hheld' : (b.relay.session i).channel? = some k') : k' = k := by
    -- The session would hold it on.
    have hstays : i ∈ b.closing → i ∈ v.closing := by
      intro hbegun
      refine Decidable.byContradiction fun hended => ?_
      exact absurd (closed_of_step h.noting hb.custody hbegun hended).1 (by simp)
    have hafter := channel?_after h.noting (.operate i (.openCamera d key address)) hb.custody hheld'
      hb.session_lt hstays
    exact Option.some.inj (hafter.symm.trans hheld)
  have hnone : (b.relay.session i).channel? = none := by
    cases hheld' : (b.relay.session i).channel? with
    | none => rfl
    | some k' => exact absurd (hfree k' hheld') (Nat.ne_of_lt (hb.held hheld').1)
  have hwaiting := hb.waiting_of_closed hnone
  have hlane : b.relay.lane k = ([], true) := by
    have hchannel : b.relay.channel k = default := by
      simp [Relay.channel, k]
    rw [Relay.lane, hchannel]
    rfl
  refine hb.shortfall_step hqueued h.noting _ (fun hk => absurd hk (Nat.lt_irrefl k)) hfree ?_
  rw [hlane]
  exact ⟨0, by omega, fun _ => rfl, fun hfalse => absurd hfalse (by simp)⟩

end Lone

end World

/-- **A handler that gives up on a frame of a queued session is contained**, if the session shares
    neither its cameras nor its host.  The session opens a camera in the world `b`; some steps
    later, in the world `w`, its handler gives up, which leads to `v`; and as long as the session is
    not closed, in the world `u`, what is left of the open period is this: the handler is not called
    again, frames that arrive are counted as dropped, which whoever injects them does not see, and
    operations answer as they would have anyway.  Closing leaves nothing of all that behind, and a
    camera that is opened then delivers as it should.  Over the whole period at least one frame is
    in none of the counts, and no more than the hand-off has slots. -/
theorem aborted_calls_are_contained (profiles : List CameraProfile) (runtimes : Nat)
    (sessions : List (Nat × Settings)) (host : σ) (now : Nat) (h : Handler σ) {i r : Nat}
    {settings : Settings} {own : Nat → Bool} {first mid after : List Event} {d : Descriptor}
    {key : UInt32} {address : Nat} {e : Event}
    {start b a w v u : World (σ × List (Nat × Delivery))} {o : OpenCamera}
    (hstart : World.fresh profiles runtimes sessions (host, []) now = start)
    (hi : sessions[i]? = some (r, settings)) (hr : r < runtimes)
    (halone : ∀ j s, sessions[j]? = some (r, s) → j = i) (hqueued : settings.delivery = .queued)
    (hkeeps : ∀ e' ∈ first ++ .operate i (.openCamera d key address) :: (mid ++ e :: after),
      e'.KeepsTo i own start.relay)
    (hfirst : start.run h.noting first = b)
    (hopened : b.step h.noting (.operate i (.openCamera d key address)) =
      (.answered (.unit (.ok ())), a))
    (hmid : a.run h.noting mid = w) (hup : w.GivesUp h r e) (hv : (w.step h.noting e).2 = v)
    (hafter : v.run h.noting after = u) (ho : (u.relay.session i).camera = some o)
    (hperiod : o.channel = b.relay.channels.length) :
    e = .dispatch o.channel ∧ u.host.2.filter (·.1 = r) = v.host.2.filter (·.1 = r) ∧
      u.Contained h i o.device.camera o.channel ∧
      (i ∈ u.closing → World.Recovered h i r o.device.camera o.channel settings own b u
        (u.step h.noting (.endClose i)).2) := by
  have hfresh : start.Lone i r settings own :=
    hstart ▸ World.lone_fresh profiles runtimes sessions (host, []) now hi hr halone
  obtain ⟨hb, hkeepsb⟩ := hfresh.split hqueued h.noting first _ hkeeps
  rw [hfirst] at hb hkeepsb
  obtain ⟨hheld, hshort⟩ := hb.shortfall_of_opened hqueued (hkeepsb _ List.mem_cons_self)
    (congrArg Prod.fst hopened)
  obtain ⟨ha, hkeepsa⟩ := hb.split hqueued h.noting [_] (mid ++ e :: after) hkeepsb
  rw [show b.run h.noting [_] = a from congrArg Prod.snd hopened] at ha hkeepsa
  rw [hopened, ← hperiod] at hheld hshort
  obtain ⟨hw, hkeepsw⟩ := ha.split hqueued h.noting mid (e :: after) hkeepsa
  obtain ⟨hk, -⟩ := ha.held hheld
  have hkw := (World.wiring_run h.noting mid ha.custody (List.getElem?_eq_getElem hk)).2
  rw [hmid] at hw hkeepsw hkw
  -- The session holds its channel in `u`, so it has held it in `w`, where its thread is lost.
  have hrun : w.run h.noting (e :: after) = u := by
    rw [← hafter, ← hv]
    rfl
  have hlast : (u.relay.session i).channel? = some o.channel := by
    rw [Session.channel?, ho]
    rfl
  have hheldw := World.Lone.held_before_run h.noting (e :: after) hw.custody hw.session_lt hkw
    (hrun ▸ hlast)
  obtain ⟨k, he, hheldw', hlost⟩ := hw.lost_of_givesUp hqueued hup
  obtain rfl : k = o.channel := Option.some.inj (hheldw'.symm.trans hheldw)
  obtain ⟨hv', hkeepsv⟩ := hw.split hqueued h.noting [e] after hkeepsw
  have hkv := (World.wiring_step h.noting e hw.custody (List.getElem?_eq_getElem hkw)).2
  rw [show w.run h.noting [e] = v from hv] at hv' hkeepsv
  rw [hv] at hlost hkv
  obtain ⟨hsilent, hlostu⟩ := hv'.silent_run hqueued after hkeepsv hlost hkv (hafter ▸ hlast)
  obtain ⟨hu, -⟩ := hv'.run hqueued h.noting after hkeepsv
  rw [hafter] at hsilent hlostu hu
  obtain ⟨s, hs, -⟩ := hu.session
  rw [Relay.session_eq hs] at ho
  refine ⟨he, hsilent, hu.contained hqueued hs ho hlostu, fun hbegun => ?_⟩
  have hruna : a.run h.noting (mid ++ e :: after) = u := by
    rw [World.run_append, hmid, hrun]
  have hshortu := ha.shortfall_run hqueued h.noting (mid ++ e :: after) hkeepsa hk
    (hruna ▸ hlast) hshort
  rw [hruna, hlostu] at hshortu
  exact hu.recovered hqueued hs ho hlostu hbegun hshortu

/-- Two frames wait when the handler gives up on the first of them, and a camera is opened again. -/
theorem aborted_calls_are_contained_reopened :
    let settings : Settings := { maxPoints := 2, delivery := .queued, handoffDepth := 2 }
    let h : Handler Nat := fun _ _ calls =>
      if calls = 0 then { reply := .aborted (.handler "too near"), host := calls + 1 }
      else { reply := .accepted, host := calls + 1 }
    let start : World (Nat × List (Nat × Delivery)) :=
      World.fresh [{ serial := "A", fd := 3 }] 1 [(0, settings)] (0, []) 0
    let opening : Event := .operate 0 (.openCamera ⟨3⟩ 5 64)
    let frame : Event := .emit "W" 0 [⟨1, 2, 3, 0, 0, 0⟩]
    let first : List Event := [.operate 0 (.openCamera ⟨4⟩ 5 64)]
    let mid : List Event := [.operate 0 (.start false), frame, frame, frame]
    let after : List Event := [frame, .beginClose 0]
    let b := start.run h.noting first
    let a := (b.step h.noting opening).2
    let w := a.run h.noting mid
    let v := (w.step h.noting (.dispatch 0)).2
    let u := v.run h.noting after
    let z := (u.step h.noting (.endClose 0)).2
    let again := (z.step h.noting opening).2.run h.noting
      [.operate 0 (.start false), frame, .dispatch 1]
    w.GivesUp h 0 (.dispatch 0) ∧
      World.Recovered h 0 0 0 0 settings (fun _ => true) b u z ∧
      (z.relay.session 0).stats = { backpressureDrops := 2 } ∧
      (z.account 0 0 fun _ => true).emitted = 4 ∧
      ((z.relay.runtime 0).attaches, (z.relay.runtime 0).detaches) = (1, 1) ∧
      (again.relay.session 0).stats = { delivered := 1, backpressureDrops := 2 } ∧
      again.host.1 = 2 := by
  intro settings h start opening frame first mid after b a w v u z again
  have hup : w.GivesUp h 0 (.dispatch 0) := by
    have hcalls : w.host.1 = 0 ∧ w.host.2.length = 0 := by decide +kernel
    have hplaces : (w.step h.noting (.dispatch 0)).2.host.2.map Prod.fst = [0] := by decide +kernel
    obtain ⟨⟨_, d⟩, hnotes, rfl⟩ := List.map_eq_singleton_iff.mp hplaces
    unfold World.GivesUp
    rw [hnotes, List.length_eq_zero_iff.mp hcalls.2, hcalls.1]
    exact ⟨d, .handler "too near", rfl, rfl⟩
  have hsessions : ∀ j s, [(0, settings)][j]? = some (0, s) → j = 0 := by
    intro j s hj
    cases j with
    | zero => rfl
    | succ j => exact absurd hj (by simp)
  have hkeeps : ∀ e' ∈ first ++ opening :: (mid ++ .dispatch 0 :: after),
      e'.KeepsTo 0 (fun _ => true) start.relay := by
    intro e' he' j d key address p he _
    subst he
    simp only [List.cons_append, List.nil_append, List.mem_cons, Event.operate.injEq,
      Operation.openCamera.injEq, reduceCtorEq, and_false, List.not_mem_nil, or_self, or_false, first,
      opening, mid, frame, after] at he'
    rcases he' with ⟨hj, -⟩ | ⟨hj, -⟩ <;> simp [hj]
  have hopened : (b.step h.noting opening).1 = .answered (.unit (.ok ())) := by decide +kernel
  have hchannel : (u.relay.session 0).camera.map (fun o => (o.channel, o.device.camera)) =
      some (0, 0) := by decide +kernel
  obtain ⟨o, ho, hplaces⟩ := Option.map_eq_some_iff.mp hchannel
  obtain ⟨hperiod, hplace⟩ := Prod.mk.inj hplaces
  have hk : b.relay.channels.length = 0 := by decide +kernel
  obtain ⟨-, -, -, hrecovered⟩ := aborted_calls_are_contained [{ serial := "A", fd := 3 }] 1
    [(0, settings)] 0 0 h (b := b) (a := a) (w := w) (v := v) (u := u) rfl rfl (by decide) hsessions
    rfl hkeeps rfl (Prod.ext hopened rfl) rfl hup rfl rfl ho (hperiod.trans hk.symm)
  rw [hperiod, hplace] at hrecovered
  exact ⟨hup, hrecovered (by decide +kernel), by decide +kernel, by decide +kernel,
    by decide +kernel, by decide +kernel, by decide +kernel⟩

end DepthRelay
