import DepthRelay.Proofs.LoneSessions

namespace DepthRelay

/-!
# Open periods in which the handler gives up

What is left of the open period of a lone session once the handler has given up on one of its
frames.

* `World.GivesUp` — the handler of a host gives up in a step.
* `World.Lone.lost_of_givesUp`, `World.Lone.givesUp_of_lost` — this and nothing else takes the
  dispatch thread.
* `World.Lone.silent_run` — the handler is not called any more.
* `World.stats_of_arrived?` — frames that arrive are dropped.
* `Operation.perform_setHandoff` — operations do not depend on the hand-off.
* `World.Shortfall`, `World.Lone.shortfall_run` — how many frames end in no count.
-/

variable {σ : Type}

/-- In this step the handler gives up on a frame for the host `r`. -/
def World.GivesUp (h : Handler σ) (r : Nat) (e : Event) (w : World (σ × List (Nat × Delivery))) :
    Prop :=
  ∃ d reason, (w.step h.noting e).2.host.2 = w.host.2 ++ [(r, d)] ∧
    (h r d w.host.1).reply = .aborted reason

/-- What is noted of a delivery, if anything. -/
theorem Called.noted {h : Handler σ} {l : Live (σ × List (Nat × Delivery))} {k : Nat}
    {points : List Point} {host : σ × List (Nat × Delivery)}
    (hcalled : Called h.noting l k points host) :
    host = l.host ∨ ∃ d, host = (h.noting (l.relay.channel k).binding.runtime d l.host).host := by
  cases hcalled with
  | not kept => exact .inl kept
  | called d _ _ answered => exact .inr ⟨d, answered⟩

namespace Relay

variable {w : Relay} {k : Nat}

/-- The lane of a channel, from the row of hand-offs. -/
theorem lane_of_handoffs {hs : List (Option Handoff)} {q : Handoff} (hw : w.handoffs = hs)
    (hq : hs[k]? = some (some q)) : w.lane k = (q.queue, q.alive) := by
  unfold lane
  exact Channel.lane_of_some (mem_handoffs.mp (hw ▸ hq))

end Relay

namespace World

namespace Lone

variable {w : World (σ × List (Nat × Delivery))} {h : Handler σ} {i r k : Nat}
  {settings : Settings} {own : Nat → Bool} {e : Event}

/-! ### The thread is lost -/

/-- **A handler that gives up takes the dispatch thread with it**, and all that waits. -/
theorem lost_of_givesUp (hw : w.Lone i r settings own) (hqueued : settings.delivery = .queued)
    (hup : w.GivesUp h r e) :
    ∃ k, e = .dispatch k ∧ (w.relay.session i).channel? = some k ∧
      (w.step h.noting e).2.relay.lane k = ([], false) := by
  obtain ⟨d, reason, hnoted, hreply⟩ := hup
  have hlonger : (w.step h.noting e).2.host ≠ w.host := by
    intro hsame
    rw [hsame] at hnoted
    simpa using congrArg List.length hnoted
  -- The frame is one of the channel that the session holds.
  have hfound : ∃ k points, w.delivered? e = some (k, points) ∧
      (w.relay.channel k).binding.runtime = r := by
    have hpassage := step_passage h.noting e hw.custody
    generalize w.arrived? e = arrived, w.delivered? e = delivered at hpassage
    have hcall {k : Nat} {points : List Point}
        (called : Called h.noting w.toLive k points (w.step h.noting e).2.host) :
        (w.relay.channel k).binding.runtime = r := by
      rcases called.noted with hsame | ⟨d', hcalled⟩
      · exact absurd hsame hlonger
      · rw [hcalled] at hnoted
        exact congrArg Prod.fst (List.singleton_inj.mp (List.append_cancel_left hnoted))
    cases hpassage with
    | idle host _ | left _ _ _ _ host _ => exact absurd host hlonger
    | direct k points _ called _ => exact ⟨k, points, rfl, hcall called⟩
    | dispatched k points _ _ called _ _ => exact ⟨k, points, rfl, hcall called⟩
  obtain ⟨k, points, hdelivered, hr⟩ := hfound
  obtain ⟨rfl, hheld⟩ := hw.dispatch_of_delivered? hqueued hdelivered hr
  refine ⟨k, rfl, hheld, ?_⟩
  obtain ⟨⟨points', v⟩, htake, -⟩ := Option.map_eq_some_iff.mp hdelivered
  obtain ⟨q, q', hq, -, hturnout⟩ := Live.dispatch_turnout h.noting htake
  have hafter (g : Handoff) : (w.relay.handoffs.set k (some g))[k]? = some (some g) :=
    getElem?_set_of_some (Relay.mem_handoffs.mpr hq)
  cases hturnout with
  | lost _ _ _ _ _ handoffs => exact Relay.lane_of_handoffs handoffs (hafter _)
  | unasked _ host _ => exact absurd host hlonger
  | answered d' _ host answered _ =>
    rw [hr] at host answered
    have hsame : d' = d := by
      have hnotes := (congrArg Prod.snd host).symm.trans hnoted
      exact congrArg Prod.snd (List.singleton_inj.mp (List.append_cancel_left hnotes))
    exact absurd (hsame ▸ hreply) (answered reason)

/-- **and there is no other way to lose it.** -/
theorem givesUp_of_lost (hw : w.Lone i r settings own) (hqueued : settings.delivery = .queued)
    (hsession : (w.relay.channel k).session = i) (hk : k < w.relay.channels.length)
    (halive : (w.relay.lane k).2 = true)
    (hlost : ((w.step h.noting e).2.relay.lane k).2 = false) : w.GivesUp h r e := by
  have hx := List.getElem?_eq_getElem hk
  have hr : (w.relay.channel k).binding.runtime = r := by
    rw [Relay.channel_eq hx] at hsession ⊢
    exact (of_secluded hw.secluded hx).1.mpr hsession
  -- Only a step that delivers a frame of the channel can lose its thread; the others leave the lane
  -- alive.
  have hdelivered : ∃ points, w.delivered? e = some (k, points) := by
    have hpassage := step_passage h.noting e hw.custody
    generalize w.arrived? e = arrived, w.delivered? e = delivered at hpassage
    have hkept (hsame : ((w.step h.noting e).2.relay.lane k).2 = (w.relay.lane k).2) : False := by
      rw [hsame, halive] at hlost
      exact absurd hlost (by simp)
    cases hpassage with
    | idle _ lanes | direct _ _ _ _ lanes => exact (hkept (congrArg Prod.snd (lanes k))).elim
    | left j points q queued _ lanes =>
      refine (hkept ?_).elim
      have hlane := lanes k
      by_cases hj : k = j
      · subst hj
        rw [if_pos rfl] at hlane
        have hsubmit : (q.submit points).2.alive = q.alive := by
          rcases q.submit_queue points with ⟨q', hq', -, halive'⟩ | ⟨q', hq', -, halive'⟩ <;>
            rw [hq', halive']
        rw [show (w.step h.noting e).2.relay.lane k = _ from hlane, hsubmit, Relay.lane,
          Channel.lane_of_some queued]
      · rw [if_neg hj] at hlane
        exact congrArg Prod.snd hlane
    | dispatched j points _ _ _ lanes _ =>
      by_cases hj : k = j
      · exact ⟨points, by rw [hj]⟩
      · exact (hkept (congrArg Prod.snd (lanes k hj))).elim
  obtain ⟨points, hdelivered⟩ := hdelivered
  -- The frame is dispatched, and the thread goes on unless the handler has given up on it.
  obtain ⟨rfl, -⟩ := hw.dispatch_of_delivered? hqueued hdelivered hr
  obtain ⟨⟨points', v⟩, htake, -⟩ := Option.map_eq_some_iff.mp hdelivered
  obtain ⟨q, q', hq, htaken, hturnout⟩ := Live.dispatch_turnout h.noting htake
  have halive' : q'.alive = true := by
    rw [Relay.lane, Channel.lane_of_some hq] at halive
    obtain ⟨-, rest, -, rfl⟩ := Handoff.of_take? htaken
    exact halive
  have hafter (g : Handoff) : (w.relay.handoffs.set k (some g))[k]? = some (some g) :=
    getElem?_set_of_some (Relay.mem_handoffs.mpr hq)
  cases hturnout with
  | lost d reason _ host reply _ =>
    rw [hr] at host reply
    exact ⟨d, reason, congrArg Prod.snd host, reply⟩
  | unasked _ _ handoffs | answered _ _ _ _ handoffs =>
    rw [show ((w.step h.noting (.dispatch k)).2.relay.lane k) = _ from
      Relay.lane_of_handoffs handoffs (hafter _)] at hlost
    exact absurd (hlost.symm.trans halive') (by simp)

/-! ### No more calls -/

/-- A channel whose thread is lost, and whose queue is empty, stays like that. -/
theorem lane_of_lost {τ : Type} {w : World τ} (h : Handler τ) (e : Event)
    (hcustody : Custody w.standing) (hlost : w.relay.lane k = ([], false)) :
    (w.step h e).2.relay.lane k = ([], false) := by
  rcases step_lane h e hcustody k with ⟨halive, hqueue, hkept⟩ | ⟨hsame, -⟩
  · rw [hlost] at halive hqueue hkept
    rw [hkept rfl, List.append_nil] at hqueue
    exact Prod.ext (List.append_eq_nil_iff.mp hqueue.symm).2 halive
  · exact hsame

/-- Without the dispatch thread the handler is not called. -/
theorem silent_step (hw : w.Lone i r settings own) (hqueued : settings.delivery = .queued)
    (hheld : (w.relay.session i).channel? = some k) (hlost : w.relay.lane k = ([], false)) :
    (w.step h.noting e).2.host.2.filter (·.1 = r) = w.host.2.filter (·.1 = r) := by
  have hpassage := step_passage h.noting e hw.custody
  have hother {k' : Nat} {points : List Point} (hdelivered : w.delivered? e = some (k', points))
      (called : Called h.noting w.toLive k' points (w.step h.noting e).2.host)
      (hunlost : w.relay.lane k' ≠ ([], false)) :
      (w.step h.noting e).2.host.2.filter (·.1 = r) = w.host.2.filter (·.1 = r) := by
    rcases called.noted with hsame | ⟨d, hcalled⟩
    · rw [show (w.step h.noting e).2.host = w.host from hsame]
    · have hne : (w.relay.channel k').binding.runtime ≠ r := by
        intro hr
        obtain ⟨-, hheld'⟩ := hw.dispatch_of_delivered? hqueued hdelivered hr
        obtain rfl : k = k' := Option.some.inj (hheld.symm.trans hheld')
        exact hunlost hlost
      rw [show (w.step h.noting e).2.host.2 =
        w.host.2 ++ [((w.relay.channel k').binding.runtime, d)] from congrArg Prod.snd hcalled]
      simp [List.filter_append, hne]
  generalize w.arrived? e = arrived, hframe : w.delivered? e = delivered at hpassage
  cases hpassage with
  | idle host _ | left _ _ _ _ host _ =>
    rw [show (w.step h.noting e).2.host = w.host from host]
  | direct k' points direct called _ =>
    refine hother hframe called fun hsame => ?_
    unfold Relay.lane Channel.lane at hsame
    rw [direct] at hsame
    exact absurd (congrArg Prod.snd hsame) (by simp)
  | dispatched k' points rest lane called _ _ =>
    refine hother hframe called fun hsame => ?_
    exact absurd (congrArg Prod.snd (lane.symm.trans hsame)) (by simp)

/-- What has been held at the end has been held all along. -/
theorem held_before_run {τ : Type} {w : World τ} (h : Handler τ) (events : List Event)
    (hcustody : Custody w.standing) (hi : i < w.relay.sessions.length)
    (hk : k < w.relay.channels.length)
    (hheld : ((w.run h events).relay.session i).channel? = some k) :
    (w.relay.session i).channel? = some k := by
  induction events generalizing w with
  | nil => exact hheld
  | cons e rest ih =>
    have hlt := (wiring_step h e hcustody (List.getElem?_eq_getElem hk)).2
    have hi' : i < (w.step h e).2.relay.sessions.length := by
      rw [length_sessions_step h hcustody]
      exact hi
    exact channel?_before h e hcustody hi hk
      (ih (hcustody.shift (step_shift h e hcustody)) hi' hlt hheld)

/-- **Once the dispatch thread is lost**, the handler is not called again in the same open
    period. -/
theorem silent_run (hw : w.Lone i r settings own) (hqueued : settings.delivery = .queued)
    (events : List Event) (hkeeps : ∀ e ∈ events, e.KeepsTo i own w.relay)
    (hlost : w.relay.lane k = ([], false)) (hk : k < w.relay.channels.length)
    (hheld : ((w.run h.noting events).relay.session i).channel? = some k) :
    (w.run h.noting events).host.2.filter (·.1 = r) = w.host.2.filter (·.1 = r) ∧
      (w.run h.noting events).relay.lane k = ([], false) := by
  have hnow := held_before_run h.noting events hw.custody hw.session_lt hk hheld
  induction events generalizing w with
  | nil => exact ⟨rfl, hlost⟩
  | cons e rest ih =>
    have hlt := (wiring_step h.noting e hw.custody (List.getElem?_eq_getElem hk)).2
    have hstep := hw.step hqueued h.noting (hkeeps e List.mem_cons_self)
    have hprofiles := profiles_step h.noting e hw.custody
    have hnext := held_before_run h.noting rest hstep.custody hstep.session_lt hlt hheld
    obtain ⟨hsilent, hend⟩ := ih hstep
      (fun e' he' => (hkeeps e' (List.mem_cons_of_mem e he')).congr hprofiles)
      (lane_of_lost h.noting e hw.custody hlost) hlt hheld hnext
    exact ⟨hsilent.trans (hw.silent_step hqueued hnow hlost), hend⟩

end Lone

end World

/-! ### Frames that arrive -/

namespace Live

variable {h : Handler σ} {l : Live σ} {k : Nat}

/-- A frame that finds no thread at the other end is taken and dropped. -/
theorem emit_dropped {p : Nat} {q : Handoff} (hlistener : l.relay.listener? p = some k)
    (hq : (l.relay.channel k).handoff = some q) (hdead : q.alive = false) (t : ThreadId)
    (points : List Point) :
    (l.emit h t p points).1 = .ok true ∧
      (l.emit h t p points).2.relay.sessions.map Session.stats =
        (l.relay.sessions.map Session.stats).modify (l.relay.channel k).session
          Stats.noteBackpressure := by
  obtain ⟨v, hoffer, hbooks, hchannels, -⟩ := Relay.offer_books points hlistener
  have hchannel := Relay.channel_of_channels hchannels k
  -- A thread that is gone takes nothing any more.
  have hdropped : ∃ q', q.submit points = (.dropped, q') := by
    cases hsubmit : q.submit points with
    | mk status q' =>
      cases status with
      | dropped => exact ⟨q', rfl⟩
      | queued =>
        have halive := World.alive_of_submit (congrArg Prod.fst hsubmit)
        exact absurd (hdead.symm.trans halive) (by simp)
  obtain ⟨q', hsubmit⟩ := hdropped
  unfold emit
  rw [hoffer]
  dsimp only
  rw [hchannel, hq]
  refine ⟨rfl, ?_⟩
  show (v.submit k q points).sessions.map Session.stats = _
  unfold Relay.submit
  rw [hsubmit]
  have hlt : k < v.channels.length :=
    hchannels ▸ (List.getElem?_eq_some_iff.mp (Relay.getElem?_of_handoff hq)).1
  -- The frame counts for the session of the channel.
  have hsession : ((v.modifyChannel k fun x => { x with handoff := some q' }).channel k).session =
      (l.relay.channel k).session := by
    rw [Relay.channel_modifyChannel k _ v hlt, hchannel]
  have hstats : v.sessions.map Session.stats = l.relay.sessions.map Session.stats :=
    congrArg Books.stats hbooks
  dsimp only
  rw [Relay.stats_count, hsession, ← hstats]
  rfl

end Live

namespace World

/-- **A frame that arrives where the dispatch thread is lost is dropped**, and this is all that is
    counted. -/
theorem stats_of_arrived? {w : World σ} (h : Handler σ) {e : Event} {k : Nat} {points : List Point}
    {q : Handoff} (harrived : w.arrived? e = some (k, points))
    (hq : (w.relay.channel k).handoff = some q) (hdead : q.alive = false) :
    (w.step h e).2.relay.sessions.map Session.stats =
      (w.relay.sessions.map Session.stats).modify (w.relay.channel k).session
        Stats.noteBackpressure := by
  obtain ⟨⟨p, points'⟩, hinjected, hfound⟩ := Option.bind_eq_some_iff.mp harrived
  obtain ⟨k', hlistener, hframe⟩ := Option.map_eq_some_iff.mp hfound
  obtain ⟨rfl, rfl⟩ := Prod.mk.inj hframe
  cases e with
  | emit worker p' points =>
    obtain ⟨rfl, rfl⟩ := Prod.mk.inj (Option.some.inj hinjected)
    exact (Live.emit_dropped (l := w.toLive) hlistener hq hdead (.worker worker) points).2
  -- The source has given out the frame already, and what has changed by this is not counted.
  | wake i =>
    obtain ⟨source, hsource, hproduced⟩ := Option.bind_eq_some_iff.mp hinjected
    unfold step
    dsimp only
    rw [hsource]
    dsimp only
    unfold Live.wake
    cases hwake : w.relay.wakeSource i source with
    | mk produced v =>
      rw [hwake] at hproduced
      dsimp only at hproduced
      subst hproduced
      obtain ⟨hbooks, hcameras, hchannels, -⟩ := Relay.wakeSource_some hwake
      have hchannel := Relay.channel_of_channels hchannels k'
      have hheard : v.listener? p = some k' :=
        (Relay.listener?_of_cameras hcameras p).trans hlistener
      obtain ⟨hanswer, hstats⟩ := Live.emit_dropped (h := h) (l := w.toLive.withRelay v) hheard
        (hchannel ▸ hq) hdead (.source source.run) points'
      dsimp only
      generalize (w.toLive.withRelay v).emit h (.source source.run) p points' = result
        at hanswer hstats ⊢
      obtain ⟨answer, m⟩ := result
      dsimp only at hanswer
      subst hanswer
      refine hstats.trans ?_
      show (v.sessions.map Session.stats).modify (v.channel k').session _ = _
      rw [hchannel, show v.sessions.map Session.stats = _ from congrArg Books.stats hbooks]
      rfl
  | _ => exact absurd hinjected (by simp [injected?])

end World

/-! ### Operations -/

theorem modify_append_left {α : Type} {l l' : List α} {i : Nat} (g : α → α) (h : i < l.length) :
    (l ++ l').modify i g = l.modify i g ++ l' := by
  have hbefore := List.getElem?_eq_getElem h
  have hafter : (l ++ l')[i]? = some l[i] := (List.getElem?_append_left h).trans hbefore
  rw [modify_of_getElem? g hbefore, modify_of_getElem? g hafter, List.set_append_left i _ h]

namespace Relay

/-- Puts a hand-off into the place of that of a channel. -/
def setHandoff (k : Nat) (q : Handoff) (w : Relay) : Relay :=
  w.modifyChannel k fun x => { x with handoff := some q }

variable {w : Relay} {k : Nat}

theorem operate_setHandoff {α : Type} (q : Handoff)
    (f : Session → List (Camera Nat) → Except RelayError α × Session × List (Camera Nat)) (i : Nat) :
    (w.setHandoff k q).operate f i = ((w.operate f i).1, (w.operate f i).2.setHandoff k q) := rfl

theorem exitSource_setHandoff (q : Handoff) (source : Option Source) :
    (w.setHandoff k q).exitSource source = (w.exitSource source).setHandoff k q := by
  cases source <;> rfl

/-- An opening does not look at the hand-off of another channel. -/
theorem openCamera_setHandoff (q : Handoff) (hk : k < w.channels.length) (p : Nat) (c : Camera Nat)
    (rate : FrameRate) (address i : Nat) :
    (w.setHandoff k q).openCamera p c rate address i =
      ((w.openCamera p c rate address i).1, (w.openCamera p c rate address i).2.setHandoff k q) := by
  have hlength : (w.setHandoff k q).channels.length = w.channels.length :=
    List.length_modify _ _ _
  unfold openCamera
  rw [hlength]
  cases c.fault? .createCamera with
  | some e => rfl
  | none =>
    dsimp only
    have hsession : (w.setHandoff k q).session i = w.session i := rfl
    have hruntime (r : Nat) : (w.setHandoff k q).runtime r = w.runtime r := rfl
    rw [hsession, hruntime]
    generalize Session.configure rate w.channels.length _ c = prepared
    cases prepared with
    | error e c => rfl
    | ok buffer c =>
      dsimp only
      cases (w.runtime (w.session i).runtime).expose buffer.view with
      | error e => rfl
      | ok r =>
        -- The new channel comes behind all others.
        have hchannels : (w.channels ++ [w.newChannel i buffer]).modify k
            (fun x => { x with handoff := some q }) =
            w.channels.modify k (fun x => { x with handoff := some q }) ++
              [w.newChannel i buffer] := modify_append_left _ hk
        unfold setHandoff modifyChannel
        dsimp only
        rw [hchannels]
        rfl

/-- The same, refused or not. -/
theorem openSession_setHandoff (q : Handoff) (hk : k < w.channels.length) (d : Descriptor)
    (key : UInt32) (address i : Nat) :
    (w.setHandoff k q).openSession d key address i =
      ((w.openSession d key address i).1,
        (w.openSession d key address i).2.setHandoff k q) := by
  have hsession : (w.setHandoff k q).session i = w.session i := rfl
  have hcameras : (w.setHandoff k q).cameras = w.cameras := rfl
  unfold openSession
  rw [hsession, hcameras]
  split
  · cases FrameRate.ofKey? key with
    | none => rfl
    | some rate =>
      dsimp only
      split
      · rfl
      · split
        · rfl
        · exact openCamera_setHandoff q hk ..
      · rfl
  · rfl

end Relay

/-- **Operations do not depend on who waits at the other end of a hand-off.** -/
theorem Operation.perform_setHandoff {w : Relay} {k : Nat} (q : Handoff)
    (hk : k < w.channels.length) (op : Operation) (i : Nat) :
    op.perform i (w.setHandoff k q) =
      ((op.perform i w).1, (op.perform i w).2.setHandoff k q) := by
  cases op with
  | openCamera d key address =>
    unfold perform
    dsimp only
    rw [Relay.openSession_setHandoff q hk]
    rfl
  | start timing =>
    unfold perform Relay.start
    dsimp only
    have hsame : Session.start timing (w.setHandoff k q).nextRun (w.setHandoff k q).now =
        Session.start timing w.nextRun w.now := rfl
    rw [hsame, Relay.operate_setHandoff]
    generalize w.operate (Session.start timing w.nextRun w.now) i = result
    obtain ⟨_ | _, v⟩ := result <;> rfl
  | stop =>
    unfold perform Relay.stop
    dsimp only
    rw [Relay.operate_setHandoff]
    generalize w.operate Session.stop i = result
    obtain ⟨_ | _, v⟩ := result
    · rfl
    · dsimp only
      rw [Relay.exitSource_setHandoff]
      rfl
  | setExposure | maxWidth | maxHeight => rfl

/-! ### Frames in no count -/

/-- An entry counts each frame that is emitted once. -/
theorem Entry.level {settings : Settings} {a a' : Account} (h : Entry settings a a') :
    a'.emitted + (a.stats.settled + a.waiting) = a.emitted + (a'.stats.settled + a'.waiting) := by
  cases h with
  | same => rfl
  | queued =>
    dsimp only
    omega
  | dropped =>
    dsimp only
    rw [Stats.settled_noteBackpressure]
    omega
  | settled called f settlement =>
    have hsettled := (settlement.counts a.stats).1
    dsimp only
    omega
  | dispatched called f n settlement hsome =>
    have hsettled := (settlement.counts a.stats).1
    dsimp only
    omega

namespace Books

variable {b : Books} {i r k : Nat} {own : Nat → Bool}

/-- A frame that is abandoned waits no longer, and is counted nowhere. -/
theorem account_abandon {x : Tally} (hk : b.waiting[k]? = some x) :
    b.account i r own =
      { (b.abandon k).account i r own with
        waiting := ((b.abandon k).account i r own).waiting +
          if x.session = i then x.waiting else 0 } := by
  have hterm : (b.waiting.map fun x => if x.session = i then x.waiting else 0)[k]? =
      some (if x.session = i then x.waiting else 0) := by
    simp [hk]
  have hsum := sum_set hterm 0
  have hwaiting : b.waitingFor i =
      (b.abandon k).waitingFor i + if x.session = i then x.waiting else 0 := by
    unfold waitingFor abandon
    dsimp only
    rw [modify_of_getElem? _ hk, List.map_set]
    simp only [ite_self]
    omega
  unfold account
  rw [hwaiting]
  rfl

end Books

namespace Relay

variable {w : Relay} {k : Nat}

/-- What the books know of a dispatch thread. -/
theorem alive_of_books {x : Tally} (hx : w.books.waiting[k]? = some x) :
    x.alive = (w.lane k).2 := by
  obtain ⟨y, hy, rfl⟩ := Option.map_eq_some_iff.mp (List.getElem?_map .. ▸ hx)
  unfold lane
  rw [channel_eq hy]
  unfold Channel.tally Channel.lane
  cases y.handoff <;> rfl

/-- A thread that is lost is not alive in the books. -/
theorem books_of_lost (hlost : (w.lane k).2 = false) :
    ∃ x, w.books.waiting[k]? = some x ∧ x.alive = false := by
  unfold lane Channel.lane at hlost
  cases hq : (w.channel k).handoff with
  | none =>
    rw [hq] at hlost
    exact absurd hlost (by simp)
  | some q =>
    have hx : w.books.waiting[k]? = some (w.channel k).tally := by
      simp [books, getElem?_of_handoff hq]
    refine ⟨_, hx, ?_⟩
    rw [alive_of_books hx, lane, Channel.lane, hq]
    rw [hq] at hlost
    exact hlost

end Relay

namespace World

/-- Since the account was `a`, when nothing waited, all frames that have been emitted wait or are in
    one of the counts, as long as the dispatch thread is alive.  If not, some are missing, but no
    more than the hand-off has slots. -/
def Shortfall (depth : Nat) (a b : Account) (alive : Bool) : Prop :=
  ∃ n, b.emitted + a.stats.settled = b.stats.settled + b.waiting + a.emitted + n ∧
    (alive = true → n = 0) ∧ (alive = false → 1 ≤ n ∧ n ≤ depth)

/-- Channels that frames wait in are claimed by a session. -/
theorem Attended.claimed {w : World σ} (hw : w.Attended) : w.Claimed := by
  intro k x hx hwaiting
  refine (hw k fun hnone => hwaiting ?_).2
  obtain ⟨y, hy, rfl⟩ := Option.map_eq_some_iff.mp (List.getElem?_map .. ▸ hx)
  unfold Relay.lane Channel.lane at hnone
  rw [Relay.channel_eq hy] at hnone
  unfold Channel.tally
  cases hq : y.handoff with
  | none => rfl
  | some q =>
    rw [hq] at hnone
    simpa using congrArg List.length hnone

namespace Lone

variable {w : World σ} {i r k : Nat} {settings : Settings} {own : Nat → Bool} {a : Account}

/-- The frames of others are not in the account. -/
theorem account_of_direct (hw : w.Lone i r settings own) (hqueued : settings.delivery = .queued)
    {p k' cut : Nat} (heard : w.relay.listener? p = some k')
    (direct : (w.relay.channel k').handoff = none) :
    (((w.relay.books.inject p).note (w.relay.channel k').session (Stats.noteWritten cut)).call
      (w.relay.channel k').binding.runtime true).account i r own = w.account i r own := by
  have hk' := Relay.listener_lt hw.custody heard
  have hx := List.getElem?_eq_getElem hk'
  have hother : (w.relay.channel k').session ≠ i := by
    intro hmine
    obtain ⟨q, hq⟩ := hw.handoff hqueued hk' hmine
    exact absurd (hq.symm.trans direct) (by simp)
  have hown : own p ≠ true := by
    intro hown
    obtain ⟨j, s, o, hs, ho, hplace, rfl, -⟩ := Relay.heard_of_custody hw.custody heard
    have hj : j = i := (hw.secluded.owned j p ⟨s, o, hs, ho, hplace⟩).mp hown
    obtain ⟨t, ht, hheld⟩ := Relay.channel?_of_standing hs ho
    exact hother ((Relay.session_of_channel? hw.custody ht hheld).2.trans hj)
  obtain ⟨c, hc, -⟩ := Relay.listener?_eq_some.mp heard
  have hemitted : w.relay.books.emitted[p]? = some c.emitted := by
    simp [Relay.books, hc]
  rw [Relay.channel_eq hx] at hother ⊢
  rw [account_settled hw.secluded (w.relay.books.inject p) hx rfl rfl, if_neg hother,
    Books.account_inject hemitted, if_neg hown]
  rfl

/-- What is lost with the dispatch thread of the session has waited for it. -/
theorem account_of_lost (hw : w.Lone i r settings own) {k' : Nat} (cut : Nat) {q : Handoff}
    (queued : (w.relay.channel k').handoff = some q) (pending : q.queue ≠ []) :
    let b := ((w.relay.books.abandon k').note (w.relay.channel k').session
      (Stats.noteWritten cut)).call (w.relay.channel k').binding.runtime true
    ((w.relay.channel k').session ≠ i → b.account i r own = w.account i r own) ∧
      ((w.relay.channel k').session = i →
        (w.relay.session i).channel? = some k' ∧ (w.relay.lane k').2 = true ∧
        (b.account i r own).emitted = (w.account i r own).emitted ∧
        (b.account i r own).stats.settled = (w.account i r own).stats.settled ∧
        (w.account i r own).waiting = (b.account i r own).waiting + q.queue.length ∧
        1 ≤ q.queue.length ∧ q.queue.length ≤ settings.handoffDepth.toNat) := by
  intro b
  have hx := Relay.getElem?_of_handoff queued
  have htally : w.relay.books.waiting[k']? = some (w.relay.channel k').tally := by
    simp [Relay.books, hx]
  -- Two things change in the account: what waits is gone, and the frame counts as written.
  have habandon : w.account i r own = _ := Books.account_abandon (i := i) (r := r) htally
  have hsettled : b.account i r own = _ :=
    account_settled hw.secluded (w.relay.books.abandon k') hx rfl rfl
  constructor
  · intro hother
    rw [if_neg hother] at hsettled
    rw [if_neg (show (w.relay.channel k').tally.session ≠ i from hother)] at habandon
    rw [hsettled, habandon]
    rfl
  · intro hmine
    rw [if_pos hmine] at hsettled
    rw [if_pos (show (w.relay.channel k').tally.session = i from hmine)] at habandon
    have hlane : w.relay.lane k' = (q.queue, q.alive) := Channel.lane_of_some queued
    -- Frames wait only for the open channel of a session, which has to be the one in question.
    obtain ⟨halive, j, s, o, hs, ho, hchannel⟩ := hw.attended k' (by rw [hlane]; exact pending)
    obtain ⟨t, ht, hheld⟩ := Relay.channel?_of_standing hs ho
    rw [hchannel] at hheld
    have hj : j = i := (Relay.session_of_channel? hw.custody ht hheld).2.symm.trans hmine
    refine ⟨?_, halive, ?_, ?_, ?_, List.length_pos_iff.mpr pending,
      (hw.stocked k' q queued hmine).fits⟩
    · rw [← hj, Relay.session_eq ht, hheld]
    · rw [hsettled, habandon]
    · rw [hsettled, habandon]
      exact Stats.settled_noteWritten _ _
    · rw [hsettled, habandon]
      show _ + (w.relay.channel k').tally.waiting = _ + q.queue.length
      rw [Channel.tally, queued]
      rfl

/-- **Frames are missing only if the dispatch thread is lost**, and then no more than there are
    slots. -/
theorem shortfall_step (hw : w.Lone i r settings own) (hqueued : settings.delivery = .queued)
    (h : Handler σ) (e : Event) (hmine : k < w.relay.channels.length → (w.relay.channel k).session = i)
    (hheld : ∀ k', (w.relay.session i).channel? = some k' → k' = k)
    (hshort : Shortfall settings.handoffDepth.toNat a (w.account i r own) (w.relay.lane k).2) :
    Shortfall settings.handoffDepth.toNat a ((w.step h e).2.account i r own)
      ((w.step h e).2.relay.lane k).2 := by
  -- Whether the thread is alive changes only if it is lost.
  have halive : ((w.step h e).2.relay.lane k).2 = (w.relay.lane k).2 ∨
      (w.relay.lane k).2 = true ∧
        ∃ x, (w.step h e).2.relay.books.waiting[k]? = some x ∧ x.alive = false := by
    rcases step_lane h e hw.custody k with ⟨hsame, -⟩ | ⟨hlost, halive, -⟩
    · exact .inl hsame
    · exact .inr ⟨halive, Relay.books_of_lost (congrArg Prod.snd hlost)⟩
  have hknown {x : Tally} (hx : w.relay.books.waiting[k]? = some x) :
      x.alive = (w.relay.lane k).2 := Relay.alive_of_books hx
  have hafter {x : Tally} (hx : (w.step h e).2.relay.books.waiting[k]? = some x) :
      x.alive = ((w.step h e).2.relay.lane k).2 := Relay.alive_of_books hx
  have houtlay := step_outlay h hw.custody e
  rw [show (w.step h e).2.account i r own = (w.step h e).2.relay.books.account i r own from rfl]
  generalize (w.step h e).2.relay.books = b at houtlay halive hafter ⊢
  cases houtlay with
  | posted _ posting =>
    have hsame : ((w.step h e).2.relay.lane k).2 = (w.relay.lane k).2 := by
      rcases halive with hsame | ⟨halive, x, hx, hdead⟩
      · exact hsame
      · rcases posting.waiting hx with ⟨y, hy, hyx, -⟩ | ⟨htrue, -⟩
        · exact absurd ((hknown hy).symm.trans (hyx.trans hdead)) (by simp [halive])
        · exact absurd (htrue.symm.trans hdead) (by simp)
    have hlevel := (entry_of_posting hw.secluded hw.attended.claimed hw.custody posting).level
    obtain ⟨n, hsum, hnone, hsome⟩ := hshort
    rw [hsame]
    exact ⟨n, by omega, hnone, hsome⟩
  | direct p k' cut heard direct =>
    have hsame : ((w.step h e).2.relay.lane k).2 = (w.relay.lane k).2 := by
      rcases halive with hsame | ⟨halive, x, hx, hdead⟩
      · exact hsame
      · exact absurd ((hknown hx).symm.trans hdead) (by simp [halive])
    rw [hsame, hw.account_of_direct hqueued heard direct]
    exact hshort
  | lost k' cut q queued pending =>
    obtain ⟨hother, hown⟩ := hw.account_of_lost cut queued pending
    have hwaiting : (((w.relay.books.abandon k').note (w.relay.channel k').session
        (Stats.noteWritten cut)).call (w.relay.channel k').binding.runtime true).waiting[k]? =
        (w.relay.books.waiting.modify k' fun x => { x with waiting := 0, alive := false })[k]? := rfl
    by_cases hk' : (w.relay.channel k').session = i
    · -- The session has lost the thread of the channel that it holds.
      obtain ⟨hheld', hwas, hemitted, hsettled, hlost, hleast, hmost⟩ := hown hk'
      obtain rfl := hheld k' hheld'
      have htally : w.relay.books.waiting[k']? = some (w.relay.channel k').tally := by
        simp [Relay.books, Relay.getElem?_of_handoff queued]
      have hdead : ((w.step h e).2.relay.lane k').2 = false := by
        rw [getElem?_modify_of_some htally] at hwaiting
        exact (hafter hwaiting).symm
      obtain ⟨n, hsum, hnone, -⟩ := hshort
      have hn := hnone hwas
      refine ⟨q.queue.length, by omega, fun htrue => absurd (hdead.symm.trans htrue) (by simp),
        fun _ => ⟨hleast, hmost⟩⟩
    · have hne : k' ≠ k := by
        rintro rfl
        exact hk' (hmine (List.getElem?_eq_some_iff.mp (Relay.getElem?_of_handoff queued)).1)
      have hsame : ((w.step h e).2.relay.lane k).2 = (w.relay.lane k).2 := by
        rcases halive with hsame | ⟨halive, x, hx, hdead⟩
        · exact hsame
        · rw [hwaiting, List.getElem?_modify_ne _ _ hne] at hx
          exact absurd ((hknown hx).symm.trans hdead) (by simp [halive])
      rw [hsame, hother hk']
      exact hshort

/-- **As long as the session stays open**, at most as many frames end in no count as the hand-off
    has places. -/
theorem shortfall_run (hw : w.Lone i r settings own) (hqueued : settings.delivery = .queued)
    (h : Handler σ) (events : List Event) (hkeeps : ∀ e ∈ events, e.KeepsTo i own w.relay)
    (hk : k < w.relay.channels.length)
    (hheld : ((w.run h events).relay.session i).channel? = some k)
    (hshort : Shortfall settings.handoffDepth.toNat a (w.account i r own) (w.relay.lane k).2) :
    Shortfall settings.handoffDepth.toNat a ((w.run h events).account i r own)
      ((w.run h events).relay.lane k).2 := by
  have hnow := held_before_run h events hw.custody hw.session_lt hk hheld
  induction events generalizing w with
  | nil => exact hshort
  | cons e rest ih =>
    have hlt := (wiring_step h e hw.custody (List.getElem?_eq_getElem hk)).2
    have hstep := hw.step hqueued h (hkeeps e List.mem_cons_self)
    have hprofiles := profiles_step h e hw.custody
    have hnext := held_before_run h rest hstep.custody hstep.session_lt hlt hheld
    refine ih hstep (fun e' he' => (hkeeps e' (List.mem_cons_of_mem e he')).congr hprofiles) hlt
      hheld ?_ hnext
    exact hw.shortfall_step hqueued h e (fun _ => (hw.held hnow).2)
      (fun k' hk' => Option.some.inj (hk'.symm.trans hnow)) hshort

end Lone

end World

end DepthRelay
