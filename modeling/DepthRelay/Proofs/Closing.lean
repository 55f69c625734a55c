import DepthRelay.Proofs.ExposedBuffers
import DepthRelay.Proofs.HandoffSteps
import DepthRelay.Proofs.ThreadAttachment

namespace DepthRelay

/-!
# Closing a session

A caller begins to close a session, waits for the dispatch thread, and goes on.  Whatever others do
in between, frames that wait are delivered, and no others.

* `World.Draining` — a session that is being closed; `World.Draining.run` says which frames are
  delivered for it, and `World.Draining.endClose_iff` how long its caller waits.
* `Relay.ClosedOff` — what the end of closing leaves behind.
* `World.AtRest` — what is true of a session from then on until it opens a camera again, and
  `Renewed` is what is true after that.
* `close_finishes` — all of this in the order in which it happens.
-/

variable {σ : Type}

/-- A camera hands frames only to a session that holds it and is not being closed. -/
theorem Relay.holder_of_listener? {w : Relay} {closing : List Nat} {p k : Nat}
    (hcustody : Custody (w.standing closing)) (hlistener : w.listener? p = some k) :
    ∃ s, w.sessions[(w.channel k).session]? = some s ∧ s.channel? = some k ∧
      (w.channel k).session ∉ closing := by
  obtain ⟨j, t, u, ht, hu, -, rfl, hfree⟩ := heard_of_custody hcustody hlistener
  obtain ⟨s, hs, hk⟩ := channel?_of_standing ht hu
  obtain ⟨-, hsession⟩ := session_of_channel? hcustody hs hk
  rw [hsession]
  exact ⟨s, hs, hk, hfree⟩

/-! ### While a session is being closed -/

/-- To drain a hand-off is to deliver what waits in it. -/
theorem Live.drain_eq (h : Handler σ) (k : Nat) (l : Live σ) :
    l.drain h k = l.dispatchMany h k (l.relay.lane k).1.length := by
  unfold drain Relay.lane Channel.lane
  cases (l.relay.channel k).handoff <;> rfl

namespace World

/-- The session at place `i` is being closed, and still holds the camera at place `p`.  The hand-off
    of its channel `k` accepts nothing. -/
structure Draining (i p k : Nat) (w : World σ) : Prop where
  begun : i ∈ w.closing
  held : ∃ s o, w.relay.sessions[i]? = some s ∧ s.camera = some o ∧ o.device.camera = p ∧
    o.channel = k
  shut : (w.relay.channel k).Shut

variable {w : World σ} {h : Handler σ} {i p k : Nat} {e : Event}

/-- A session holds on to its camera and its channel unless its closing comes to the end. -/
theorem held_step (hcustody : Custody w.standing)
    (hheld : ∃ s o, w.relay.sessions[i]? = some s ∧ s.camera = some o ∧ o.device.camera = p ∧
      o.channel = k)
    (hclosing : i ∈ w.closing → i ∈ (w.step h e).2.closing) :
    ∃ s o, (w.step h e).2.relay.sessions[i]? = some s ∧ s.camera = some o ∧
      o.device.camera = p ∧ o.channel = k := by
  obtain ⟨s, o, hs, ho, rfl, rfl⟩ := hheld
  obtain ⟨t, ht, hu⟩ := (step_shift h e hcustody).camera_after hcustody
    (Relay.session_standing hs) (Relay.held_standing ho) hclosing
  obtain ⟨s', hs', rfl⟩ := Relay.of_session_standing ht
  obtain ⟨o', ho', hsame⟩ := Option.map_eq_some_iff.mp hu
  refine ⟨s', o', hs', ho', ?_, ?_⟩
  · exact (congrArg (·.device.camera) hsame :)
  · exact (congrArg OpenCamera.channel hsame :)

namespace Draining

/-- The channel of a session that is being closed is there, and its own. -/
theorem channel_eq_some (hw : w.Draining i p k) (hcustody : Custody w.standing) :
    w.relay.channels[k]? = some (w.relay.channel k) ∧ (w.relay.channel k).session = i := by
  obtain ⟨s, o, hs, ho, -, rfl⟩ := hw.held
  have hk : s.channel? = some o.channel := by simp [Session.channel?, ho]
  obtain ⟨hlt, hsession⟩ := Relay.session_of_channel? hcustody hs hk
  refine ⟨?_, hsession⟩
  rw [List.getElem?_eq_getElem hlt, Relay.channel_eq (List.getElem?_eq_getElem hlt)]

/-- No camera hands frames to the channel. -/
theorem unheard (hw : w.Draining i p k) (hcustody : Custody w.standing) (q : Nat) :
    w.relay.listener? q ≠ some k := by
  intro hlistener
  obtain ⟨-, -, -, hfree⟩ := Relay.holder_of_listener? hcustody hlistener
  rw [(hw.channel_eq_some hcustody).2] at hfree
  exact hfree hw.begun

/-- No frame arrives at it any more. -/
theorem arrived? (hw : w.Draining i p k) (hcustody : Custody w.standing) (points : List Point) :
    w.arrived? e ≠ some (k, points) := by
  intro harrived
  obtain ⟨⟨q, points'⟩, -, hfound⟩ := Option.bind_eq_some_iff.mp harrived
  obtain ⟨k', hlistener, hframe⟩ := Option.map_eq_some_iff.mp hfound
  obtain rfl : k' = k := congrArg Prod.fst hframe
  exact hw.unheard hcustody q hlistener

/-- Only the dispatch thread delivers frames of the channel, -/
theorem dispatch_of_delivered? (hw : w.Draining i p k) (hcustody : Custody w.standing)
    {points : List Point} (hdelivered : w.delivered? e = some (k, points)) : e = .dispatch k := by
  unfold World.delivered? at hdelivered
  split at hdelivered
  · obtain ⟨_, -, hframe⟩ := Option.map_eq_some_iff.mp hdelivered
    exact congrArg Event.dispatch (congrArg Prod.fst hframe)
  · exact absurd (Option.filter_eq_some_iff.mp hdelivered).1 (hw.arrived? hcustody points)

/-- and one at a turn. -/
theorem delivered? (hw : w.Draining i p k) (hserving : w.Serving) :
    onChannel k (w.delivered? e) = (w.relay.lane k).1.take ([e].count (.dispatch k)) := by
  by_cases he : e = .dispatch k
  · subst he
    rw [hserving.delivered?_dispatch, List.count_singleton_self]
  · rw [List.count_singleton, if_neg (by simpa using he), List.take_zero]
    refine List.eq_nil_iff_forall_not_mem.mpr fun points hmem => ?_
    exact he (hw.dispatch_of_delivered? hserving.custody (mem_onChannel.mp hmem))

/-- What waits gets less with each frame that is delivered, and never more. -/
theorem lane_step (hw : w.Draining i p k) (hserving : w.Serving) (hreturns : h.Returns) :
    ((w.step h e).2.relay.lane k).1 = (w.relay.lane k).1.drop ([e].count (.dispatch k)) := by
  -- Nothing arrives on the channel, so what waits is what waited, less what is delivered.
  have hkept : onChannel k (w.kept? e) = [] := by
    refine List.eq_nil_iff_forall_not_mem.mpr fun points hmem => ?_
    exact hw.arrived? hserving.custody points
      (Option.filter_eq_some_iff.mp (mem_onChannel.mp hmem)).1
  rcases step_lane h e hserving.custody k with ⟨-, hqueue, -⟩ | ⟨hlost, -⟩
  · rw [hkept, List.append_nil, hw.delivered? hserving] at hqueue
    exact List.append_cancel_left (hqueue.symm.trans (List.take_append_drop _ _).symm)
  · -- A hand-off loses what waits only with its thread.
    exact absurd hlost ((hserving.step hreturns e).fed.lane_ne_lost k)

/-- A session goes on to be closed until its caller ends that. -/
theorem step (hw : w.Draining i p k) (hserving : w.Serving) (hreturns : h.Returns)
    (he : e ≠ .endClose i) : (w.step h e).2.Draining i p k := by
  have hcustody := hserving.custody
  have hbegun : i ∈ (w.step h e).2.closing :=
    Decidable.byContradiction fun hended => he (closed_of_step h hcustody hw.begun hended).1
  obtain ⟨y, hy, hchange⟩ :=
    (step_traffic hreturns hcustody e).change (hw.channel_eq_some hcustody).1
  refine ⟨hbegun, held_step hcustody hw.held fun _ => hbegun, ?_⟩
  rw [show (w.step h e).2.relay.channel k = y from Relay.channel_eq hy]
  exact hchange.shut_after hw.shut

/-- **The frames that wait are delivered**, in order and each once, as the dispatch thread gets its
    turns, and no others. -/
theorem run (hw : w.Draining i p k) (hserving : w.Serving) (hreturns : h.Returns)
    (during : List Event) (hduring : .endClose i ∉ during) :
    (w.run h during).Draining i p k ∧
      frames World.delivered? h k during w =
        (w.relay.lane k).1.take (during.count (.dispatch k)) ∧
      ((w.run h during).relay.lane k).1 =
        (w.relay.lane k).1.drop (during.count (.dispatch k)) := by
  induction during generalizing w with
  | nil => exact ⟨hw, rfl, rfl⟩
  | cons e rest ih =>
    obtain ⟨he, hrest⟩ := not_or.mp (mt List.mem_cons.mpr hduring)
    obtain ⟨hdraining, hframes, hlane⟩ :=
      ih (hw.step hserving hreturns (Ne.symm he)) (hserving.step hreturns e) hrest
    have hcount : (e :: rest).count (.dispatch k) =
        [e].count (.dispatch k) + rest.count (.dispatch k) := by
      rw [← List.count_append]
      rfl
    rw [hw.lane_step hserving hreturns] at hframes hlane
    refine ⟨hdraining, ?_, ?_⟩
    · rw [frames, hframes, hw.delivered? hserving, hcount, List.take_add]
    · rw [hcount, ← List.drop_drop]
      exact hlane

/-- **The caller waits for the frames in the hand-off**, and for nothing else. -/
theorem endClose_iff (hw : w.Draining i p k) (hserving : w.Serving) :
    (w.step h (.endClose i)).1 = .done ↔ (w.relay.lane k).1 = [] := by
  obtain ⟨s, o, hs, ho, -, rfl⟩ := hw.held
  have hdispatched : w.dispatched i = true ↔ (w.relay.lane o.channel).1 = [] := by
    unfold dispatched Relay.lane Channel.lane
    rw [Relay.session_eq hs, ho, Option.all_some]
    cases hq : (w.relay.channel o.channel).handoff with
    | none => simp
    | some q =>
      -- The thread lives and has no frame: it ends if it has been told to and nothing waits.
      have halive := hserving.fed.alive hq
      have hrested := hserving.rested _ (List.mem_of_getElem? (Relay.getElem?_of_handoff hq)) q hq
      have hshut := hw.shut q hq
      simp [Handoff.finished, halive, hrested, hshut]
  rw [← hdispatched]
  unfold World.step
  dsimp only
  rw [List.contains_iff_mem.mpr hw.begun, Bool.true_and]
  cases w.dispatched i <;> simp

end Draining

/-- Closing begins for a session that takes calls and holds a camera, -/
theorem step_beginClose_of_held {s : Session} {o : OpenCamera}
    (hs : w.relay.sessions[i]? = some s) (hfree : i ∉ w.closing) (ho : s.camera = some o) :
    w.step h (.beginClose i) =
      (.done, { w.setRelay (w.relay.beginClose i) with closing := i :: w.closing }) := by
  have hready : w.ready i = true := by
    simp [ready, hfree, (List.getElem?_eq_some_iff.mp hs).1]
  unfold World.step
  dsimp only
  rw [if_pos hready, if_pos (by simp [Relay.session_eq hs, ho])]

/-- and leaves everything waiting. -/
theorem draining_of_beginClose (hcustody : Custody w.standing) {s : Session} {o : OpenCamera}
    (hs : w.relay.sessions[i]? = some s) (hfree : i ∉ w.closing) (ho : s.camera = some o) :
    (w.step h (.beginClose i)).2.Draining i o.device.camera o.channel ∧
      (w.step h (.beginClose i)).2.relay.lane o.channel = w.relay.lane o.channel := by
  obtain ⟨c, hc⟩ := (Relay.of_custody hcustody hs).2 o ho
  have hk : s.channel? = some o.channel := by simp [Session.channel?, ho]
  obtain ⟨hk_lt, -⟩ := Relay.session_of_channel? hcustody hs hk
  rw [step_beginClose_of_held hs hfree ho]
  have hafter := Relay.beginClose_eq hs ho hc
  -- The session's frame source ends, too, which leaves channels alone.
  have hchannel : (w.relay.beginClose i).channel o.channel =
      { w.relay.channel o.channel with
        handoff := (w.relay.channel o.channel).handoff.map Handoff.close } := by
    rw [hafter]
    refine (Relay.channel_modifyChannel _ _ _ ?_).trans ?_
    · show o.channel < (w.relay.exitSource _).channels.length
      rw [Relay.channels_exitSource]
      exact hk_lt
    · rw [Relay.channel_of_channels (v := Relay.update ..) (Relay.channels_exitSource _ w.relay)]
  refine ⟨⟨List.mem_cons_self, ⟨Relay.halted s o c, _, ?_, rfl, rfl, rfl⟩, ?_⟩, ?_⟩
  · show (w.relay.beginClose i).sessions[i]? = _
    rw [hafter]
    show ((w.relay.exitSource _).sessions.set i _)[i]? = _
    rw [Relay.sessions_exitSource]
    exact getElem?_set_of_some hs
  · intro q hq
    have hclosed := (congrArg Channel.handoff hchannel).symm.trans hq
    obtain ⟨q', -, rfl⟩ := Option.map_eq_some_iff.mp hclosed
    rfl
  · show (w.relay.beginClose i).lane o.channel = _
    unfold Relay.lane Channel.lane
    rw [hchannel]
    cases (w.relay.channel o.channel).handoff <;> rfl

/-- From the beginning of closing on. -/
theorem Serving.drained (hw : w.Serving) (hreturns : h.Returns) {s : Session} {o : OpenCamera}
    (hs : w.relay.sessions[i]? = some s) (hfree : i ∉ w.closing) (ho : s.camera = some o)
    (during : List Event) (hduring : .endClose i ∉ during) :
    let u := w.run h (.beginClose i :: during)
    (w.step h (.beginClose i)).1 = .done ∧ u.Draining i o.device.camera o.channel ∧
      frames World.delivered? h o.channel (.beginClose i :: during) w =
        (w.relay.lane o.channel).1.take (during.count (.dispatch o.channel)) ∧
      (u.relay.lane o.channel).1 =
        (w.relay.lane o.channel).1.drop (during.count (.dispatch o.channel)) := by
  obtain ⟨hdraining, hlane⟩ := draining_of_beginClose hw.custody hs hfree ho
  have hdrained := hdraining.run (hw.step hreturns _) hreturns during hduring
  rw [hlane] at hdrained
  exact ⟨by rw [step_beginClose_of_held hs hfree ho], hdrained⟩

/-- The end of closing, if it is time for it. -/
theorem step_endClose_of_done (hdone : (w.step h (.endClose i)).1 = .done) :
    w.dispatched i = true ∧ (w.step h (.endClose i)).2 =
      { w.setRelay (w.relay.endClose i) with closing := w.closing.filter (· ≠ i) } := by
  unfold World.step at hdone ⊢
  dsimp only at hdone ⊢
  by_cases hready : w.closing.contains i && w.dispatched i
  · rw [if_pos hready]
    exact ⟨(of_endClose hready).2, rfl⟩
  · rw [if_neg hready] at hdone
    exact absurd hdone (by simp)

/-- A dispatch thread that gets several turns in a row. -/
theorem run_dispatch (h : Handler σ) (k n : Nat) (w : World σ) :
    (w.run h (List.replicate n (.dispatch k))).toLive = w.toLive.dispatchMany h k n := by
  induction n generalizing w with
  | zero => rfl
  | succ n ih => exact ih (w.step h (.dispatch k)).2

/-- **Closing always comes to its end**, and without anybody else it is one call. -/
theorem Serving.close_eq (hw : w.Serving) (hreturns : h.Returns) {s : Session} {o : OpenCamera}
    (hs : w.relay.sessions[i]? = some s) (hfree : i ∉ w.closing) (ho : s.camera = some o) :
    let turns := List.replicate (w.relay.lane o.channel).1.length (.dispatch o.channel)
    let u := w.run h (.beginClose i :: turns)
    (u.step h (.endClose i)).1 = .done ∧
      (u.step h (.endClose i)).2.toLive = w.toLive.close h i := by
  intro turns u
  obtain ⟨-, hdrained, -, hleft⟩ := hw.drained hreturns hs hfree ho turns (by simp [turns])
  have hdone : (u.step h (.endClose i)).1 = .done := by
    rw [hdrained.endClose_iff (hw.run hreturns _), hleft, List.drop_eq_nil_iff]
    simp [turns]
  refine ⟨hdone, ?_⟩
  rw [(step_endClose_of_done hdone).2]
  have hbegun : (w.step h (.beginClose i)).2.toLive =
      w.toLive.withRelay (w.relay.beginClose i) := by
    rw [step_beginClose_of_held hs hfree ho]
    rfl
  obtain ⟨-, hlane⟩ := draining_of_beginClose (h := h) hw.custody hs hfree ho
  have hdrain : u.toLive = (w.step h (.beginClose i)).2.toLive.drain h o.channel := by
    rw [Live.drain_eq, hlane]
    exact run_dispatch h o.channel _ _
  unfold Live.close
  rw [Relay.session_eq hs, ho]
  dsimp only
  rw [← hbegun, ← hdrain]
  rfl

end World

/-! ### What is left behind -/

namespace Relay

theorem length_runtimes_exitThread (t : ThreadId) (w : Relay) :
    (w.exitThread t).runtimes.length = w.runtimes.length := by
  have hexposed := map_exit (f := Runtime.exposed) (fun _ => rfl) t w.attachments w.runtimes
  rw [exitThread_eq]
  simpa using congrArg List.length hexposed

/-- Detaches that a host has seen, and those that it sees once all threads have ended. -/
def dues (n : Nat) (w : Relay) : Nat :=
  (w.runtime n).detaches + w.attachments.countP (·.runtime == n)

/-- A thread that ends is detached wherever it is attached. -/
theorem dues_exitThread (t : ThreadId) {n : Nat} {w : Relay} (hn : n < w.runtimes.length) :
    (w.exitThread t).dues n = w.dues n := by
  have hr := List.getElem?_eq_getElem hn
  have hafter : (w.exitThread t).runtime n =
      { w.runtimes[n] with
        detaches := w.runtimes[n].detaches +
          (w.attachments.ofThread t).countP (·.runtime == n) } := by
    refine runtime_eq ((Attachments.getElem?_foldl_detach _ _ n).trans ?_)
    rw [hr]
    rfl
  have hentries := List.countP_eq_countP_filter_add w.attachments (·.runtime == n)
    (·.thread == t)
  unfold dues
  rw [hafter, runtime_eq hr, hentries, Nat.add_assoc]
  rfl

/-- A frame source that goes pays what it owes to the host. -/
theorem dues_exitSource (source : Option Source) {n : Nat} {w : Relay}
    (hn : n < w.runtimes.length) : (w.exitSource source).dues n = w.dues n := by
  cases source with
  | none => rfl
  | some s => exact dues_exitThread (.source s.run) hn

/-- To take a buffer away from a host detaches nobody. -/
theorem dues_retract (r n : Nat) (v : View) (w : Relay) :
    (w.modifyRuntime r (Runtime.retract v)).dues n = w.dues n := by
  have hdetaches : ((w.modifyRuntime r (Runtime.retract v)).runtime n).detaches =
      (w.runtime n).detaches :=
    getD_of_map_eq (f := Runtime.detaches)
      (map_modify_of_eq (g := Runtime.retract v) fun _ _ => rfl) n default
  exact congrArg (· + _) hdetaches

/-- The host does not see the buffer any more. -/
theorem not_mem_exposed_retract (r : Nat) (v : View) (w : Relay) :
    v ∉ ((w.modifyRuntime r (Runtime.retract v)).runtime r).exposed := by
  unfold modifyRuntime runtime
  rw [List.getD_eq_getElem?_getD, List.getElem?_modify_eq]
  cases w.runtimes[r]? with
  | none => exact List.not_mem_nil
  | some x => simp [Runtime.retract]

/-- Nothing new is attached when a thread ends, and the thread itself is not. -/
theorem thread_of_mem_exitThread {t : ThreadId} {w : Relay} {a : Attachment}
    (ha : a ∈ (w.exitThread t).attachments) : a ∈ w.attachments ∧ a.thread ≠ t := by
  obtain ⟨hmem, hne⟩ := List.mem_filter.mp ha
  exact ⟨hmem, by simpa using hne⟩

/-- Nobody is attached by an exit. -/
theorem mem_of_mem_exitSource {source : Option Source} {w : Relay} {a : Attachment}
    (ha : a ∈ (w.exitSource source).attachments) : a ∈ w.attachments := by
  cases source with
  | none => exact ha
  | some s => exact (thread_of_mem_exitThread ha).1

/-- The session at place `i`, which had the camera at place `p` and the channel `k`, has been
    closed: what `v` is after `w`. -/
structure ClosedOff (i p k : Nat) (w v : Relay) : Prop where
  closed : (v.session i).state = .closed ∧ (v.session i).camera = none
  stats : (v.session i).stats = (w.session i).stats
  released : ∃ c, v.cameras[p]? = some c ∧ c.Idle
  withdrawn : (v.channel k).view ∉ (v.runtime (v.session i).runtime).exposed
  /-- The dispatch thread has ended, -/
  finished : (v.channel k).handoff.all Handoff.finished = true
  /-- and it is attached no more: -/
  detached : ∀ a ∈ v.attachments, a.thread ≠ .dispatch k
  /-- hosts have seen a detach for each attachment that is gone. -/
  dues : ∀ n < w.runtimes.length, v.dues n = w.dues n

/-- **What the end of closing leaves behind.** -/
theorem closedOff_endClose {w : Relay} {i : Nat} {s : Session} {o : OpenCamera} {c : Camera Nat}
    (hs : w.sessions[i]? = some s) (ho : s.camera = some o)
    (hc : w.cameras[o.device.camera]? = some c)
    (hfinished : (w.channel o.channel).handoff.all Handoff.finished = true) :
    ClosedOff i o.device.camera o.channel w (w.endClose i) := by
  rw [endClose_eq hs ho hc]
  -- Two threads have ended, and this touches neither channels nor sessions nor cameras.
  generalize hu : (w.exitThread (.dispatch o.channel)).exitSource o.device.source = u
  have hchannels : u.channels = w.channels := by
    rw [← hu]
    exact channels_exitSource _ _
  have hsessions : u.sessions = w.sessions := by
    rw [← hu]
    exact sessions_exitSource _ _
  have hcameras : u.cameras = w.cameras := by
    rw [← hu]
    exact cameras_exitSource _ _
  generalize hv : u.update i s.closed o.device.camera c.release = v
  have hchannel : v.channel o.channel = w.channel o.channel := by
    rw [← hv]
    exact channel_of_channels (v := u) hchannels _
  have hsession : v.session i = s.closed := by
    rw [← hv]
    exact session_eq (getElem?_set_of_some (hsessions ▸ hs))
  constructor
  case closed =>
    rw [session_modifyRuntime, hsession]
    exact ⟨rfl, rfl⟩
  case stats =>
    rw [session_modifyRuntime, hsession, session_eq hs]
    rfl
  case released =>
    rw [← hv]
    exact ⟨c.release, getElem?_set_of_some (hcameras ▸ hc), rfl, rfl, rfl⟩
  case withdrawn =>
    rw [session_modifyRuntime, channel_modifyRuntime, hsession, hchannel]
    exact not_mem_exposed_retract s.runtime _ v
  case finished =>
    rw [channel_modifyRuntime, hchannel]
    exact hfinished
  case detached =>
    intro a ha
    replace ha : a ∈ v.attachments := ha
    rw [← hv] at ha
    replace ha : a ∈ u.attachments := ha
    rw [← hu] at ha
    exact (thread_of_mem_exitThread (mem_of_mem_exitSource ha)).2
  case dues =>
    intro n hn
    have hn' : n < (w.exitThread (.dispatch o.channel)).runtimes.length := by
      rw [length_runtimes_exitThread]
      exact hn
    rw [dues_retract, ← hv]
    show u.dues n = _
    rw [← hu, dues_exitSource _ hn', dues_exitThread _ hn]

end Relay

/-- **The end of closing** leaves nothing of the opening behind. -/
theorem World.Draining.closedOff {w : World σ} {h : Handler σ} {i p k : Nat}
    (hw : w.Draining i p k) (hcustody : Custody w.standing)
    (hdone : (w.step h (.endClose i)).1 = .done) :
    i ∉ (w.step h (.endClose i)).2.closing ∧
      Relay.ClosedOff i p k w.relay (w.step h (.endClose i)).2.relay := by
  obtain ⟨s, o, hs, ho, rfl, rfl⟩ := hw.held
  obtain ⟨c, hc⟩ := (Relay.of_custody hcustody hs).2 o ho
  obtain ⟨hdispatched, hstep⟩ := step_endClose_of_done hdone
  unfold dispatched at hdispatched
  rw [Relay.session_eq hs, ho] at hdispatched
  rw [hstep]
  exact ⟨by simp, Relay.closedOff_endClose hs ho hc hdispatched⟩

/-! ### Until the next opening -/

namespace Relay

/-- The counts of one session after those of some session have changed. -/
theorem stats_of_modify {v w : Relay} {i j : Nat} {f : Stats → Stats}
    (h : v.sessions.map Session.stats = (w.sessions.map Session.stats).modify j f)
    (hi : i < w.sessions.length) :
    (v.session i).stats = if j = i then f (w.session i).stats else (w.session i).stats := by
  have hs := List.getElem?_eq_getElem hi
  have hafter : (v.sessions.map Session.stats)[i]? =
      some (if j = i then f (w.session i).stats else (w.session i).stats) := by
    rw [h, List.getElem?_modify, List.getElem?_map, hs, session_eq hs]
    by_cases hj : j = i <;> simp [hj]
  rw [List.getElem?_map] at hafter
  obtain ⟨s, hs', hstats⟩ := Option.map_eq_some_iff.mp hafter
  rw [session_eq hs', hstats]

end Relay

namespace World

variable {w : World σ} {h : Handler σ} {i : Nat} {e : Event}

/-- The counts of a session for which no frame is delivered change only by frames that are dropped
    in its hand-off. -/
theorem Serving.stats_step (hw : w.Serving) (hreturns : h.Returns)
    (hi : i < w.relay.sessions.length)
    (hother : ∀ k points, w.delivered? e = some (k, points) → (w.relay.channel k).session ≠ i) :
    ((w.step h e).2.relay.session i).stats = (w.relay.session i).stats ∨
      (∃ q k, w.relay.listener? q = some k ∧ (w.relay.channel k).session = i) ∧
        ((w.step h e).2.relay.session i).stats =
          (w.relay.session i).stats.noteBackpressure := by
  have htraffic := step_traffic hreturns hw.custody e
  cases hdelivered : w.delivered? e with
  | none =>
    rw [hdelivered] at htraffic
    -- Without a delivery the numbers change only if a frame is dropped at a hand-off.
    cases htraffic with
    | idle _ stats | opened _ _ _ stats | shut _ _ stats =>
      exact .inl (getD_of_map_eq stats i default)
    | left q k points _ f heard _ noted _ stats =>
      rw [Relay.stats_of_modify stats hi]
      by_cases hk : (w.relay.channel k).session = i
      · rw [if_pos hk]
        rcases noted with rfl | rfl
        · exact .inl rfl
        · exact .inr ⟨⟨q, k, heard, hk⟩, rfl⟩
      · exact .inl (if_neg hk)
  | some frame =>
    -- A delivery is for another session, and so are its numbers.
    obtain ⟨k, points⟩ := frame
    have hne := hother k points hdelivered
    obtain ⟨x, hx⟩ := channel_of_delivered? hw.custody hdelivered
    have hlt := (List.getElem?_eq_some_iff.mp hx).1
    cases step_deposit hreturns hdelivered hlt with
    | dropped f _ _ stats => exact .inl ((Relay.stats_of_modify stats hi).trans (if_neg hne))
    | written d size y f _ _ _ stats =>
      exact .inl ((Relay.stats_of_modify stats hi).trans (if_neg hne))

/-- No frame is delivered for a session that holds no camera, -/
theorem Serving.session_ne (hw : w.Serving) (hclosed : (w.relay.session i).camera = none)
    {k : Nat} {points : List Point} (hdelivered : w.delivered? e = some (k, points)) :
    (w.relay.channel k).session ≠ i := by
  rintro rfl
  obtain ⟨s, hs, hk⟩ := holds_of_delivered? hw.custody hw.fed hdelivered
  rw [Relay.session_eq hs] at hclosed
  exact absurd hk (by simp [Session.channel?, hclosed])

/-- and its counts stay. -/
theorem Serving.stats_of_closed (hw : w.Serving) (hreturns : h.Returns)
    (hi : i < w.relay.sessions.length) (hclosed : (w.relay.session i).camera = none) :
    ((w.step h e).2.relay.session i).stats = (w.relay.session i).stats := by
  rcases hw.stats_step (e := e) hreturns hi fun _ _ => hw.session_ne hclosed with
    hsame | ⟨⟨q, k, hlistener, rfl⟩, -⟩
  · exact hsame
  · obtain ⟨s, hs, hk, -⟩ := Relay.holder_of_listener? hw.custody hlistener
    rw [Relay.session_eq hs] at hclosed
    exact absurd hk (by simp [Session.channel?, hclosed])

/-- An opening succeeds, or leaves all sessions as they are. -/
theorem step_open_cases (h : Handler σ) (d : Descriptor) (key : UInt32) (address i : Nat)
    (w : World σ) :
    let v := w.step h (.operate i (.openCamera d key address))
    (v.1 = .answered (.unit (.ok ())) ∧ i < w.relay.sessions.length ∧
        ∃ p c rate r, v.2 = w.setRelay (w.relay.opened i p c rate
          (.zeros address (w.relay.session i).settings.maxPoints.toNat) r)) ∨
      v.1 ≠ .answered (.unit (.ok ())) ∧ v.2.relay.sessions = w.relay.sessions := by
  intro v
  have hv : v = w.step h (.operate i (.openCamera d key address)) := rfl
  clear_value v
  unfold step at hv
  dsimp only at hv
  by_cases hready : w.ready i
  · rw [if_pos hready] at hv
    have hopen := Relay.openSession_cases d key address i w.relay
    unfold Operation.perform at hv
    dsimp only [Prod.map] at hv
    generalize w.relay.openSession d key address i = result at hv hopen
    obtain ⟨answer, u⟩ := result
    subst hv
    cases hopen with
    | refused e => exact .inr ⟨by simp, rfl⟩
    | undone e => exact .inr ⟨by simp, rfl⟩
    | done p c rate b r _ _ _ _ _ room =>
      obtain ⟨-, rfl⟩ := FrameBuffer.ofCapacity_eq_ok.mp room
      exact .inl ⟨rfl, (of_ready hready).1, p, c, rate, r, rfl⟩
  · rw [if_neg hready] at hv
    subst hv
    exact .inr ⟨by simp, rfl⟩

/-- The step is an opening of the session at place `i` that succeeds. -/
def opens (h : Handler σ) (i : Nat) (e : Event) (w : World σ) : Bool :=
  match e, (w.step h e).1 with
  | .operate j (.openCamera ..), .answered (.unit (.ok ())) => decide (j = i)
  | _, _ => false

/-- No opening of the session at place `i` succeeds in the course of a schedule. -/
def openless (h : Handler σ) (i : Nat) : List Event → World σ → Bool
  | [], _ => true
  | e :: es, w => !w.opens h i e && openless h i es (w.step h e).2

/-- Only an opening makes a session hold a camera. -/
theorem camera_of_not_opens (hcustody : Custody w.standing) (hi : i < w.relay.sessions.length)
    (hclosed : (w.relay.session i).camera = none) (hopens : w.opens h i e = false) :
    ((w.step h e).2.relay.session i).camera = none := by
  have hs := List.getElem?_eq_getElem hi
  have hshift := step_shift h e hcustody
  obtain ⟨t, ht, -⟩ := hshift.session_after (Relay.session_standing hs)
  obtain ⟨s', hs', rfl⟩ := Relay.of_session_standing ht
  rw [Relay.session_eq hs']
  refine Option.eq_none_iff_forall_ne_some.mpr fun o ho => ?_
  rcases hshift.camera_before ht (Relay.held_standing ho) with
    ⟨t, ht, hheld⟩ | ⟨⟨-, d, key, address, rfl, -⟩, -⟩
  · obtain rfl := Option.some.inj ((Relay.session_standing hs).symm.trans ht)
    rw [Relay.session_eq hs] at hclosed
    exact absurd hheld (by simp [Session.standing, hclosed])
  · rcases step_open_cases h d key address i w with ⟨hdone, -⟩ | ⟨-, hsame⟩
    · exact absurd hopens (by simp [opens, hdone])
    · rw [hsame, hs] at hs'
      obtain rfl := Option.some.inj hs'
      rw [Relay.session_eq hs] at hclosed
      exact absurd (ho.symm.trans hclosed) (by simp)

end World

/-! ### After the next opening -/

/-- Frames that have got into the buffer and been answered for. -/
def Stats.answered (s : Stats) : Nat := s.delivered + s.handlerFailures

/-- The session at place `i` has opened the channel `k` with the buffer `blank` when its counts were
    `stats`.  Numbers begin anew and counts do not. -/
structure Renewed (i k : Nat) (blank : FrameBuffer) (stats : Stats) (w : Relay) : Prop where
  counted : (w.session i).stats.answered = stats.answered + (w.channel k).nextSequence
  blank : (w.channel k).nextSequence = 0 → (w.channel k).buffer = blank
  numbered : ∀ points d, (w.channel k).delivery? points = some d →
    d.sequence = (w.channel k).nextSequence

@[simp] theorem Stats.answered_noteDelivered (s : Stats) :
    s.noteDelivered.answered = s.answered + 1 := by
  simp only [answered, noteDelivered]
  omega

@[simp] theorem Stats.answered_noteHandlerFailure (s : Stats) :
    s.noteHandlerFailure.answered = s.answered + 1 := rfl

@[simp] theorem Stats.answered_noteWritten (truncated : Nat) (s : Stats) :
    (s.noteWritten truncated).answered = s.answered := by
  unfold noteWritten
  split <;> rfl

/-- A delivery has the next number of its channel. -/
theorem Channel.sequence_of_delivery? {x : Channel} {points : List Point} {d : Delivery}
    (h : x.delivery? points = some d) : d.sequence = x.nextSequence := by
  obtain ⟨written, y, hpublish⟩ := delivery?_eq_some.mp h
  obtain ⟨b, -, rfl, -⟩ := publish_eq_ok.mp hpublish
  rfl

/-- As long as no frame gets into the buffer, nothing of this changes. -/
theorem Renewed.kept {i k : Nat} {blank : FrameBuffer} {stats : Stats} {v w : Relay}
    (h : Renewed i k blank stats w) (hchannel : (v.channel k).unqueued = (w.channel k).unqueued)
    (hanswered : (v.session i).stats.answered = (w.session i).stats.answered) :
    Renewed i k blank stats v := by
  have hnext : (v.channel k).nextSequence = (w.channel k).nextSequence :=
    (congrArg Channel.nextSequence hchannel :)
  have hbuffer : (v.channel k).buffer = (w.channel k).buffer :=
    (congrArg Channel.buffer hchannel :)
  refine ⟨?_, ?_, fun _ _ => Channel.sequence_of_delivery?⟩
  · rw [hanswered, hnext]
    exact h.counted
  · rw [hnext, hbuffer]
    exact h.blank

namespace World

variable {w : World σ} {h : Handler σ} {i k : Nat} {blank : FrameBuffer} {stats : Stats}

/-- A session holds a channel that is there only if it did so before. -/
theorem channel?_before (h : Handler σ) (e : Event) (hcustody : Custody w.standing)
    (hi : i < w.relay.sessions.length) (hk : k < w.relay.channels.length)
    (hheld : ((w.step h e).2.relay.session i).channel? = some k) :
    (w.relay.session i).channel? = some k := by
  have hs := List.getElem?_eq_getElem hi
  have hshift := step_shift h e hcustody
  obtain ⟨t, ht, -⟩ := hshift.session_after (Relay.session_standing hs)
  obtain ⟨s', hs', rfl⟩ := Relay.of_session_standing ht
  rw [Relay.session_eq hs'] at hheld
  obtain ⟨o, ho, rfl⟩ := Option.map_eq_some_iff.mp hheld
  rcases hshift.camera_before ht (Relay.held_standing ho) with ⟨t, ht, hu⟩ | ⟨-, hnew, -⟩
  · obtain ⟨s, hs, hk⟩ := Relay.channel?_of_standing ht hu
    rw [Relay.session_eq hs]
    exact hk
  · have hlength : o.channel = w.relay.channels.length := by
      simpa [standing, Relay.standing, OpenCamera.standing] using hnew
    omega

/-- **Numbers and counts go on together**, and the buffer stays blank until there is a number. -/
theorem Serving.renewed_step (hw : w.Serving) (hreturns : h.Returns) (e : Event)
    (hi : i < w.relay.sessions.length) (hk : k < w.relay.channels.length)
    (hheld : (w.relay.session i).channel? = some k)
    (hrenewed : Renewed i k blank stats w.relay) :
    Renewed i k blank stats (w.step h e).2.relay := by
  have hs := List.getElem?_eq_getElem hi
  have hs_k := hheld
  rw [Relay.session_eq hs] at hs_k
  obtain ⟨-, hsession⟩ := Relay.session_of_channel? hw.custody hs hs_k
  by_cases hown : ∃ points, w.delivered? e = some (k, points)
  · -- The session counts a frame of its own, with the number if it gets one.
    obtain ⟨points, hdelivered⟩ := hown
    cases step_deposit hreturns hdelivered hk with
    | dropped f noted channel stats' =>
      refine hrenewed.kept channel ?_
      rw [Relay.stats_of_modify stats' hi, if_pos hsession]
      rcases noted with rfl | rfl <;> rfl
    | written d size x f published noted channel stats' =>
      obtain ⟨b, -, -, rfl⟩ := Channel.publish_eq_ok.mp published
      have hnext : ((w.step h e).2.relay.channel k).nextSequence =
          (w.relay.channel k).nextSequence + 1 := (congrArg Channel.nextSequence channel :)
      refine ⟨?_, fun hzero => absurd (hnext.symm.trans hzero) (by simp),
        fun _ _ => Channel.sequence_of_delivery?⟩
      rw [Relay.stats_of_modify stats' hi, if_pos hsession, hnext, ← Nat.add_assoc,
        ← hrenewed.counted]
      rcases noted with rfl | rfl <;> simp
  · -- Other frames go into other buffers, and a frame that is dropped has no number.
    have hother (j : Nat) (points : List Point) (hdelivered : w.delivered? e = some (j, points)) :
        (w.relay.channel j).session ≠ i := by
      intro hj
      obtain rfl : j = k := (session_of_delivered? hw.custody hw.fed hs hs_k hdelivered).mp hj
      exact hown ⟨points, hdelivered⟩
    have hnone : onChannel k (w.delivered? e) = [] :=
      List.eq_nil_iff_forall_not_mem.mpr fun points hmem => hown ⟨points, mem_onChannel.mp hmem⟩
    obtain ⟨y, hy, hchange⟩ :=
      (step_traffic hreturns hw.custody e).change (List.getElem?_eq_getElem hk)
    rw [hnone] at hchange
    refine hrenewed.kept ?_ ?_
    · rw [Relay.channel_eq hy, Relay.channel_eq (List.getElem?_eq_getElem hk)]
      exact hchange.unqueued_eq
    · rcases hw.stats_step hreturns hi hother with hsame | ⟨-, hdropped⟩
      · rw [hsame]
      · rw [hdropped]
        rfl

/-- **Numbers begin anew and counts do not**, from an opening on. -/
theorem Serving.renewed_run (hw : w.Serving) (hreturns : h.Returns) (events : List Event)
    (hi : i < w.relay.sessions.length) (hk : k < w.relay.channels.length)
    (hrenewed : (w.relay.session i).channel? = some k → Renewed i k blank stats w.relay)
    (hheld : ((w.run h events).relay.session i).channel? = some k) :
    Renewed i k blank stats (w.run h events).relay := by
  induction events generalizing w with
  | nil => exact hrenewed hheld
  | cons e rest ih =>
    obtain ⟨y, hy, -⟩ := (step_traffic hreturns hw.custody e).change (List.getElem?_eq_getElem hk)
    refine ih (hw.step hreturns e) ?_ (List.getElem?_eq_some_iff.mp hy).1 ?_ hheld
    · rw [length_sessions_step h hw.custody]
      exact hi
    · intro hafter
      have hbefore := channel?_before h e hw.custody hi hk hafter
      exact hw.renewed_step hreturns e hi hk hbefore (hrenewed hbefore)

/-! ### At rest -/

/-- The session at place `i` has been closed, with these counts, and has not opened a camera
    since. -/
structure AtRest (h : Handler σ) (i : Nat) (stats : Stats) (w : World σ) : Prop where
  closed : (w.relay.session i).state = .closed
  counts : (w.relay.session i).stats = stats
  /-- If the next step calls a handler at all, then for another session. -/
  unheard : ∀ e, w.delivered? e = none ∧ (w.step h e).2.host = w.host ∨
    ∃ k points, w.delivered? e = some (k, points) ∧ (w.relay.channel k).session ≠ i
  /-- After an opening, numbers begin anew and counts do not. -/
  reopened : ∀ d key address,
    let v := w.step h (.operate i (.openCamera d key address))
    let k := w.relay.channels.length
    v.1 = .answered (.unit (.ok ())) →
      (v.2.relay.session i).channel? = some k ∧ (v.2.relay.session i).stats = stats ∧
      ∀ next, ((v.2.run h next).relay.session i).channel? = some k →
        Renewed i k (.zeros address (w.relay.session i).settings.maxPoints.toNat) stats
          (v.2.run h next).relay

/-- Handlers are called only for frames that are delivered. -/
theorem host_step (h : Handler σ) (e : Event) (hcustody : Custody w.standing) :
    w.delivered? e = none ∧ (w.step h e).2.host = w.host ∨
      ∃ k points, w.delivered? e = some (k, points) := by
  have hpassage := step_passage h e hcustody
  generalize w.arrived? e = arrived, w.delivered? e = delivered at hpassage ⊢
  cases hpassage with
  | idle host lanes => exact .inl ⟨rfl, host⟩
  | left k points q queued host lanes => exact .inl ⟨rfl, host⟩
  | direct k points => exact .inr ⟨k, points, rfl⟩
  | dispatched k points => exact .inr ⟨k, points, rfl⟩

/-- A closed session whose hosts and channels are served is at rest. -/
theorem Serving.atRest (hw : w.Serving) (hreturns : h.Returns)
    (hi : i < w.relay.sessions.length) (hclosed : (w.relay.session i).camera = none) :
    AtRest h i (w.relay.session i).stats w where
  closed := by
    have hs := List.getElem?_eq_getElem hi
    rw [Relay.session_eq hs] at hclosed ⊢
    exact (Relay.of_custody hw.custody hs).1.mpr hclosed
  counts := rfl
  unheard := by
    intro e
    rcases host_step h e hw.custody with hsame | ⟨k, points, hdelivered⟩
    · exact .inl hsame
    · exact .inr ⟨k, points, hdelivered, hw.session_ne hclosed hdelivered⟩
  reopened := by
    intro d key address v k hdone
    have hserving : v.2.Serving := hw.step hreturns _
    rcases step_open_cases h d key address i w with
      ⟨-, -, p, c, rate, r, hafter⟩ | ⟨hfailed, -⟩
    · have hs := List.getElem?_eq_getElem hi
      -- What an opening changes is listed once; the clauses are read off that list.
      have hsession : v.2.relay.session i =
          { w.relay.session i with
            state := .opened
            camera := some
              { device := { camera := p }, channel := k, serial := c.profile.serial, rate } } := by
        refine Relay.session_eq ?_
        rw [show v.2 = _ from hafter]
        exact getElem?_set_of_some hs
      have hchannels : v.2.relay.channels = w.relay.channels ++ [w.relay.newChannel i
          (.zeros address (w.relay.session i).settings.maxPoints.toNat)] := by
        rw [show v.2 = _ from hafter]
        rfl
      have hchannel : v.2.relay.channel k = w.relay.newChannel i
          (.zeros address (w.relay.session i).settings.maxPoints.toNat) := by
        refine Relay.channel_eq ?_
        rw [hchannels]
        exact List.getElem?_concat_length
      have hsessions : v.2.relay.sessions.length = w.relay.sessions.length := by
        rw [show v.2 = _ from hafter]
        exact List.length_set
      have hstats : (v.2.relay.session i).stats = (w.relay.session i).stats := by rw [hsession]
      -- The new channel is the last one, and it is empty: counting starts again from there.
      refine ⟨by rw [hsession]; rfl, hstats, fun next => ?_⟩
      refine hserving.renewed_run hreturns next (hsessions ▸ hi) ?_ fun _ => ?_
      · rw [hchannels, List.length_append]
        exact Nat.lt_succ_self _
      · refine ⟨?_, fun _ => ?_, fun _ _ => Channel.sequence_of_delivery?⟩
        · rw [hstats, hchannel]
          rfl
        · rw [hchannel]
          rfl
    · exact absurd hdone hfailed

/-- **Nothing happens** to a closed session until it opens a camera. -/
theorem Serving.atRest_run (hw : w.Serving) (hreturns : h.Returns)
    (hi : i < w.relay.sessions.length) (hclosed : (w.relay.session i).camera = none)
    (after : List Event) (hopenless : w.openless h i after = true) :
    AtRest h i (w.relay.session i).stats (w.run h after) := by
  induction after generalizing w with
  | nil => exact hw.atRest hreturns hi hclosed
  | cons e rest ih =>
    simp only [openless, Bool.and_eq_true, Bool.not_eq_true'] at hopenless
    rw [← hw.stats_of_closed (e := e) hreturns hi hclosed]
    refine ih (hw.step hreturns e) ?_ ?_ hopenless.2
    · rw [length_sessions_step h hw.custody]
      exact hi
    · exact camera_of_not_opens hw.custody hi hclosed hopenless.1

end World

/-- **Closing finishes the work, and then nothing happens.**  After every schedule, whatever has
    failed in its course, a caller can close any session that is not being closed.  If the session
    holds a camera, the frames that wait in its hand-off are delivered in order and each once, as
    the dispatch thread gets its turns, while the host still sees the buffer.  No others are
    delivered, whatever happens meanwhile, and the caller goes on once all are.  Then the session is
    closed, and so it is if it held no camera.  From then on no handler is called for it and its
    counts stay, until it opens a camera again: then numbers begin anew, with a blank buffer, and
    counts do not. -/
theorem close_finishes (profiles : List CameraProfile) (runtimes : Nat)
    (sessions : List (Nat × Settings)) (host : σ) (now : Nat) (h : Handler σ)
    (events during : List Event) (i : Nat) (hreturns : h.Returns)
    (hvalid : ∀ r settings, (r, settings) ∈ sessions → r < runtimes ∧ settings.validate = .ok ())
    (hdisjoint : (World.fresh profiles runtimes sessions host now).disjoint h
      (events ++ .beginClose i :: during) = true)
    (hduring : .endClose i ∉ during) :
    let w := (World.fresh profiles runtimes sessions host now).run h events
    let u := w.run h (.beginClose i :: during)
    ∀ s, w.relay.sessions[i]? = some s → i ∉ w.closing →
      (w.step h (.beginClose i)).1 = .done ∧
      (s.camera = none → (w.step h (.beginClose i)).2 = w ∧
        ∀ after, w.openless h i after = true → (w.run h after).AtRest h i s.stats) ∧
      ∀ o, s.camera = some o →
        let k := o.channel
        let waiting := (w.relay.lane k).1
        let turns := during.count (.dispatch k)
        let v := u.step h (.endClose i)
        World.frames World.delivered? h k (.beginClose i :: during) w = waiting.take turns ∧
        (∀ e points, u.delivered? e = some (k, points) →
          e = .dispatch k ∧ u.relay.visible k = true ∧
            Reception h u.toLive (u.step h e).2.toLive k points) ∧
        (v.1 = .done ↔ waiting.length ≤ turns) ∧
        (v.1 = .done → i ∉ v.2.closing ∧
          Relay.ClosedOff i o.device.camera k u.relay v.2.relay ∧
          ∀ after, v.2.openless h i after = true →
            (v.2.run h after).AtRest h i (u.relay.session i).stats) := by
  intro w u s hs hfree
  have hi := (List.getElem?_eq_some_iff.mp hs).1
  have hserving : w.Serving :=
    (World.serving_fresh profiles runtimes sessions host now).run hreturns events
  have hexposing : u.Exposing := by
    have hu : u = (World.fresh profiles runtimes sessions host now).run h
        (events ++ .beginClose i :: during) := (World.run_append h _ _ _).symm
    rw [hu]
    exact (World.exposing_fresh profiles runtimes sessions host now hvalid).run h _ hdisjoint
  -- Without a camera closing does nothing, and the session is at rest already.
  cases ho : s.camera with
  | none =>
    have hclosed : (w.relay.session i).camera = none := by rw [Relay.session_eq hs, ho]
    have hstep : w.step h (.beginClose i) = (.done, w) := by
      have hready : w.ready i = true := by simp [World.ready, hi, hfree]
      unfold World.step
      dsimp only
      rw [if_pos hready, if_neg (by simp [hclosed])]
    refine ⟨by rw [hstep], fun _ => ⟨by rw [hstep], fun after hopenless => ?_⟩,
      fun o ho' => absurd ho' (by simp)⟩
    have hrest := hserving.atRest_run hreturns hi hclosed after hopenless
    rw [Relay.session_eq hs] at hrest
    exact hrest
  | some o =>
    -- With one, `drained` says what becomes of the frames, for any steps in between.
    obtain ⟨hdone, hdrained, hframes, hleft⟩ :=
      hserving.drained hreturns hs hfree ho during hduring
    have hu : u.Serving := hserving.run hreturns (.beginClose i :: during)
    refine ⟨hdone, fun hnone => absurd hnone (by simp), fun o' ho' => ?_⟩
    obtain rfl := Option.some.inj ho'
    refine ⟨hframes, fun e points hdelivered => ?_, ?_, fun hended => ?_⟩
    · -- A frame that is delivered meanwhile comes out of the queue, while its buffer can be seen.
      obtain ⟨_, _, _, -, -, -, -, -, -, hvisible⟩ := hexposing.delivered hdelivered
      exact ⟨hdrained.dispatch_of_delivered? hu.custody hdelivered, hvisible,
        World.step_reception h hdelivered hvisible⟩
    · -- The end can be reached once nothing is left in the queue.
      rw [hdrained.endClose_iff hu, hleft, List.drop_eq_nil_iff]
    · obtain ⟨hfree', hclosed⟩ := hdrained.closedOff hu.custody hended
      refine ⟨hfree', hclosed, fun after hopenless => ?_⟩
      obtain ⟨t, -, ht, -⟩ := hdrained.held
      have hlt := (List.getElem?_eq_some_iff.mp ht).1
      rw [← World.length_sessions_step h hu.custody (.endClose i)] at hlt
      rw [← hclosed.stats]
      exact (hu.step hreturns _).atRest_run hreturns hlt hclosed.closed.2 after hopenless

/-- The driver refuses to stop the camera of a session with two frames that wait.  They are
    delivered, and a frame that is injected meanwhile is not.  The session then opens its camera
    again, with a buffer at the same place, and the next frame has number 0. -/
theorem close_finishes_refused_stop :
    let queued : Settings := { maxPoints := 2, delivery := .queued, handoffDepth := 2 }
    let start : World Unit := World.fresh [{ serial := "A", fd := 3 }] 1 [(0, queued)] () 0
    let events : List Event :=
      [.operate 0 (.openCamera ⟨3⟩ 5 64), .operate 0 (.start false), .emit "W" 0 [default],
        .emit "W" 0 [], .fail 0 .stopCapture .logicError]
    let during : List Event := [.dispatch 0, .emit "W" 0 [default], .dispatch 0]
    let next : List Event := [.operate 0 (.start false), .emit "W" 0 [default], .dispatch 1]
    let w := start.run .accepting events
    let u := w.run .accepting (.beginClose 0 :: during)
    let v := (u.step .accepting (.endClose 0)).2
    let renewed := (v.step .accepting (.operate 0 (.openCamera ⟨3⟩ 5 64))).2
    u.relay.cameras.map Camera.capturing = [true] ∧
      World.frames World.delivered? .accepting 0 (.beginClose 0 :: during) w = [[default], []] ∧
      Relay.ClosedOff 0 0 0 u.relay v.relay ∧ v.AtRest .accepting 0 { delivered := 2 } ∧
      Renewed 0 1 (.zeros 64 2) { delivered := 2 } (renewed.run .accepting next).relay ∧
      ((renewed.run .accepting next).relay.session 0).stats.answered = 3 := by
  intro queued start events during next w u v renewed
  have hreturns : Handler.accepting.Returns := by
    intro r d host reason
    simp [Handler.accepting]
  have hvalid : ∀ r settings, (r, settings) ∈ [(0, queued)] →
      r < 1 ∧ settings.validate = .ok () := by
    intro r settings hmem
    obtain ⟨rfl, rfl⟩ := Prod.mk.inj (List.mem_singleton.mp hmem)
    decide
  have hdisjoint : start.disjoint .accepting (events ++ .beginClose 0 :: during) = true := by
    decide
  have hclose := close_finishes _ 1 _ () 0 .accepting events during 0 hreturns hvalid hdisjoint
    (by decide)
  rw [show World.fresh _ 1 _ () 0 = start from rfl,
    show World.run _ events start = w from rfl] at hclose
  have hlt : 0 < w.relay.sessions.length := by decide
  have hs := List.getElem?_eq_getElem hlt
  have hheld : (w.relay.session 0).camera.map (fun o => (o.device.camera, o.channel)) =
      some (0, 0) := by decide
  rw [Relay.session_eq hs] at hheld
  obtain ⟨o, ho, hplaces⟩ := Option.map_eq_some_iff.mp hheld
  obtain ⟨hp, hk⟩ := Prod.mk.inj hplaces
  obtain ⟨hframes, -, -, hended⟩ := (hclose _ hs (by decide)).2.2 o ho
  rw [hk] at hframes hended
  rw [hp, show World.run _ (_ :: during) w = u from rfl,
    show (World.step _ _ u).2 = v from rfl] at hended
  have hdone : (u.step .accepting (.endClose 0)).1 = .done := by decide
  obtain ⟨-, hclosed, hrests⟩ := hended hdone
  have hrest : v.AtRest .accepting 0 (u.relay.session 0).stats := hrests [] rfl
  have hstats : (u.relay.session 0).stats = { delivered := 2 } := by decide
  rw [hstats] at hrest
  have hopened : (v.step .accepting (.operate 0 (.openCamera ⟨3⟩ 5 64))).1 =
      .answered (.unit (.ok ())) := by decide
  obtain ⟨-, -, hnumbers⟩ := hrest.reopened ⟨3⟩ 5 64 hopened
  have hrenewed := hnumbers next
  have hchannels : v.relay.channels.length = 1 := by decide
  have hroom : (v.relay.session 0).settings.maxPoints.toNat = 2 := by decide
  rw [hchannels, hroom, show (v.step .accepting _).2 = renewed from rfl] at hrenewed
  refine ⟨by decide, ?_, hclosed, hrest, hrenewed (by decide), by decide⟩
  rw [hframes]
  decide

end DepthRelay
