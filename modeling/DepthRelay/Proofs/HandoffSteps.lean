import DepthRelay.Proofs.Reception
import DepthRelay.Proofs.RunSamples

namespace DepthRelay

/-!
# What steps do to hand-offs

Handlers that answer never leave a dispatch thread in the middle of a frame, and a hand-off that has
been closed never accepts frames again.

* `Traffic` — everything that a step can do to channels and counts, with the frame that it delivers;
  `World.step_traffic` says that steps do that.
* `Channel.Change` — the same for one channel, and what follows for its hand-off.
* `World.Serving`, `World.Serving.step` — what is true of all worlds whose handlers answer.
* `World.Serving.delivered?_dispatch` — in such a world a dispatch thread delivers the oldest frame
  that waits.
-/

variable {σ : Type}

/-- Everything that a step can do to channels and counts, with the frame that it delivers.  What
    becomes of the counts of a frame that is delivered is not said here. -/
inductive Traffic (w v : Relay) : Option (Nat × List Point) → Prop
  | idle (channels : v.channels = w.channels)
      (stats : v.sessions.map Session.stats = w.sessions.map Session.stats) : Traffic w v none
  | opened (x : Channel) (rested : ∀ q, x.handoff = some q → q.sinking = false)
      (channels : v.channels = w.channels ++ [x])
      (stats : v.sessions.map Session.stats = w.sessions.map Session.stats) : Traffic w v none
  /-- A hand-off is closed. -/
  | shut (k : Nat)
      (channels : v.channels =
        w.channels.modify k fun x => { x with handoff := x.handoff.map Handoff.close })
      (stats : v.sessions.map Session.stats = w.sessions.map Session.stats) : Traffic w v none
  /-- A frame is left in a hand-off, or dropped there. -/
  | left (p k : Nat) (points : List Point) (q : Handoff) (f : Stats → Stats)
      (heard : w.listener? p = some k) (queued : (w.channel k).handoff = some q)
      (noted : f = id ∨ f = Stats.noteBackpressure)
      (channels : v.channels =
        w.channels.modify k fun x => { x with handoff := some (q.submit points).2 })
      (stats : v.sessions.map Session.stats =
        (w.sessions.map Session.stats).modify (w.channel k).session f) : Traffic w v none
  | direct (k : Nat) (points : List Point) (x : Channel)
      (unqueued : (w.channel k).handoff = none) (kept : x.handoff = none)
      (channels : v.channels = w.channels.modify k fun _ => x) : Traffic w v (some (k, points))
  /-- A dispatch thread takes a frame and is done with it. -/
  | dispatched (k : Nat) (points : List Point) (q q' : Handoff) (x : Channel)
      (queued : (w.channel k).handoff = some q) (taken : q.take? = some (points, q'))
      (completed : x.handoff = some q'.complete)
      (channels : v.channels = w.channels.modify k fun _ => x) : Traffic w v (some (k, points))

/-- Only channels, counts and listeners matter. -/
theorem Traffic.congr {u v w : Relay} {frame? : Option (Nat × List Point)} (h : Traffic u v frame?)
    (hchannels : u.channels = w.channels) (hcameras : u.cameras = w.cameras)
    (hstats : u.sessions.map Session.stats = w.sessions.map Session.stats) :
    Traffic w v frame? := by
  have hchannel := Relay.channel_of_channels hchannels
  have hlistener (p : Nat) : u.listener? p = w.listener? p :=
    Relay.listener?_of_cameras hcameras p
  cases h with
  | idle channels stats => exact .idle (channels.trans hchannels) (stats.trans hstats)
  | opened x rested channels stats =>
    exact .opened x rested (hchannels ▸ channels) (stats.trans hstats)
  | shut k channels stats => exact .shut k (hchannels ▸ channels) (stats.trans hstats)
  | left p k points q f heard queued noted channels stats =>
    rw [hstats, hchannel] at stats
    exact .left p k points q f (hlistener p ▸ heard) (hchannel k ▸ queued) noted
      (hchannels ▸ channels) stats
  | direct k points x unqueued kept channels =>
    exact .direct k points x (hchannel k ▸ unqueued) kept (hchannels ▸ channels)
  | dispatched k points q q' x queued taken completed channels =>
    exact .dispatched k points q q' x (hchannel k ▸ queued) taken completed
      (hchannels ▸ channels)

/-! ### Threads -/

namespace Live

variable {h : Handler σ} {l : Live σ}

/-- A delivery changes its own channel only, and not what waits there. -/
theorem deliver_channels (h : Handler σ) (l : Live σ) (t : ThreadId) (k : Nat)
    (points : List Point) :
    ∃ x : Channel, x.handoff = (l.relay.channel k).handoff ∧
      (l.deliver h t k points).2.relay.channels = l.relay.channels.modify k fun _ => x := by
  rcases deliver_cases h l t k points with ⟨hchannels, -⟩ | ⟨d, size, x, hpublish, hchannels, -⟩
  · refine ⟨l.relay.channel k, rfl, hchannels.trans ?_⟩
    cases hk : l.relay.channels[k]? with
    | none => rw [modify_of_getElem?_eq_none _ hk]
    | some x => rw [Relay.channel_eq hk, modify_of_getElem? _ hk, set_of_getElem? hk]
  · refine ⟨x, ?_, hchannels⟩
    obtain ⟨b, -, -, rfl⟩ := Channel.publish_eq_ok.mp hpublish
    rfl

/-- **An injected frame** is traffic, and is delivered at once if there is no hand-off. -/
theorem emit_traffic (hreturns : h.Returns) (t : ThreadId) (p : Nat) (points : List Point) :
    Traffic l.relay (l.emit h t p points).2.relay
      (((l.relay.listener? p).map fun k => (k, points)).filter fun (k, _) =>
        (l.relay.channel k).handoff.isNone) := by
  rw [emit_eq hreturns]
  cases hk : l.relay.listener? p with
  | none => exact .idle rfl rfl
  | some k =>
    dsimp only [Option.map_some]
    cases hq : (l.relay.channel k).handoff with
    | some q =>
      rw [Option.filter_some_neg (by simp [hq])]
      dsimp only
      show Traffic l.relay ((l.relay.noteEmitted p).submit k q points) none
      have hchannels : ((l.relay.noteEmitted p).submit k q points).channels =
          l.relay.channels.modify k fun x => { x with handoff := some (q.submit points).2 } := by
        unfold Relay.submit
        rcases q.submit points with ⟨_ | _, q'⟩ <;> rfl
      rcases Relay.books_submit (w := l.relay.noteEmitted p) points hq with hqueued | hdropped
      · exact .left p k points q id hk hq (.inl rfl) hchannels
          ((congrArg Books.stats hqueued).trans (List.modify_id _ _).symm)
      · exact .left p k points q _ hk hq (.inr rfl) hchannels (congrArg Books.stats hdropped)
    | none =>
      rw [Option.filter_some_pos (by simp [hq])]
      obtain ⟨x, hx, hchannels⟩ :=
        deliver_channels h (l.withRelay (l.relay.noteEmitted p)) t k points
      exact .direct k points x hq (hx.trans hq) hchannels

/-- **A dispatch thread** delivers the frame that it takes out. -/
theorem dispatch_traffic (hreturns : h.Returns) (k : Nat) :
    Traffic l.relay (l.dispatch h k).relay
      ((l.relay.takeQueued? k).map fun (points, _) => (k, points)) := by
  rw [dispatch_eq hreturns]
  cases htake : l.relay.takeQueued? k with
  | none => exact .idle rfl rfl
  | some taken =>
    obtain ⟨points, v⟩ := taken
    obtain ⟨⟨points', q'⟩, hq', hv⟩ := Option.map_eq_some_iff.mp htake
    obtain ⟨rfl, rfl⟩ := Prod.mk.inj hv
    obtain ⟨q, hq, htaken⟩ := Option.bind_eq_some_iff.mp hq'
    have hlt := (List.getElem?_eq_some_iff.mp (Relay.getElem?_of_handoff hq)).1
    generalize hv : (l.relay.modifyChannel k fun x => { x with handoff := some q' }) = v
    have hv_channels : v.channels =
        l.relay.channels.modify k fun x => { x with handoff := some q' } := by
      rw [← hv]
      rfl
    have hleft : (v.channel k).handoff = some q' := by
      rw [← hv]
      exact congrArg Channel.handoff (Relay.channel_modifyChannel k _ l.relay hlt)
    obtain ⟨x, hx, hchannels⟩ := deliver_channels h (l.withRelay v) (.dispatch k) k points'
    -- Taking the frame, delivering it and being done with it are one change of the channel.
    have hwhole : (((l.withRelay v).deliver h (.dispatch k) k points').2.relay.completeQueued
        k).channels = l.relay.channels.modify k fun _ =>
          { x with handoff := x.handoff.map Handoff.complete } := by
      show List.modify _ k _ = _
      rw [hchannels]
      show (v.channels.modify k _).modify k _ = _
      rw [hv_channels, List.modify_modify_eq, List.modify_modify_eq]
      rfl
    exact .dispatched k points' q q' _ hq htaken (by simp [hx.trans hleft]) hwhole

end Live

namespace World

variable {w : World σ} {h : Handler σ}

/-- A frame source that wakes up, and may produce a frame. -/
theorem wake_traffic (hreturns : h.Returns) {i : Nat} {source : Source}
    (hsource : (w.relay.session i).source? = some source) :
    Traffic w.relay (w.toLive.wake h i source).relay (w.delivered? (.wake i)) := by
  have hinjected := injected?_wake hsource
  have hchannels := Relay.channels_wakeSource i source w.relay
  have hstats := congrArg Books.stats (Relay.books_wakeSource i source w.relay)
  rw [Live.wake_eq hreturns]
  cases hwake : w.relay.wakeSource i source with
  | mk produced v =>
    rw [hwake] at hinjected hchannels hstats
    cases produced with
    | none =>
      have hnone : w.delivered? (.wake i) = none := by simp [delivered?, arrived?, hinjected]
      rw [hnone]
      exact .idle hchannels hstats
    | some frame =>
      obtain ⟨p, points⟩ := frame
      obtain ⟨-, hcameras, -, -⟩ := Relay.wakeSource_some hwake
      rw [(frame_of_wakeSource hsource hwake).2]
      exact (Live.emit_traffic (l := w.toLive.withRelay v) hreturns (.source source.run) p
        points).congr hchannels hcameras hstats

/-- **What a step can do** to channels and counts, if handlers answer. -/
theorem step_traffic (hreturns : h.Returns) (hcustody : Custody w.standing) (e : Event) :
    Traffic w.relay (w.step h e).2.relay (w.delivered? e) := by
  cases e with
  | operate i op =>
    rcases w.step_operate_cases h i op with hsame | ⟨hi, -, hafter⟩
    · rw [hsame]
      exact .idle rfl rfl
    · rw [hafter]
      show Traffic w.relay (op.perform i w.relay).2 none
      have hstats : (op.perform i w.relay).2.sessions.map Session.stats =
          w.relay.sessions.map Session.stats := by
        rcases Relay.perform_books op hcustody hi with hsame | hmore
        · exact congrArg Books.stats hsame
        · exact congrArg Books.stats hmore
      -- An operation changes channels only if it opens a camera, and then by a new one at the end.
      rcases Relay.perform_channels op hcustody (List.getElem?_eq_getElem hi) with
        hsame | ⟨-, -, address, b, -, -, -, hnew⟩
      · exact .idle hsame hstats
      · refine .opened _ ?_ hnew hstats
        intro q hq
        unfold Relay.newChannel at hq
        dsimp only at hq
        cases hdelivery : (w.relay.session i).settings.delivery with
        | synchronous =>
          rw [hdelivery] at hq
          exact absurd hq (by simp)
        | queued =>
          rw [hdelivery] at hq
          obtain rfl := Option.some.inj hq
          rfl
  | beginClose i =>
    rcases step_beginClose_cases h hcustody i with hsame | ⟨s, o, c, hs, ho, hc, hafter⟩
    · rw [hsame]
      exact .idle rfl rfl
    · rw [hafter]
      show Traffic w.relay (w.relay.beginClose i) none
      -- The hand-off is closed, but what waits in it stays.
      refine .shut o.channel ?_ (congrArg Books.stats (Relay.books_beginClose hs ho hc))
      rw [Relay.beginClose_eq hs ho hc]
      show ((w.relay.exitSource _).channels).modify _ _ = _
      rw [Relay.channels_exitSource]
  | endClose i =>
    rcases step_endClose_cases h hcustody i with hsame | ⟨-, -, s, o, c, hs, ho, hc, hafter⟩
    · rw [hsame]
      exact .idle rfl rfl
    · rw [hafter]
      show Traffic w.relay (w.relay.endClose i) none
      refine .idle ?_ (congrArg Books.stats (Relay.books_endClose hs ho hc))
      rw [Relay.endClose_eq hs ho hc]
      exact Relay.channels_exitSource _ _
  | emit worker camera points =>
    exact Live.emit_traffic (l := w.toLive) hreturns (.worker worker) camera points
  | dispatch k => exact Live.dispatch_traffic (l := w.toLive) hreturns k
  | wake i =>
    unfold step
    dsimp only
    cases hsource : (w.relay.session i).source? with
    -- A session without a source emits nothing.
    | none =>
      have hnone : w.delivered? (.wake i) = none := by
        simp [delivered?, arrived?, injected?, hsource]
      rw [hnone]
      exact .idle rfl rfl
    | some source => exact wake_traffic hreturns hsource
  | fail | clearFaults | disableAttach | refuseBuffers | exitWorker | pass => exact .idle rfl rfl

end World

/-! ### One channel -/

/-- What a step can do to a channel that is there, with the frames that it delivers on it. -/
inductive Channel.Change (x : Channel) : List (List Point) → Channel → Prop
  | kept : Channel.Change x [] x
  | shut : Channel.Change x [] { x with handoff := x.handoff.map Handoff.close }
  | left (points : List Point) (q : Handoff) (queued : x.handoff = some q) :
      Channel.Change x [] { x with handoff := some (q.submit points).2 }
  | direct (points : List Point) (y : Channel) (unqueued : x.handoff = none)
      (kept : y.handoff = none) : Channel.Change x [points] y
  | dispatched (points : List Point) (q q' : Handoff) (y : Channel)
      (queued : x.handoff = some q) (taken : q.take? = some (points, q'))
      (completed : y.handoff = some q'.complete) : Channel.Change x [points] y

/-- Traffic changes a channel by the frames that are for it, if any. -/
theorem Traffic.change {v w : Relay} {frame? : Option (Nat × List Point)} (h : Traffic w v frame?)
    {k : Nat} {x : Channel} (hx : w.channels[k]? = some x) :
    ∃ y, v.channels[k]? = some y ∧ x.Change (World.onChannel k frame?) y := by
  -- What happens to another channel does not matter.
  have hother {j : Nat} (g : Channel → Channel) (hj : j ≠ k)
      (hchannels : v.channels = w.channels.modify j g) : v.channels[k]? = some x := by
    rw [hchannels, List.getElem?_modify_ne _ _ hj]
    exact hx
  cases h with
  | idle channels => exact ⟨x, channels ▸ hx, .kept⟩
  | opened x' _ channels =>
    refine ⟨x, ?_, .kept⟩
    rw [channels, List.getElem?_append_left (List.getElem?_eq_some_iff.mp hx).1]
    exact hx
  | shut j channels =>
    by_cases hj : j = k
    · subst hj
      exact ⟨_, channels ▸ getElem?_modify_of_some hx, .shut⟩
    · exact ⟨x, hother _ hj channels, .kept⟩
  | left p j points q f heard queued noted channels =>
    by_cases hj : j = k
    · subst hj
      rw [Relay.channel_eq hx] at queued
      exact ⟨_, channels ▸ getElem?_modify_of_some hx, .left points q queued⟩
    · exact ⟨x, hother _ hj channels, .kept⟩
  | direct j points y unqueued kept channels =>
    rw [World.onChannel_some]
    by_cases hj : j = k
    · subst hj
      rw [if_pos rfl]
      rw [Relay.channel_eq hx] at unqueued
      exact ⟨y, channels ▸ getElem?_modify_of_some hx, .direct points y unqueued kept⟩
    · rw [if_neg hj]
      exact ⟨x, hother _ hj channels, .kept⟩
  | dispatched j points q q' y queued taken completed channels =>
    rw [World.onChannel_some]
    by_cases hj : j = k
    · subst hj
      rw [if_pos rfl]
      rw [Relay.channel_eq hx] at queued
      exact ⟨y, channels ▸ getElem?_modify_of_some hx,
        .dispatched points q q' y queued taken completed⟩
    · rw [if_neg hj]
      exact ⟨x, hother _ hj channels, .kept⟩

/-- Whoever leaves a frame changes only slots and queue. -/
theorem Handoff.submit_kept (points : List Point) (q : Handoff) :
    (q.submit points).2.accepting = q.accepting ∧ (q.submit points).2.sinking = q.sinking := by
  unfold submit claim?
  by_cases hfree : q.free = 0
  · rw [if_pos hfree]
    exact ⟨rfl, rfl⟩
  · rw [if_neg hfree]
    dsimp only
    unfold enqueue
    split <;> exact ⟨rfl, rfl⟩

namespace Channel

/-- The dispatch thread has no frame. -/
def Rested (x : Channel) : Prop := ∀ q, x.handoff = some q → q.sinking = false

/-- No frame is accepted. -/
def Shut (x : Channel) : Prop := ∀ q, x.handoff = some q → q.accepting = false

end Channel

namespace Channel.Change

variable {x y : Channel} {frames : List (List Point)}

/-- A hand-off whose handler is not at work stays like that. -/
theorem rested (h : Change x frames y) (hx : x.Rested) : y.Rested := by
  intro q hq
  cases h with
  | kept => exact hx q hq
  | shut =>
    obtain ⟨q', hq', rfl⟩ := Option.map_eq_some_iff.mp hq
    exact hx q' hq'
  | left points q' queued =>
    obtain rfl := Option.some.inj hq
    exact (q'.submit_kept points).2.trans (hx q' queued)
  | direct points _ unqueued kept => exact absurd (hq.symm.trans kept) (by simp)
  | dispatched points q' q'' _ queued taken completed =>
    obtain rfl := Option.some.inj (hq.symm.trans completed)
    rfl

/-- **A hand-off that is closed stays closed.** -/
theorem shut_after (h : Change x frames y) (hx : x.Shut) : y.Shut := by
  intro q hq
  cases h with
  | kept => exact hx q hq
  | shut =>
    obtain ⟨q', -, rfl⟩ := Option.map_eq_some_iff.mp hq
    rfl
  | left points q' queued =>
    obtain rfl := Option.some.inj hq
    exact (q'.submit_kept points).1.trans (hx q' queued)
  | direct points _ unqueued kept => exact absurd (hq.symm.trans kept) (by simp)
  | dispatched points q' q'' _ queued taken completed =>
    obtain rfl := Option.some.inj (hq.symm.trans completed)
    obtain ⟨-, rest, -, rfl⟩ := Handoff.of_take? taken
    exact hx q' queued

/-- Only a frame that is delivered changes more than what waits. -/
theorem unqueued_eq (h : Change x [] y) : y.unqueued = x.unqueued := by
  cases h <;> rfl

end Channel.Change

/-- Dispatch threads have no frame between steps. -/
theorem Traffic.rested {v w : Relay} {frame? : Option (Nat × List Point)} (h : Traffic w v frame?)
    (hw : ∀ x ∈ w.channels, x.Rested) : ∀ y ∈ v.channels, y.Rested := by
  intro y hy
  obtain ⟨k, hk⟩ := List.mem_iff_getElem?.mp hy
  by_cases hold : k < w.channels.length
  · obtain ⟨y', hy', hchange⟩ := h.change (List.getElem?_eq_getElem hold)
    obtain rfl := Option.some.inj (hk.symm.trans hy')
    exact hchange.rested (hw _ (List.getElem_mem hold))
  · -- Only an opening makes a channel.
    have hlt := (List.getElem?_eq_some_iff.mp hk).1
    cases h with
    | opened x rested channels =>
      rw [channels] at hk
      rcases getElem?_concat_cases hk with hk | rfl
      · exact absurd (List.getElem?_eq_some_iff.mp hk).1 hold
      · exact rested
    | idle channels => exact absurd (channels ▸ hlt) hold
    | shut _ channels | left _ _ _ _ _ _ _ _ channels | direct _ _ _ _ _ channels
    | dispatched _ _ _ _ _ _ _ _ channels =>
      rw [channels, List.length_modify] at hlt
      exact absurd hlt hold

/-! ### Worlds whose handlers answer -/

namespace World

/-- What is true between the steps of any run whose handlers answer. -/
structure Serving (w : World σ) : Prop where
  custody : Custody w.standing
  fed : w.Fed
  rested : ∀ x ∈ w.relay.channels, x.Rested

variable {w : World σ} {h : Handler σ}

/-- A step leaves the hand-offs served. -/
theorem Serving.step (hw : w.Serving) (hreturns : h.Returns) (e : Event) :
    (w.step h e).2.Serving where
  custody := hw.custody.shift (step_shift h e hw.custody)
  fed := hw.fed.step h hreturns hw.custody e
  rested := (step_traffic hreturns hw.custody e).rested hw.rested

/-- So does a run. -/
theorem Serving.run (hw : w.Serving) (hreturns : h.Returns) (events : List Event) :
    (w.run h events).Serving := by
  induction events generalizing w with
  | nil => exact hw
  | cons e rest ih => exact ih (hw.step hreturns e)

/-- At the start there are no channels. -/
theorem serving_fresh (profiles : List CameraProfile) (runtimes : Nat)
    (sessions : List (Nat × Settings)) (host : σ) (now : Nat) :
    (fresh profiles runtimes sessions host now).Serving where
  custody := custody_fresh profiles runtimes sessions host now
  fed := fed_fresh profiles runtimes sessions host now
  rested := by
    intro x hx
    exact absurd hx (by simp [fresh])

/-- Dispatch threads live. -/
theorem Fed.alive (hfed : w.Fed) {k : Nat} {q : Handoff}
    (hq : (w.relay.channel k).handoff = some q) : q.alive = true := by
  have htally : w.relay.books.waiting[k]? = some (w.relay.channel k).tally := by
    simp [Relay.books, Relay.getElem?_of_handoff hq]
  simpa [Channel.tally, hq] using (hfed k _ htally).1

/-- **A dispatch thread delivers the oldest frame that waits**, if there is one. -/
theorem Serving.delivered?_dispatch (hw : w.Serving) (k : Nat) :
    onChannel k (w.delivered? (.dispatch k)) = (w.relay.lane k).1.take 1 := by
  unfold delivered? Relay.takeQueued? Relay.lane Channel.lane
  dsimp only
  cases hq : (w.relay.channel k).handoff with
  | none => rfl
  | some q =>
    have halive := hw.fed.alive hq
    have hrested := hw.rested _ (List.mem_of_getElem? (Relay.getElem?_of_handoff hq)) q hq
    unfold Handoff.take?
    rw [Option.bind_some, halive, hrested]
    cases hqueue : q.queue with
    | nil => simp [hqueue]
    | cons points rest => simp [hqueue, onChannel_some]

end World

end DepthRelay
