import DepthRelay.Proofs.Outcomes

namespace DepthRelay

/-!
# What becomes of a frame

All threads that deliver do it in the same way.  Before and after that, they only see to what waits,
to their own sources and to the clock.

* `Live.Alike`, `World.step_deliver` — a step that delivers a frame is a delivery, apart from such
  things.
* `Reception` — what becomes of a frame whose host sees the buffer: the thread may not attach and
  the frame may be too long, but otherwise the handler is called for that buffer.
* `Deposit` — what becomes of buffer and counts: a frame that goes into the buffer gets its number
  and is answered for.
-/

variable {σ : Type}

/-! ### Apart from what waits -/

/-- The channel without its hand-off. -/
def Channel.unqueued (x : Channel) : Channel := { x with handoff := none }

namespace Live

/-- The two differ at most in what waits, in cameras, attachments and sources, and in the clock. -/
structure Alike (l v : Live σ) : Prop where
  host : v.host = l.host
  channels : v.relay.channels.map Channel.unqueued = l.relay.channels.map Channel.unqueued
  stats : v.relay.sessions.map Session.stats = l.relay.sessions.map Session.stats
  exposed : v.relay.runtimes.map Runtime.exposed = l.relay.runtimes.map Runtime.exposed

namespace Alike

variable {l v u : Live σ} {k : Nat}

theorem refl (l : Live σ) : Alike l l := ⟨rfl, rfl, rfl, rfl⟩

theorem trans (hlv : Alike l v) (hvu : Alike v u) : Alike l u :=
  ⟨hvu.host.trans hlv.host, hvu.channels.trans hlv.channels, hvu.stats.trans hlv.stats,
    hvu.exposed.trans hlv.exposed⟩

theorem channel (h : Alike l v) (k : Nat) :
    (v.relay.channel k).unqueued = (l.relay.channel k).unqueued :=
  getD_of_map_eq h.channels k default

theorem session (h : Alike l v) (k : Nat) :
    (v.relay.channel k).session = (l.relay.channel k).session :=
  (congrArg Channel.session (h.channel k) :)

theorem binding (h : Alike l v) (k : Nat) :
    (v.relay.channel k).binding = (l.relay.channel k).binding :=
  (congrArg Channel.binding (h.channel k) :)

theorem view (h : Alike l v) (k : Nat) : (v.relay.channel k).view = (l.relay.channel k).view :=
  (congrArg Channel.view (h.channel k) :)

/-- The same frames can be delivered. -/
theorem delivery? (h : Alike l v) (k : Nat) (points : List Point) :
    (v.relay.channel k).delivery? points = (l.relay.channel k).delivery? points := by
  rw [← Channel.delivery?_handoff points none (v.relay.channel k),
    ← Channel.delivery?_handoff points none (l.relay.channel k)]
  exact congrArg (Channel.delivery? points) (h.channel k)

/-- The buffers that a channel sees are the same. -/
theorem visible (h : Alike l v) (k : Nat) : v.relay.visible k = l.relay.visible k := by
  have hexposed : (v.relay.runtime (l.relay.channel k).binding.runtime).exposed =
      (l.relay.runtime (l.relay.channel k).binding.runtime).exposed :=
    getD_of_map_eq h.exposed _ default
  unfold Relay.visible Runtime.isExposed
  rw [h.binding, h.view, hexposed]

/-- What waits in a hand-off is changed. -/
theorem modifyHandoff (k : Nat) (g : Channel → Option Handoff) (l : Live σ) :
    Alike l (l.withRelay (l.relay.modifyChannel k fun x => { x with handoff := g x })) :=
  ⟨rfl, map_modify_of_eq fun _ _ => rfl, rfl, rfl⟩

/-- A thread that exits is of no account. -/
theorem exitThread (t : ThreadId) (l : Live σ) :
    Alike l (l.withRelay (l.relay.exitThread t)) := by
  refine ⟨rfl, rfl, rfl, ?_⟩
  show (l.relay.exitThread t).runtimes.map Runtime.exposed = _
  rw [Relay.exitThread_eq]
  exact Relay.map_exit (fun _ => rfl) t l.relay.attachments l.relay.runtimes

theorem setSource (i : Nat) (source : Option Source) (l : Live σ) :
    Alike l (l.withRelay (l.relay.setSource i source)) :=
  ⟨rfl, rfl, map_modify_of_eq fun _ _ => rfl, rfl⟩

end Alike

end Live

namespace Relay

/-- A count changes the numbers of the session of its channel. -/
theorem stats_count (f : Stats → Stats) (w : Relay) {k : Nat} :
    (w.count k f).sessions.map Session.stats =
      (w.sessions.map Session.stats).modify (w.channel k).session f :=
  map_modify_of_comm fun _ => rfl

end Relay

/-- What waits in the hand-off does not matter for what goes into the buffer. -/
theorem Channel.publish_unqueued {x y : Channel} {points : List Point} {d : Delivery}
    {size : Written} (h : x.publish points = .ok (d, size, y)) :
    x.unqueued.publish points = .ok (d, size, y.unqueued) := by
  obtain ⟨b, hwrite, rfl, rfl⟩ := publish_eq_ok.mp h
  exact publish_eq_ok.mpr ⟨b, hwrite, rfl, rfl⟩

/-! ### Every delivery is one -/

namespace Live

variable {h : Handler σ} {l : Live σ} {k : Nat}

/-- An injected frame that is delivered at once. -/
theorem emit_deliver (t : ThreadId) {p : Nat} (points : List Point)
    (hlistener : l.relay.listener? p = some k) (hdirect : (l.relay.channel k).handoff = none) :
    ∃ l', Alike l l' ∧ (l.emit h t p points).2 = (l'.deliver h t k points).2 := by
  obtain ⟨c, hc, hcapturing, hk⟩ := Relay.listener?_eq_some.mp hlistener
  unfold emit
  rw [Relay.offer_of_some hc hcapturing hk]
  generalize hv : ({ l.relay with
    cameras := l.relay.cameras.set p { c with emitted := c.emitted + 1 } } : Relay) = v
  have hdirect' : (v.channel k).handoff = none := by
    rw [← hv]
    exact hdirect
  refine ⟨l.withRelay v, ?_, ?_⟩
  · rw [← hv]
    exact ⟨rfl, rfl, rfl, rfl⟩
  · dsimp only
    rw [hdirect']
    dsimp only
    generalize (l.withRelay v).deliver h t k points = result
    obtain ⟨answer, u⟩ := result
    cases answer <;> rfl

/-- A frame that a dispatch thread takes. -/
theorem dispatch_deliver {points : List Point} {v : Relay}
    (htake : l.relay.takeQueued? k = some (points, v)) :
    ∃ l', Alike l l' ∧ Alike (l'.deliver h (.dispatch k) k points).2 (l.dispatch h k) := by
  -- The thread takes the frame before, and is done with it or dies with it afterwards.
  refine ⟨l.withRelay v, ?_, ?_⟩
  · obtain ⟨q, rest, -, -, rfl⟩ := Relay.takeQueued?_eq_some htake
    exact Alike.modifyHandoff k (fun _ => some { q with queue := rest, sinking := true }) l
  · unfold dispatch
    rw [htake]
    dsimp only
    generalize (l.withRelay v).deliver h (.dispatch k) k points = result
    obtain ⟨answer, u⟩ := result
    cases answer with
    | ok _ => exact Alike.modifyHandoff k (fun x => x.handoff.map Handoff.complete) u
    | error a =>
      exact (Alike.modifyHandoff k (fun x => x.handoff.map Handoff.crash) u).trans
        (Alike.exitThread (.dispatch k) _)

/-- A frame of a source that wakes up. -/
theorem wake_deliver {i p : Nat} {source : Source} {points : List Point} {v : Relay}
    (hwake : l.relay.wakeSource i source = (some (p, points), v))
    (hlistener : l.relay.listener? p = some k) (hdirect : (l.relay.channel k).handoff = none) :
    ∃ l', Alike l l' ∧
      Alike (l'.deliver h (.source source.run) k points).2 (l.wake h i source) := by
  obtain ⟨-, hcameras, hchannels, hruntimes⟩ := Relay.wakeSource_some hwake
  have hbooks := Relay.books_wakeSource i source l.relay
  rw [hwake] at hbooks
  -- The source changes nothing that a reception is about.
  have hbefore : Alike l (l.withRelay v) :=
    ⟨rfl, congrArg (List.map Channel.unqueued) hchannels, congrArg Books.stats hbooks,
      congrArg (List.map Runtime.exposed) hruntimes⟩
  have hlistener' : v.listener? p = some k :=
    (Relay.listener?_of_cameras hcameras p).trans hlistener
  have hdirect' : (v.channel k).handoff = none := by
    rw [Relay.channel_of_channels hchannels]
    exact hdirect
  obtain ⟨l', halike, hemit⟩ := emit_deliver (h := h) (l := l.withRelay v) (.source source.run)
    points hlistener' hdirect'
  refine ⟨l', hbefore.trans halike, ?_⟩
  rw [← hemit]
  unfold wake
  rw [hwake]
  dsimp only
  generalize (l.withRelay v).emit h (.source source.run) p points = result
  obtain ⟨answer, u⟩ := result
  cases answer with
  | ok _ => exact Alike.refl u
  -- If the handler gives up, the thread of the source ends, which does not matter either.
  | error a =>
    show Alike u (u.withRelay (u.relay.crashSource source.run))
    unfold Relay.crashSource
    cases u.relay.sessions.findIdx? fun s => s.source?.any (·.run == source.run) with
    | none => exact Alike.refl u
    | some n => exact (Alike.setSource n none u).trans (Alike.exitThread (.source source.run) _)

end Live

/-- **A step that delivers a frame is a delivery**, apart from what waits and the like. -/
theorem World.step_deliver {w : World σ} (h : Handler σ) {e : Event} {k : Nat}
    {points : List Point} (hdelivered : w.delivered? e = some (k, points)) :
    ∃ l t, Live.Alike w.toLive l ∧
      Live.Alike (l.deliver h t k points).2 (w.step h e).2.toLive := by
  unfold delivered? at hdelivered
  -- A dispatched frame comes out of the queue; the others are on their way without one.
  split at hdelivered
  · next k' =>
    obtain ⟨⟨points', v⟩, htake, hframe⟩ := Option.map_eq_some_iff.mp hdelivered
    obtain ⟨rfl, rfl⟩ := Prod.mk.inj hframe
    obtain ⟨l, hbefore, hafter⟩ := Live.dispatch_deliver (h := h) htake
    exact ⟨l, _, hbefore, hafter⟩
  · obtain ⟨harrived, hdirect⟩ := Option.filter_eq_some_iff.mp hdelivered
    obtain ⟨⟨p, points'⟩, hinjected, hfound⟩ := Option.bind_eq_some_iff.mp harrived
    obtain ⟨k', hlistener, hframe⟩ := Option.map_eq_some_iff.mp hfound
    obtain ⟨rfl, rfl⟩ := Prod.mk.inj hframe
    have hdirect' : (w.relay.channel k').handoff = none := by simpa using hdirect
    cases e with
    | emit worker camera points =>
      obtain ⟨rfl, rfl⟩ := Prod.mk.inj (Option.some.inj hinjected)
      obtain ⟨l, hbefore, hafter⟩ := Live.emit_deliver (h := h) (.worker worker) points hlistener
        hdirect'
      refine ⟨l, .worker worker, hbefore, ?_⟩
      rw [← hafter]
      exact Live.Alike.refl _
    | wake i =>
      obtain ⟨source, hsource, hproduced⟩ := Option.bind_eq_some_iff.mp hinjected
      obtain ⟨l, hbefore, hafter⟩ := Live.wake_deliver (h := h)
        (v := (w.relay.wakeSource i source).2) (Prod.ext hproduced rfl) hlistener hdirect'
      refine ⟨l, .source source.run, hbefore, ?_⟩
      unfold step
      dsimp only
      rw [hsource]
      exact hafter
    | _ => exact absurd hinjected (by simp [injected?])

/-! ### Deliveries -/

/-- What becomes of a frame whose buffer the host of its channel sees. -/
inductive Reception (h : Handler σ) (l v : Live σ) (k : Nat) (points : List Point) : Prop
  /-- The host does not let the thread attach. -/
  | detached (kept : v.host = l.host)
      (noted : v.relay.sessions.map Session.stats =
        (l.relay.sessions.map Session.stats).modify (l.relay.channel k).session
          Stats.noteAttachFailure)
  /-- The frame has more points than the buffer holds. -/
  | refused (refused : (l.relay.channel k).delivery? points = none) (kept : v.host = l.host)
      (noted : v.relay.sessions.map Session.stats =
        (l.relay.sessions.map Session.stats).modify (l.relay.channel k).session
          Stats.noteOverflow)
  /-- The handler is called for the buffer of the channel. -/
  | heard (d : Delivery) (delivery : (l.relay.channel k).delivery? points = some d)
      (view : d.view = (l.relay.channel k).view)
      (answered : v.host = (h (l.relay.channel k).binding.runtime d l.host).host)

/-- What becomes of the buffer of a frame, and of the counts of its session, if handlers answer. -/
inductive Deposit (l v : Live σ) (k : Nat) (points : List Point) : Prop
  /-- The frame does not get into the buffer. -/
  | dropped (f : Stats → Stats) (noted : f = Stats.noteAttachFailure ∨ f = Stats.noteOverflow)
      (channel : (v.relay.channel k).unqueued = (l.relay.channel k).unqueued)
      (stats : v.relay.sessions.map Session.stats =
        (l.relay.sessions.map Session.stats).modify (l.relay.channel k).session f)
  /-- The frame is written and answered for. -/
  | written (d : Delivery) (size : Written) (x : Channel) (f : Stats → Stats)
      (published : (l.relay.channel k).unqueued.publish points = .ok (d, size, x))
      (noted : f = Stats.noteHandlerFailure ∨ f = Stats.noteDelivered)
      (channel : (v.relay.channel k).unqueued = x)
      (stats : v.relay.sessions.map Session.stats =
        (l.relay.sessions.map Session.stats).modify (l.relay.channel k).session
          (f ∘ Stats.noteWritten size.truncated))

namespace Live

variable {h : Handler σ} {l l' v v' : Live σ} {k : Nat} {points : List Point}

/-- Where a delivery begins and where it ends does not matter to the reception, up to what threads
    see to. -/
theorem Alike.reception (hbefore : Alike l l') (hafter : Alike v' v)
    (hreception : Reception h l' v' k points) : Reception h l v k points := by
  cases hreception with
  | detached kept noted =>
    rw [hbefore.session, hbefore.stats] at noted
    exact .detached (hafter.host.trans (kept.trans hbefore.host)) (hafter.stats.trans noted)
  | refused refused kept noted =>
    rw [hbefore.session, hbefore.stats] at noted
    rw [hbefore.delivery?] at refused
    exact .refused refused (hafter.host.trans (kept.trans hbefore.host)) (hafter.stats.trans noted)
  | heard d delivery view answered =>
    rw [hbefore.delivery?] at delivery
    rw [hbefore.binding, hbefore.host] at answered
    exact .heard d delivery (view.trans (hbefore.view k)) (hafter.host.trans answered)

/-- Nor does it to the deposit. -/
theorem Alike.deposit (hbefore : Alike l l') (hafter : Alike v' v)
    (hdeposit : Deposit l' v' k points) : Deposit l v k points := by
  cases hdeposit with
  | dropped f noted channel stats =>
    rw [hbefore.session, hbefore.stats] at stats
    exact .dropped f noted ((hafter.channel k).trans (channel.trans (hbefore.channel k)))
      (hafter.stats.trans stats)
  | written d size x f published noted channel stats =>
    rw [hbefore.session, hbefore.stats] at stats
    rw [hbefore.channel] at published
    exact .written d size x f published noted ((hafter.channel k).trans channel)
      (hafter.stats.trans stats)

/-- The handler is called for a buffer that its host sees. -/
theorem host_handle {t : Ticket} {d : Delivery}
    (hseen : (l.relay.runtime (l.relay.channel t.channel).binding.runtime).isExposed d.view =
      true) :
    (l.handle h t d).2.host =
      (h (l.relay.channel t.channel).binding.runtime d l.host).host := by
  have hchannels := Relay.channels_enter t.channel d l.relay
  unfold handle
  rcases Relay.books_enter l.relay t.channel d with ⟨hhidden, -⟩ | ⟨-, hok, -⟩
  · exact absurd (hseen.symm.trans hhidden) (by simp)
  · generalize l.relay.enter t.channel d = result at hchannels hok ⊢
    obtain ⟨answer, w⟩ := result
    dsimp only at hchannels hok
    subst hok
    dsimp only
    rw [Relay.channel_of_channels hchannels]
    split <;> rfl

/-- A delivery ends before the handler is asked, or the handler is asked with the frame in the
    buffer of the channel. -/
theorem deliver_stages (h : Handler σ) (l : Live σ) (t : ThreadId) (k : Nat)
    (points : List Point) :
    (∃ f w, (f = Stats.noteAttachFailure ∨
          f = Stats.noteOverflow ∧ (l.relay.channel k).delivery? points = none) ∧
        (l.deliver h t k points).2 = l.withRelay w ∧ w.channels = l.relay.channels ∧
        w.sessions.map Session.stats =
          (l.relay.sessions.map Session.stats).modify (l.relay.channel k).session f) ∨
      ∃ (ticket : Ticket) (d : Delivery) (size : Written) (x : Channel) (v : Relay),
        ticket.channel = k ∧ (l.relay.channel k).publish points = .ok (d, size, x) ∧
        (l.deliver h t k points).2 = ((l.withRelay v).handle h ticket d).2 ∧
        v.channels = l.relay.channels.modify k (fun _ => x) ∧
        v.standing [] = l.relay.standing [] ∧
        v.sessions.map Session.stats =
          (l.relay.sessions.map Session.stats).modify (l.relay.channel k).session
            (Stats.noteWritten size.truncated) := by
  have hbegin := Relay.books_begin l.relay t k
  have hchannels := Relay.channels_begin t k l.relay
  have hstanding := Relay.standing_begin [] l.relay t k
  unfold deliver
  generalize l.relay.begin t k = result at hbegin hchannels hstanding ⊢
  obtain ⟨ticket?, w⟩ := result
  dsimp only at hbegin hchannels hstanding
  rcases hbegin with ⟨rfl, hbooks⟩ | ⟨ticket, rfl, rfl, hbooks⟩
  · exact .inl ⟨_, w, .inl rfl, rfl, hchannels, congrArg Books.stats hbooks⟩
  · have hchannel := Relay.channel_of_channels hchannels ticket.channel
    have hstats : w.sessions.map Session.stats = l.relay.sessions.map Session.stats :=
      congrArg Books.stats hbooks
    have hpublished := Relay.standing_publish [] w ticket.channel points
    dsimp only
    unfold Relay.publish at hpublished ⊢
    rw [hchannel] at hpublished ⊢
    cases hpublish : (l.relay.channel ticket.channel).publish points with
    | error e =>
      have hrefused : (l.relay.channel ticket.channel).delivery? points = none := by
        simp [Channel.delivery?, hpublish]
      refine .inl ⟨_, _, .inr ⟨rfl, hrefused⟩, rfl, hchannels, (Relay.stats_count _ _).trans ?_⟩
      rw [hchannel, hstats]
    | ok result =>
      obtain ⟨d, size, x⟩ := result
      rw [hpublish] at hpublished
      have hsame := hpublished.trans hstanding
      refine .inr ⟨ticket, d, size, x, _, rfl, rfl, rfl, ?_, hsame, ?_⟩
      · rw [← hchannels]
        rfl
      · refine (Relay.stats_count _ _).trans ?_
        -- The frame is counted for the session that the channel belongs to before it is written.
        have hsession : ((w.modifyChannel ticket.channel fun _ => x).channel
            ticket.channel).session = (l.relay.channel ticket.channel).session :=
          congrArg Wiring.session (Relay.wiring_of_standing hsame ticket.channel)
        rw [hsession, ← hstats]
        rfl

/-- **A delivery reaches the handler** if the host sees the buffer, unless the thread may not attach
    or the buffer has no room. -/
theorem deliver_reception (t : ThreadId) (points : List Point)
    (hvisible : l.relay.visible k = true) :
    Reception h l (l.deliver h t k points).2 k points := by
  rcases deliver_stages h l t k points with
    ⟨f, w, hf, hafter, -, hstats⟩ | ⟨ticket, d, size, x, v, rfl, hpublish, hafter, -, hsame, -⟩
  · rw [hafter]
    rcases hf with rfl | ⟨rfl, hrefused⟩
    · exact .detached rfl hstats
    · exact .refused hrefused rfl hstats
  · have hdelivery : (l.relay.channel ticket.channel).delivery? points = some d :=
      Channel.delivery?_eq_some.mpr ⟨_, _, hpublish⟩
    have hview := Channel.view_of_publish hpublish
    have hbinding : (v.channel ticket.channel).binding =
        (l.relay.channel ticket.channel).binding :=
      congrArg Wiring.binding (Relay.wiring_of_standing hsame ticket.channel)
    refine .heard d hdelivery hview ?_
    rw [hafter, ← hbinding]
    refine host_handle (l := l.withRelay v) ?_
    show (v.runtime (v.channel ticket.channel).binding.runtime).isExposed d.view = true
    unfold Relay.visible at hvisible
    unfold Runtime.isExposed at hvisible ⊢
    rw [hbinding, hview, Relay.exposed_of_standing hsame]
    exact hvisible

/-- **A frame that gets into the buffer is answered for**, if handlers answer. -/
theorem deliver_deposit (hreturns : h.Returns) (t : ThreadId) (points : List Point)
    (hk : k < l.relay.channels.length) : Deposit l (l.deliver h t k points).2 k points := by
  rcases deliver_stages h l t k points with ⟨f, w, hf, hafter, hchannels, hstats⟩ |
    ⟨ticket, d, size, x, v, rfl, hpublish, hafter, hchannels, hsame, hstats⟩
  · rw [hafter]
    refine .dropped f (hf.imp id And.left) ?_ hstats
    exact congrArg Channel.unqueued (Relay.channel_of_channels hchannels k)
  · have hwiring := Relay.wiring_of_standing hsame ticket.channel
    have hsession : (v.channel ticket.channel).session =
        (l.relay.channel ticket.channel).session := congrArg Wiring.session hwiring
    have hview : (v.channel ticket.channel).view = (l.relay.channel ticket.channel).view :=
      congrArg Wiring.view hwiring
    obtain ⟨f, hf, hbooks⟩ := handle_books h (l.withRelay v) hreturns ticket d
      ((Channel.view_of_publish hpublish).trans hview.symm)
    obtain ⟨hkept, -⟩ := handle_cases h (l.withRelay v) ticket d
    rw [hafter]
    refine .written d size x.unqueued f (Channel.publish_unqueued hpublish)
      (hf.imp id And.right) ?_ ?_
    · have hx : v.channels[ticket.channel]? = some x := by
        rw [hchannels, List.getElem?_modify_eq, List.getElem?_eq_getElem hk]
        rfl
      rw [Relay.channel_of_channels hkept]
      exact congrArg Channel.unqueued (Relay.channel_eq hx)
    · have hanswered : ((l.withRelay v).handle h ticket d).2.relay.sessions.map Session.stats =
          (v.sessions.map Session.stats).modify (v.channel ticket.channel).session f := by
        refine (congrArg Books.stats hbooks).trans ?_
        show (Books.call _ ((l.withRelay v).relay.visible ticket.channel) _).stats = _
        cases (l.withRelay v).relay.visible ticket.channel <;> rfl
      rw [hanswered, hstats, hsession, List.modify_modify_eq]

end Live

namespace World

variable {w : World σ} {e : Event} {k : Nat} {points : List Point}

/-- **A frame reaches the handler** if the host sees the buffer of its channel, unless the thread
    may not attach or the buffer has no room. -/
theorem step_reception (h : Handler σ) (hdelivered : w.delivered? e = some (k, points))
    (hvisible : w.relay.visible k = true) :
    Reception h w.toLive (w.step h e).2.toLive k points := by
  obtain ⟨l, t, hbefore, hafter⟩ := step_deliver h hdelivered
  exact hbefore.reception hafter
    (Live.deliver_reception t points ((hbefore.visible k).trans hvisible))

/-- **A frame that gets into the buffer is answered for**, if handlers answer. -/
theorem step_deposit {h : Handler σ} (hreturns : h.Returns)
    (hdelivered : w.delivered? e = some (k, points)) (hk : k < w.relay.channels.length) :
    Deposit w.toLive (w.step h e).2.toLive k points := by
  obtain ⟨l, t, hbefore, hafter⟩ := step_deliver h hdelivered
  refine hbefore.deposit hafter (Live.deliver_deposit hreturns t points ?_)
  have hlength := congrArg List.length hbefore.channels
  simp only [List.length_map] at hlength
  omega

end World

end DepthRelay
