import DepthRelay.Proofs.AbortedCalls

namespace DepthRelay

/-!
# Frames that handlers give up on

A handler that gives up leaves its frame in no count, and a dispatch thread that is lost with it
takes along what waits for it.

* `Handler.tamed` — the same handler, which fails instead: deliveries that nobody gives up on are
  alike with both (`Live.deliver_tamed`).
* `Live.deliver_abandoned` — what a delivery has counted by the time that the handler gives up.
* `Outlay`, `World.step_outlay` — everything that a step can do to the books, whatever handlers do.
-/

variable {σ : Type}

/-! ### Handlers that fail instead -/

/-- A failure instead of giving up. -/
def Reply.tame : Reply → Reply
  | .aborted _ => .failed "given up"
  | reply => reply

/-- The same handler, which fails where it would give up. -/
def Handler.tamed (h : Handler σ) : Handler σ := fun r d s =>
  { h r d s with reply := (h r d s).reply.tame }

/-- A tamed handler never gives up. -/
theorem Handler.tamed_returns (h : Handler σ) : h.tamed.Returns := by
  intro r d s reason
  unfold Handler.tamed Reply.tame
  cases (h r d s).reply <;> simp

/-- Taming a handler does not change answers in which it does not give up. -/
theorem Handler.tamed_eq {h : Handler σ} {r : Nat} {d : Delivery} {s : σ}
    (hanswered : ∀ reason, (h r d s).reply ≠ .aborted reason) : h.tamed r d s = h r d s := by
  have hreply : (h r d s).reply.tame = (h r d s).reply := by
    unfold Reply.tame
    cases hr : (h r d s).reply with
    | aborted reason => exact absurd hr (hanswered reason)
    | _ => rfl
  unfold Handler.tamed
  rw [hreply]

/-! ### One delivery -/

namespace Live

variable {h : Handler σ} {l : Live σ}

/-- A call in which it does not give up is the same when it is tamed. -/
theorem handle_tamed {t : Ticket} {d : Delivery} (hok : (l.handle h t d).1 = .ok ()) :
    l.handle h.tamed t d = l.handle h t d := by
  unfold handle at hok ⊢
  generalize l.relay.enter t.channel d = result at hok ⊢
  obtain ⟨_ | _, w⟩ := result
  · rfl
  · dsimp only at hok ⊢
    have hanswered : ∀ reason, (h (w.channel t.channel).binding.runtime d l.host).reply ≠
        .aborted reason := by
      intro reason hreply
      rw [hreply] at hok
      exact absurd hok (by simp)
    rw [Handler.tamed_eq hanswered]

/-- A delivery that nobody gives up on is as with a handler that fails instead. -/
theorem deliver_tamed {t : ThreadId} {k : Nat} {points : List Point}
    (hok : (l.deliver h t k points).1 = .ok ()) :
    l.deliver h.tamed t k points = l.deliver h t k points := by
  unfold deliver at hok ⊢
  generalize l.relay.begin t k = result at hok ⊢
  obtain ⟨_ | ticket, w⟩ := result
  · rfl
  · dsimp only at hok ⊢
    generalize w.publish k points = result at hok ⊢
    obtain ⟨_ | d, v⟩ := result
    · rfl
    · exact handle_tamed hok

/-- By the time that the handler gives up, its call is counted and the frame is not. -/
theorem handle_abandoned {t : Ticket} {d : Delivery} {reason : Abort}
    (hup : (l.handle h t d).1 = .error reason) :
    (l.handle h t d).2.relay.books =
      l.relay.books.call (l.relay.channel t.channel).binding.runtime true := by
  have henter := Relay.books_enter l.relay t.channel d
  unfold handle at hup ⊢
  rcases henter with ⟨-, henter⟩ | ⟨-, hok, hbooks⟩
  · rw [henter] at hup
    exact absurd hup (by simp)
  · generalize l.relay.enter t.channel d = result at hok hbooks hup ⊢
    obtain ⟨answer, w⟩ := result
    dsimp only at hok hbooks
    subst hok
    rw [← hbooks]
    dsimp only at hup ⊢
    cases hreply : (h (w.channel t.channel).binding.runtime d l.host).reply with
    | aborted reason => rfl
    | _ =>
      rw [hreply] at hup
      exact absurd hup (by simp)

/-- **A delivery that is given up** has counted the call and that the frame was cut. -/
theorem deliver_abandoned {t : ThreadId} {k : Nat} {points : List Point} {reason : Abort}
    (hk : k < l.relay.channels.length) (hup : (l.deliver h t k points).1 = .error reason) :
    ∃ cut, (l.deliver h t k points).2.relay.books =
      (l.relay.books.note (l.relay.channel k).session (Stats.noteWritten cut)).call
        (l.relay.channel k).binding.runtime true := by
  have hbegin := Relay.books_begin l.relay t k
  have hchannels := Relay.channels_begin t k l.relay
  unfold deliver at hup ⊢
  generalize l.relay.begin t k = result at hbegin hchannels hup ⊢
  obtain ⟨ticket?, w⟩ := result
  dsimp only at hbegin hchannels
  rcases hbegin with ⟨rfl, -⟩ | ⟨ticket, rfl, rfl, hbooks⟩
  · exact absurd hup (by simp)
  · have hchannel := Relay.channel_of_channels hchannels ticket.channel
    have hpublish := Relay.books_publish w ticket.channel points (hchannels ▸ hk)
    have hstands := Relay.standing_publish [] w ticket.channel points
    dsimp only at hup ⊢
    generalize w.publish ticket.channel points = result at hpublish hstands hup ⊢
    obtain ⟨d?, v⟩ := result
    dsimp only at hpublish hstands
    rw [hchannel, hbooks] at hpublish
    rcases hpublish with ⟨rfl, -⟩ | ⟨d, cut, rfl, -, -, hbooks'⟩
    · exact absurd hup (by simp)
    · have hbinding : (v.channel ticket.channel).binding = (l.relay.channel ticket.channel).binding :=
        (congrArg Wiring.binding (Relay.wiring_of_standing hstands ticket.channel)).trans
          (congrArg Channel.binding hchannel)
      have hcalled := handle_abandoned (l := l.withRelay v) hup
      refine ⟨cut, hcalled.trans ?_⟩
      show v.books.call (v.channel ticket.channel).binding.runtime true = _
      rw [hbooks', hbinding]

end Live

/-! ### The threads that deliver -/

namespace Books

/-- All that waits for a dispatch thread is lost with it. -/
def abandon (k : Nat) (b : Books) : Books :=
  { b with waiting := b.waiting.modify k fun x => { x with waiting := 0, alive := false } }

end Books

/-- Everything that a step can do to the books, whatever handlers do. -/
inductive Outlay (w : Relay) : Books → Prop
  | posted (b : Books) (posting : Posting w b) : Outlay w b
  /-- The handler gives up on a frame while the thread that has injected it waits. -/
  | direct (p k cut : Nat) (heard : w.listener? p = some k)
      (direct : (w.channel k).handoff = none) :
      Outlay w (((w.books.inject p).note (w.channel k).session (Stats.noteWritten cut)).call
        (w.channel k).binding.runtime true)
  /-- A dispatch thread is lost, and all that has waited for it. -/
  | lost (k cut : Nat) (q : Handoff) (queued : (w.channel k).handoff = some q)
      (pending : q.queue ≠ []) :
      Outlay w (((w.books.abandon k).note (w.channel k).session (Stats.noteWritten cut)).call
        (w.channel k).binding.runtime true)

/-- Outlays look only at channels, hosts and cameras. -/
theorem Outlay.congr {v w : Relay} {b : Books} (h : Outlay v b) (hbooks : v.books = w.books)
    (hcameras : v.cameras = w.cameras) (hchannels : v.channels = w.channels)
    (hruntimes : v.runtimes = w.runtimes) : Outlay w b := by
  have hchannel (k : Nat) : v.channel k = w.channel k := Relay.channel_of_channels hchannels k
  have hlistener (p : Nat) : v.listener? p = w.listener? p :=
    Relay.listener?_of_cameras hcameras p
  have hvisible (k : Nat) : v.visible k = w.visible k := by
    unfold Relay.visible Relay.runtime
    rw [hchannel, hruntimes]
  cases h with
  | posted _ posting =>
    refine .posted _ ?_
    cases posting with
    | same => exact .of_eq hbooks
    | channel i =>
      rw [hbooks]
      exact .channel i
    | injected p k b heard booking =>
      rw [hbooks] at booking
      exact .injected p k b (hlistener p ▸ heard) (booking.congr hchannels hruntimes)
    | dispatched k called f settlement q queued pending =>
      rw [hchannel] at settlement queued ⊢
      rw [hbooks]
      exact .dispatched k called f (hvisible k ▸ settlement) q queued pending
  | direct p k cut heard direct =>
    rw [hchannel] at direct ⊢
    rw [hbooks]
    exact .direct p k cut (hlistener p ▸ heard) direct
  | lost k cut q queued pending =>
    rw [hchannel] at queued ⊢
    rw [hbooks]
    exact .lost k cut q queued pending

namespace Relay

variable {w : Relay} {k : Nat}

/-- The frame that is taken is lost with those that follow. -/
theorem books_takeQueued?_crash {points : List Point} {v u : Relay} {f : Stats → Stats} {j r : Nat}
    (htake : w.takeQueued? k = some (points, v)) (hu : u.books = (v.books.note j f).call r true)
    (hhandoffs : u.channels.map Channel.handoff = v.channels.map Channel.handoff) :
    (u.crashQueued k).books = ((w.books.abandon k).note j f).call r true := by
  obtain ⟨q, rest, hq, -, hv⟩ := takeQueued?_eq_some htake
  have hk := (List.getElem?_eq_some_iff.mp (getElem?_of_handoff hq)).1
  have htaken : (u.channel k).handoff = some { q with queue := rest, sinking := true } := by
    have hsame : (u.channel k).handoff = (v.channel k).handoff := getD_of_map_eq hhandoffs k default
    rw [hsame, hv, channel_modifyChannel k _ w hk]
  have hcrash : (u.modifyChannel k fun x => { x with handoff := x.handoff.map .crash }).books =
      { u.books with waiting := u.books.waiting.modify k fun x =>
          { x with waiting := 0, alive := false } } := by
    let q' := Handoff.crash { q with queue := rest, sinking := true }
    have hset : (u.modifyChannel k fun x => { x with handoff := some q' }).books = _ :=
      books_setHandoff (g := fun x => { x with waiting := 0, alive := false }) htaken fun _ => rfl
    rw [← hset]
    unfold modifyChannel
    rw [modify_of_getElem? _ (getElem?_of_handoff htaken),
      modify_of_getElem? _ (getElem?_of_handoff htaken), htaken]
    rfl
  have hdequeued := (books_takeQueued? htake).2
  unfold crashQueued
  rw [books_exitThread, hcrash, hu, hdequeued]
  unfold Books.call Books.note Books.dequeue Books.abandon
  simp only [if_true, List.modify_modify_eq]
  rfl

/-- The books do not know about crashed sources. -/
theorem books_crashSource (run : Nat) (w : Relay) : (w.crashSource run).books = w.books := by
  unfold crashSource
  cases w.sessions.findIdx? fun s => s.source?.any (·.run == run) with
  | none => rfl
  | some i => exact books_endSource i run w

end Relay

namespace Live

variable {h : Handler σ} {l : Live σ} {closing : List Nat}

/-- An injected frame that nobody gives up on is as with a handler that fails instead. -/
theorem emit_tamed {t : ThreadId} {p : Nat} {points : List Point} {heard : Bool}
    (hok : (l.emit h t p points).1 = .ok heard) :
    l.emit h.tamed t p points = l.emit h t p points := by
  unfold emit at hok ⊢
  generalize l.relay.offer p points = result at hok ⊢
  obtain ⟨_ | k, v⟩ := result
  · rfl
  · dsimp only at hok ⊢
    cases hq : (v.channel k).handoff with
    | some q => rfl
    | none =>
      rw [hq] at hok
      dsimp only at hok ⊢
      have htamed (hok : ((l.withRelay v).deliver h t k points).1 = .ok ()) := deliver_tamed hok
      generalize (l.withRelay v).deliver h t k points = result at hok htamed ⊢
      obtain ⟨_ | _, m⟩ := result
      · exact absurd hok (by simp)
      · rw [htamed rfl]

/-- **An injected frame that is given up on** was for a session without a hand-off, and counts as
    written and as asked about, but not as delivered. -/
theorem emit_abandoned {t : ThreadId} {p : Nat} {points : List Point} {reason : Abort}
    (hcustody : Custody (l.relay.standing closing))
    (hup : (l.emit h t p points).1 = .error reason) :
    ∃ k cut, l.relay.listener? p = some k ∧ (l.relay.channel k).handoff = none ∧
      (l.emit h t p points).2.relay.books =
        ((l.relay.books.inject p).note (l.relay.channel k).session (Stats.noteWritten cut)).call
          (l.relay.channel k).binding.runtime true := by
  unfold emit at hup ⊢
  cases hk : l.relay.listener? p with
  | none =>
    rw [Relay.offer_of_none hk] at hup
    exact absurd hup (by simp)
  | some k =>
    have hlength := Relay.listener_lt hcustody hk
    obtain ⟨v, hoffer, hbooks, hchannels, -⟩ := Relay.offer_books points hk
    have hchannel := Relay.channel_of_channels hchannels k
    rw [hoffer] at hup ⊢
    dsimp only at hup ⊢
    rw [hchannel] at hup ⊢
    -- A frame that waits is not given up on, so that the session has no hand-off.
    cases hq : (l.relay.channel k).handoff with
    | some q =>
      rw [hq] at hup
      exact absurd hup (by simp)
    | none =>
      rw [hq] at hup
      have habandoned (hup : ((l.withRelay v).deliver h t k points).1 = .error reason) :=
        deliver_abandoned (hchannels ▸ hlength) hup
      dsimp only at hup ⊢
      generalize (l.withRelay v).deliver h t k points = result at hup habandoned ⊢
      obtain ⟨answer | _, m⟩ := result
      · obtain rfl := Except.error.inj hup
        obtain ⟨cut, hcut⟩ := habandoned rfl
        refine ⟨k, cut, rfl, hq, hcut.trans ?_⟩
        show (v.books.note (v.channel k).session _).call (v.channel k).binding.runtime true = _
        rw [hbooks, hchannel]
      · exact absurd hup (by simp)

/-- **An injected frame** is an outlay. -/
theorem emit_outlay (h : Handler σ) (l : Live σ) (hcustody : Custody (l.relay.standing closing))
    (t : ThreadId) (p : Nat) (points : List Point) :
    Outlay l.relay (l.emit h t p points).2.relay.books := by
  cases hanswer : (l.emit h t p points).1 with
  | ok heard =>
    rw [← emit_tamed hanswer]
    exact .posted _ (emit_posting h.tamed l h.tamed_returns hcustody t p points)
  | error reason =>
    obtain ⟨k, cut, hk, hdirect, hbooks⟩ := emit_abandoned hcustody hanswer
    rw [hbooks]
    exact .direct p k cut hk hdirect

/-- **A dispatch thread** makes an outlay. -/
theorem dispatch_outlay (h : Handler σ) (l : Live σ) (k : Nat) :
    Outlay l.relay (l.dispatch h k).relay.books := by
  unfold dispatch
  cases htake : l.relay.takeQueued? k with
  | none => exact .posted _ .same
  | some taken =>
    obtain ⟨points, v⟩ := taken
    -- The tamed handler does not give up, so that its frame is posted as usual.
    have hposted := dispatch_books h.tamed l h.tamed_returns k
    unfold dispatch at hposted
    rw [htake] at hposted
    obtain ⟨⟨q, hq, hpending⟩, -⟩ := Relay.books_takeQueued? htake
    have hstands := Relay.standing_takeQueued? [] l.relay htake
    have hwiring := Relay.wiring_of_standing hstands k
    have hlength : k < v.channels.length := by
      rw [Relay.length_channels_of_standing hstands]
      exact (List.getElem?_eq_some_iff.mp (Relay.getElem?_of_handoff hq)).1
    have htamed (hok : ((l.withRelay v).deliver h (.dispatch k) k points).1 = .ok ()) :=
      deliver_tamed hok
    have habandoned (reason : Abort)
        (hup : ((l.withRelay v).deliver h (.dispatch k) k points).1 = .error reason) :=
      deliver_abandoned hlength hup
    have hhandoffs := (deliver_passage h (l.withRelay v) (.dispatch k) k points).2
    dsimp only at hposted ⊢
    generalize (l.withRelay v).deliver h (.dispatch k) k points = result
      at htamed habandoned hhandoffs ⊢
    obtain ⟨reason | _, m⟩ := result
    · -- The handler has given up: the frame is lost, and what waits behind it with it.
      obtain ⟨cut, hcut⟩ := habandoned reason rfl
      have hcrashed := Relay.books_takeQueued?_crash htake hcut hhandoffs
      have hsession : (v.channel k).session = (l.relay.channel k).session :=
        congrArg Wiring.session hwiring
      have hbinding : (v.channel k).binding = (l.relay.channel k).binding :=
        congrArg Wiring.binding hwiring
      rw [show ((l.withRelay v).relay.channel k) = v.channel k from rfl, hsession, hbinding]
        at hcrashed
      show Outlay l.relay (m.relay.crashQueued k).books
      rw [hcrashed]
      exact .lost k cut q hq hpending
    · -- It has answered, and so the tamed handler has done the same.
      rw [htamed rfl] at hposted
      rcases hposted with hsame | ⟨called, f, hsettlement, ⟨q, hq, hpending⟩, hbooks⟩
      · exact .posted _ (.of_eq hsame)
      · dsimp only at hbooks ⊢
        rw [hbooks]
        exact .posted _ (.dispatched k called f hsettlement q hq hpending)

/-- **A frame of a source** is an outlay. -/
theorem wake_outlay (h : Handler σ) (l : Live σ) (hcustody : Custody (l.relay.standing closing))
    (i : Nat) (source : Source) : Outlay l.relay (l.wake h i source).relay.books := by
  have hstanding := Relay.standing_wakeSource closing l.relay i source
  have hbooks := Relay.books_wakeSource i source l.relay
  unfold wake
  cases hwake : l.relay.wakeSource i source with
  | mk produced v =>
    rw [hwake] at hstanding hbooks
    cases produced with
    | none => exact .posted _ (.of_eq hbooks)
    | some frame =>
      obtain ⟨p, points⟩ := frame
      obtain ⟨-, hcameras, hchannels, hruntimes⟩ := Relay.wakeSource_some hwake
      have houtlay := emit_outlay h (l.withRelay v) (hstanding ▸ hcustody) (.source source.run) p
        points
      have hwhole : Outlay l.relay
          ((l.withRelay v).emit h (.source source.run) p points).2.relay.books :=
        houtlay.congr hbooks hcameras hchannels hruntimes
      dsimp only
      generalize (l.withRelay v).emit h (.source source.run) p points = result at hwhole ⊢
      obtain ⟨reason | _, m⟩ := result
      · show Outlay l.relay (m.relay.crashSource source.run).books
        rw [Relay.books_crashSource]
        exact hwhole
      · exact hwhole

end Live

/-! ### Any step -/

/-- **What a step can do** to the books, whatever handlers do. -/
theorem World.step_outlay {w : World σ} (h : Handler σ) (hcustody : Custody w.standing)
    (e : Event) : Outlay w.relay (w.step h e).2.relay.books := by
  -- Where no handler is called, it does not matter which one it is.
  have hposted := step_books h.tamed h.tamed_returns hcustody e
  cases e with
  | emit worker p points => exact Live.emit_outlay h w.toLive hcustody (.worker worker) p points
  | dispatch k => exact Live.dispatch_outlay h w.toLive k
  | wake i =>
    rcases w.step_wake_cases h i with hsame | ⟨source, hafter⟩
    · rw [hsame]
      exact .posted _ .same
    · rw [hafter]
      exact Live.wake_outlay h w.toLive hcustody i source
  | _ => exact .posted _ hposted

end DepthRelay
