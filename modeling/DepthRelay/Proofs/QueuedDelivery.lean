import DepthRelay.Proofs.Outcomes

namespace DepthRelay

/-!
# Queued delivery refines synchronous delivery

What a session with one channel is worth to its handler is kept in a *ledger*.  In both modes of
delivery a ledger changes only when a frame is delivered, and then in the same way.

* `Handler.Observant` — handlers that go by what they have seen, and by nothing else.
* `Ledger` — the buffer, the counts and the deliveries; `Ledger.deliver` is one more delivery.
* `World.ledger_step`, `World.ledger_run` — a schedule delivers its frames and loses some others.
* `Episode` — a session is opened, and a schedule follows in which it is not opened again.
* `queued_refines_synchronous` — an episode with queued delivery is worth as much as one with
  synchronous delivery in which only the frames arrive that the hand-off has kept.
-/

variable {σ : Type}

/-! ### What handlers go by -/

/-- The handlers go by what they have seen of the deliveries so far, and by nothing else. -/
def Handler.Observant (h : Handler σ) : Prop :=
  ∀ r r' d d' s, d.seen = d'.seen →
    (h r d s).reply = (h r' d' s).reply ∧ (h r d s).host = (h r' d' s).host

theorem Handler.Returns.noting {h : Handler σ} (hreturns : h.Returns) : h.noting.Returns :=
  fun r d s reason => hreturns r d s.1 reason

namespace Channel

/-- What a channel has of its frames, wherever its buffer lies. -/
def contents (x : Channel) : Channel where
  policy := x.policy
  buffer := { x.buffer with address := 0 }
  nextSequence := x.nextSequence

/-- A frame goes into the buffer in the same way wherever the buffer lies. -/
theorem publish_contents (x : Channel) (points : List Point) :
    (∃ e, x.publish points = .error e ∧ x.contents.publish points = .error e) ∨
      ∃ d d' written y, x.publish points = .ok (d, written, y) ∧
        x.contents.publish points = .ok (d', written, y.contents) ∧ d.seen = d'.seen := by
  unfold publish FrameBuffer.write
  rw [show x.contents.buffer.capacity = x.buffer.capacity from rfl,
    show x.contents.policy = x.policy from rfl]
  cases x.policy.accept? x.buffer.capacity points.length with
  | none => exact .inl ⟨_, rfl, rfl⟩
  | some n => exact .inr ⟨_, _, _, _, rfl, rfl, rfl⟩

end Channel

/-! ### Ledgers -/

namespace Stats

/-- So many more frames that the hand-off dropped. -/
def noteDropped (n : Nat) (s : Stats) : Stats :=
  { s with backpressureDrops := s.backpressureDrops + n }

theorem noteWritten_noteDropped (cut n : Nat) (s : Stats) :
    (s.noteDropped n).noteWritten cut = (s.noteWritten cut).noteDropped n := by
  unfold noteWritten
  split <;> rfl

theorem noteReply_noteDropped (reply : Reply) (n : Nat) (s : Stats) :
    (s.noteDropped n).noteReply reply = (s.noteReply reply).noteDropped n := by
  cases reply <;> rfl

theorem backpressureDrops_noteWritten (cut : Nat) (s : Stats) :
    (s.noteWritten cut).backpressureDrops = s.backpressureDrops := by
  unfold noteWritten
  split <;> rfl

/-- A frame that is written and answered is not dropped. -/
theorem backpressureDrops_noteReply (reply : Reply) (cut : Nat) (s : Stats) :
    ((s.noteWritten cut).noteReply reply).backpressureDrops = s.backpressureDrops := by
  cases reply <;> exact backpressureDrops_noteWritten cut s

end Stats

/-- What a session with one channel is worth to its handler. -/
structure Ledger (σ : Type) where
  channel : Channel
  stats : Stats
  /-- What the handler remembers. -/
  host : σ
  /-- What the handler has seen. -/
  seen : List Seen

namespace Ledger

/-- Nothing has been delivered yet. -/
def fresh (settings : Settings) (host : σ) : Ledger σ where
  channel :=
    { policy := settings.overflowPolicy
      buffer := .zeros 0 settings.maxPoints.toNat }
  stats := {}
  host := host
  seen := []

/-- One more frame is delivered. -/
def deliver (h : Handler σ) (L : Ledger σ) (points : List Point) : Ledger σ :=
  match L.channel.publish points with
  | .error _ => { L with stats := L.stats.noteOverflow }
  | .ok (d, written, x) =>
    let a := h 0 d L.host
    { channel := x
      stats := (L.stats.noteWritten written.truncated).noteReply a.reply
      host := a.host
      seen := L.seen ++ [d.seen] }

/-- Frames are delivered, one after the other. -/
def deliverAll (h : Handler σ) (frames : List (List Point)) (L : Ledger σ) : Ledger σ :=
  frames.foldl (deliver h) L

/-- So many more frames were dropped by the hand-off. -/
def drop (n : Nat) (L : Ledger σ) : Ledger σ :=
  { L with stats := L.stats.noteDropped n }

variable (h : Handler σ) (L : Ledger σ)

/-- Frames that are dropped do not matter for those that are delivered. -/
theorem deliver_drop (n : Nat) (points : List Point) :
    (L.drop n).deliver h points = (L.deliver h points).drop n := by
  unfold deliver
  rw [show (L.drop n).channel = L.channel from rfl]
  cases L.channel.publish points with
  | error e => rfl
  | ok result =>
    obtain ⟨d, written, x⟩ := result
    unfold drop
    dsimp only
    rw [Stats.noteWritten_noteDropped, Stats.noteReply_noteDropped]

/-- Nor do they matter for any number of those. -/
theorem deliverAll_drop (n : Nat) (frames : List (List Point)) :
    (L.drop n).deliverAll h frames = (L.deliverAll h frames).drop n := by
  unfold deliverAll
  induction frames generalizing L with
  | nil => rfl
  | cons points frames ih => rw [List.foldl_cons, deliver_drop, ih, List.foldl_cons]

theorem deliverAll_append (frames frames' : List (List Point)) :
    L.deliverAll h (frames ++ frames') = (L.deliverAll h frames).deliverAll h frames' :=
  List.foldl_append

theorem drop_drop (m n : Nat) : (L.drop m).drop n = L.drop (m + n) := by
  simp [drop, Stats.noteDropped, Nat.add_assoc]

@[simp] theorem drop_zero : L.drop 0 = L := rfl

/-- A frame that is delivered is not dropped. -/
theorem backpressureDrops_deliver (points : List Point) :
    (L.deliver h points).stats.backpressureDrops = L.stats.backpressureDrops := by
  unfold deliver
  cases L.channel.publish points with
  | error e => rfl
  | ok result => exact Stats.backpressureDrops_noteReply _ _ _

/-- Deliveries are never dropped for backpressure. -/
theorem backpressureDrops_deliverAll (frames : List (List Point)) :
    (L.deliverAll h frames).stats.backpressureDrops = L.stats.backpressureDrops := by
  unfold deliverAll
  induction frames generalizing L with
  | nil => rfl
  | cons points frames ih => rw [List.foldl_cons, ih, backpressureDrops_deliver]

end Ledger

/-! ### The ledger of a world -/

/-- What a channel has of its frames is not in the hand-off. -/
theorem Relay.contents_setHandoff (g : Channel → Option Handoff) (j k : Nat) (w : Relay) :
    ((w.modifyChannel j fun x => { x with handoff := g x }).channel k).contents =
      (w.channel k).contents := by
  refine getD_of_map_eq (f := Channel.contents) ?_ k default
  exact map_modify_of_eq fun _ _ => rfl

/-- One session with one channel. -/
structure Relay.Sole (w : Relay) : Prop where
  session : w.sessions.length = 1
  channel : w.channels.length = 1
  pair : (w.channel 0).session = 0

namespace Relay.Sole

variable {w : Relay}

theorem session_pos (hw : w.Sole) : 0 < w.sessions.length := by
  rw [hw.session]
  exact Nat.one_pos

theorem channel_pos (hw : w.Sole) : 0 < w.channels.length := by
  rw [hw.channel]
  exact Nat.one_pos

/-- What the only channel counts, the only session counts. -/
theorem stats_count (hw : w.Sole) (f : Stats → Stats) :
    ((w.count 0 f).session 0).stats = f (w.session 0).stats := by
  unfold count
  rw [hw.pair, session_modifySession 0 _ w hw.session_pos]

/-- A hand-off may change in a relay with one channel. -/
theorem setHandoff (hw : w.Sole) (g : Channel → Option Handoff) (j : Nat) :
    (w.modifyChannel j fun x => { x with handoff := g x }).Sole where
  session := hw.session
  channel := by
    rw [← hw.channel]
    exact List.length_modify _ _ _
  pair := by
    refine Eq.trans (getD_of_map_eq (f := Channel.session) ?_ 0 default) hw.pair
    exact map_modify_of_eq fun _ _ => rfl

end Relay.Sole

/-- The ledger of the first session and its channel. -/
def Live.ledger (l : Live (σ × List (Nat × Delivery))) : Ledger σ where
  channel := (l.relay.channel 0).contents
  stats := (l.relay.session 0).stats
  host := l.host.1
  seen := l.host.2.map fun (_, d) => d.seen

namespace Live

variable {h : Handler σ} {l : Live (σ × List (Nat × Delivery))}

/-- A ledger shows no more than the channel's contents, the counts and what the hosts know. -/
theorem ledger_congr {l' : Live (σ × List (Nat × Delivery))}
    (hchannel : (l'.relay.channel 0).contents = (l.relay.channel 0).contents)
    (hstats : (l'.relay.session 0).stats = (l.relay.session 0).stats) (hhost : l'.host = l.host) :
    l'.ledger = l.ledger := by
  unfold ledger
  rw [hchannel, hstats, hhost]

/-- **A delivery, in the ledger.** -/
theorem ledger_deliver (hreturns : h.Returns) (hobservant : h.Observant) (hsole : l.relay.Sole)
    (hclear : l.relay.Clear 0) (t : ThreadId) (points : List Point) :
    (l.deliver h.noting t 0 points).2.ledger = l.ledger.deliver h points := by
  obtain ⟨as, runtimes, -, hafter⟩ := deliver_eq hreturns.noting hclear t points
  rw [hafter]
  unfold Ledger.deliver
  rw [show l.ledger.channel = (l.relay.channel 0).contents from rfl]
  rcases (l.relay.channel 0).publish_contents points with
    ⟨e, herror, herror'⟩ | ⟨d, d', written, y, hok, hok', hseen⟩
  · rw [herror, herror']
    have hstats := Relay.Sole.stats_count
      (w := { l.relay with attachments := as, runtimes := runtimes })
      ⟨hsole.session, hsole.channel, hsole.pair⟩ Stats.noteOverflow
    exact congrArg (Ledger.mk _ · _ _) hstats
  · rw [hok, hok', hsole.pair]
    dsimp only
    -- What the handler answers and remembers depends on what it sees alone.
    obtain ⟨hreply, hhost⟩ :=
      hobservant (l.relay.channel 0).binding.runtime 0 d d' l.host.1 hseen
    generalize hv : ({ l.relay with
      attachments := as
      runtimes := runtimes
      now := l.relay.now + (h.noting (l.relay.channel 0).binding.runtime d l.host).elapsed } :
        Relay) = v
    have hsole' : v.Sole := hv ▸ ⟨hsole.session, hsole.channel, hsole.pair⟩
    have hstats : (v.session 0).stats = (l.relay.session 0).stats := hv ▸ rfl
    unfold ledger
    dsimp only
    rw [Relay.channel_modifySession, Relay.channel_modifyChannel 0 _ _ hsole'.channel_pos,
      Relay.session_modifySession 0 _ (v.modifyChannel 0 _) hsole'.session_pos,
      Session.stats_receive]
    unfold Handler.noting
    dsimp only
    rw [Relay.session_modifyChannel, hstats, hreply, hhost, List.map_append, ← hseen]
    rfl

/-- An injected frame, in the ledger: it is delivered, left in the hand-off, or dropped. -/
theorem ledger_emit (hreturns : h.Returns) (hobservant : h.Observant) (hsole : l.relay.Sole)
    {closing : List Nat} (hcustody : Custody (l.relay.standing closing)) (t : ThreadId) (p : Nat)
    (points : List Point)
    (hclear : l.relay.listener? p = some 0 → (l.relay.channel 0).handoff = none →
      l.relay.Clear 0) :
    (l.emit h.noting t p points).2.ledger =
      match l.relay.listener? p with
      | none => l.ledger
      | some _ =>
        if (l.relay.channel 0).handoff.isNone then l.ledger.deliver h points
        else if l.relay.keeps 0 points then l.ledger
        else l.ledger.drop 1 := by
  rw [emit_eq hreturns.noting]
  cases hk : l.relay.listener? p with
  | none => rfl
  | some k =>
    -- There is one channel, so that whoever listens is served by it.
    have hlt := Relay.listener_lt hcustody hk
    rw [hsole.channel] at hlt
    obtain rfl : k = 0 := by omega
    dsimp only
    cases hq : (l.relay.channel 0).handoff with
    | none =>
      rw [Option.isNone_none, if_pos rfl]
      exact ledger_deliver (l := l.withRelay (l.relay.noteEmitted p)) hreturns hobservant
        ⟨hsole.session, hsole.channel, hsole.pair⟩ (hclear hk hq) t points
    | some q =>
      have hkeeps : l.relay.keeps 0 points = decide ((q.submit points).1 = .queued) := by
        simp [Relay.keeps, hq]
      rw [Option.isNone_some, if_neg (by simp), hkeeps]
      dsimp only
      unfold Relay.submit
      -- To set the hand-off changes neither contents nor counts.
      have hcontents (q' : Handoff) :=
        Relay.contents_setHandoff (fun _ => some q') 0 0 (l.relay.noteEmitted p)
      cases q.submit points with
      | mk status q' =>
        cases status with
        | queued =>
          rw [decide_eq_true rfl, if_pos rfl]
          exact ledger_congr (hcontents q') rfl rfl
        | dropped =>
          rw [decide_eq_false (by simp), if_neg (by simp)]
          have hsole' : (l.relay.noteEmitted p).Sole := ⟨hsole.session, hsole.channel, hsole.pair⟩
          have hstats := (hsole'.setHandoff (fun _ => some q') 0).stats_count Stats.noteBackpressure
          exact congrArg₂ (Ledger.mk · · _ _) (hcontents q') hstats

/-- The dispatch thread, in the ledger. -/
theorem ledger_dispatch (hreturns : h.Returns) (hobservant : h.Observant) (hsole : l.relay.Sole)
    (k : Nat) (hclear : ∀ points v, l.relay.takeQueued? k = some (points, v) → l.relay.Clear k) :
    (l.dispatch h.noting k).ledger =
      match l.relay.takeQueued? k with
      | none => l.ledger
      | some (points, _) => l.ledger.deliver h points := by
  rw [dispatch_eq hreturns.noting]
  cases htake : l.relay.takeQueued? k with
  | none => rfl
  | some taken =>
    obtain ⟨points, v⟩ := taken
    have hclear' := (hclear points v htake).takeQueued? htake
    obtain ⟨q, rest, hq, -, rfl⟩ := Relay.takeQueued?_eq_some htake
    have hlt := (List.getElem?_eq_some_iff.mp (Relay.getElem?_of_handoff hq)).1
    rw [hsole.channel] at hlt
    obtain rfl : k = 0 := by omega
    dsimp only
    generalize hv : (l.relay.modifyChannel 0 fun x =>
      { x with handoff := some { q with queue := rest, sinking := true } }) = v at hclear'
    have hsole' : v.Sole := hv ▸ hsole.setHandoff _ 0
    have hledger : (l.withRelay v).ledger = l.ledger :=
      hv ▸ ledger_congr (Relay.contents_setHandoff _ 0 0 l.relay) rfl rfl
    rw [← hledger, ← ledger_deliver hreturns hobservant hsole' hclear' (.dispatch 0) points]
    exact ledger_congr (Relay.contents_setHandoff _ 0 0 _) rfl rfl

end Live

/-! ### Schedules without openings -/

/-- Neither an opening, nor a host that begins to refuse threads. -/
def Event.steady : Event → Bool
  | .operate _ (.openCamera _ _ _) => false
  | .disableAttach _ on => !on
  | _ => true

/-- A session with a channel and a host of its own, which is calm. -/
structure World.Tended (settings : Settings) {τ : Type} (w : World τ) : Prop where
  custody : Custody w.standing
  secluded : Secluded 0 0 settings (fun _ => true) w.standing
  fed : w.Fed
  calm : w.relay.Calm
  sole : w.relay.Sole

namespace World

section

variable {τ : Type} {w : World τ} {settings : Settings} {h : Handler τ}

/-- Frames are delivered on the only channel, and nothing stands in their way. -/
theorem Tended.clear (hw : w.Tended settings) {e : Event} {k : Nat} {points : List Point}
    (hdelivered : w.delivered? e = some (k, points)) : k = 0 ∧ w.relay.Clear k := by
  obtain ⟨j, s, o, hs, ho, rfl⟩ := holder_of_delivered? hw.custody hw.fed.attended hdelivered
  obtain ⟨x, hx, hserves⟩ := Relay.wired_of_custody hw.custody hs ho
  have hchannel := (List.getElem?_eq_some_iff.mp hx).1
  rw [hw.sole.channel] at hchannel
  have hzero : o.channel = 0 := by omega
  have hsession : x.session = 0 := by
    rw [← hw.sole.pair, ← hzero, Relay.channel_eq hx]
  obtain rfl : j = 0 := hserves.session.symm.trans hsession
  exact ⟨hzero, hw.calm.clear (visible_of_secluded hw.secluded hs ho hx hsession)⟩

/-- **A step** tends the session as before. -/
theorem Tended.step (hw : w.Tended settings) (hreturns : h.Returns) {e : Event}
    (hsteady : e.steady = true) : (w.step h e).2.Tended settings := by
  have hshift := step_shift h e hw.custody
  have hunreached : ∀ i p, ¬e.Reaches w.relay i p := by
    rintro i p ⟨-, d, key, address, rfl, -⟩
    exact absurd hsteady (by simp [Event.steady])
  have hsessions : (w.step h e).2.relay.sessions.length = w.relay.sessions.length := by
    simpa [standing, Relay.standing] using hshift.length_sessions
  have hchannels : (w.step h e).2.relay.channels.map Channel.wiring =
      w.relay.channels.map Channel.wiring := hshift.channels_of_unreached hunreached
  refine ⟨hw.custody.shift hshift, ?_, hw.fed.step h hreturns hw.custody e, ?_, ?_, ?_, ?_⟩
  · exact hw.secluded.shift hw.custody (fun j p hreach => absurd hreach (hunreached j p)) hshift
  · refine calm_step hreturns hw.custody hw.calm ?_ fun k points hd => (hw.clear hd).2
    rintro r rfl
    exact absurd hsteady (by simp [Event.steady])
  · exact hsessions.trans hw.sole.session
  · have hlength := congrArg List.length hchannels
    rw [List.length_map, List.length_map] at hlength
    exact hlength.trans hw.sole.channel
  · have hwiring := getD_of_map_eq hchannels 0 default
    exact (congrArg Wiring.session hwiring).trans hw.sole.pair

end

/-- The frame that a step takes to a channel and that is dropped there. -/
def lost? {τ : Type} (e : Event) (w : World τ) : Option (Nat × List Point) :=
  (w.arrived? e).filter fun (k, points) => !w.relay.keeps k points

variable {w : World (σ × List (Nat × Delivery))} {settings : Settings} {h : Handler σ}

/-- What a ledger shows of a relay is not changed. -/
theorem ledger_of_books {v : Relay}
    (hcontents : (v.channel 0).contents = (w.relay.channel 0).contents)
    (hbooks : v.books.stats = w.relay.books.stats) :
    (w.toLive.withRelay v).ledger = w.toLive.ledger :=
  Live.ledger_congr hcontents (getD_of_map_eq hbooks 0 default) rfl

/-- A step that has nothing to do with frames does not show in the ledger. -/
theorem ledger_of_idle {e : Event} (hinjected : w.injected? e = none)
    (hdispatch : ∀ k, e ≠ .dispatch k) {v : Live (σ × List (Nat × Delivery))}
    (hv : v.ledger = w.toLive.ledger) :
    v.ledger = (w.toLive.ledger.deliverAll h (onChannel 0 (w.delivered? e))).drop
      (onChannel 0 (w.lost? e)).length := by
  have harrived : w.arrived? e = none := by simp [arrived?, hinjected]
  have hlost : w.lost? e = none := by simp [lost?, harrived]
  have hdelivered : w.delivered? e = none := by
    unfold delivered?
    split
    · next k => exact absurd rfl (hdispatch k)
    · simp [harrived]
  rw [hlost, hdelivered, hv]
  rfl

/-- A step that injects a frame, in the ledger; `v` is the relay in which it is injected. -/
theorem ledger_of_injected (hw : w.Tended settings) (hreturns : h.Returns)
    (hobservant : h.Observant) {e : Event} (hdispatch : ∀ k, e ≠ .dispatch k) {p : Nat}
    {points : List Point} (hinjected : w.injected? e = some (p, points)) {v : Relay}
    (hstanding : v.standing w.closing = w.standing) (hbooks : v.books = w.relay.books)
    (hcameras : v.cameras = w.relay.cameras) (hchannels : v.channels = w.relay.channels)
    (hruntimes : v.runtimes = w.relay.runtimes) (t : ThreadId) :
    ((w.toLive.withRelay v).emit h.noting t p points).2.ledger =
      (w.toLive.ledger.deliverAll h (onChannel 0 (w.delivered? e))).drop
        (onChannel 0 (w.lost? e)).length := by
  -- Whatever has changed on the way, the frame finds the same listener and the same channel.
  have hlistener : v.listener? p = w.relay.listener? p := Relay.listener?_of_cameras hcameras p
  have hchannel := Relay.channel_of_channels hchannels
  have hsole : v.Sole := by
    refine ⟨?_, ?_, ?_⟩
    · have hlength := congrArg (fun b => b.stats.length) hbooks
      simp only [Relay.books, List.length_map] at hlength
      exact hlength.trans hw.sole.session
    · rw [hchannels]
      exact hw.sole.channel
    · rw [hchannel]
      exact hw.sole.pair
  have hledger : (w.toLive.withRelay v).ledger = w.toLive.ledger :=
    ledger_of_books (by rw [hchannel]) (by rw [hbooks])
  have harrived : w.arrived? e = (w.relay.listener? p).map fun k => (k, points) := by
    simp [arrived?, hinjected]
  have hdelivered : w.delivered? e =
      (w.arrived? e).filter fun (k, _) => (w.relay.channel k).handoff.isNone := by
    unfold delivered?
    split
    · next k => exact absurd rfl (hdispatch k)
    · rfl
  have hcustody : Custody (v.standing w.closing) := hstanding.symm ▸ hw.custody
  rw [Live.ledger_emit (l := w.toLive.withRelay v) hreturns hobservant hsole hcustody, hledger]
  · show (match v.listener? p with | none => _ | some _ => _) = _
    rw [hlistener]
    unfold lost?
    rw [hdelivered, harrived]
    -- There is one channel only: the listener is served by it, or nobody listens.
    cases hk : w.relay.listener? p with
    | none => rfl
    | some k =>
      have hlt := Relay.listener_lt hw.custody hk
      rw [hw.sole.channel] at hlt
      obtain rfl : k = 0 := by omega
      have hkeeps : (w.toLive.withRelay v).relay.keeps 0 points = w.relay.keeps 0 points := by
        show v.keeps 0 points = _
        unfold Relay.keeps
        rw [hchannel]
      dsimp only [Option.map_some]
      rw [onChannel_filter, onChannel_filter, hkeeps]
      show (if (v.channel 0).handoff.isNone = true then _ else _) = _
      rw [hchannel]
      -- Without a hand-off the frame is delivered at once; with one it waits or is lost.
      cases hq : (w.relay.channel 0).handoff with
      | none =>
        have hkept : w.relay.keeps 0 points = true := by simp [Relay.keeps, hq]
        simp [hkept, Ledger.deliverAll]
      | some q =>
        cases hkept : w.relay.keeps 0 points with
        | true => simp [Ledger.deliverAll]
        | false => simp [Ledger.deliverAll]
  · intro hk hq
    refine Relay.Clear.congr (hw.clear (delivered?_of_listener hdispatch hinjected ?_ ?_)).2
      hchannels hruntimes
    · exact hlistener ▸ hk
    · exact hchannel 0 ▸ hq

/-- A call that a session makes does not show in the ledger. -/
theorem ledger_operate (hw : w.Tended settings) (i : Nat) (op : Operation)
    (hlength : (w.step h.noting (.operate i op)).2.relay.channels.length = 1) :
    (w.step h.noting (.operate i op)).2.toLive.ledger =
      (w.toLive.ledger.deliverAll h (onChannel 0 (w.delivered? (.operate i op)))).drop
        (onChannel 0 (w.lost? (.operate i op))).length := by
  rcases w.step_operate_cases h.noting i op with hsame | ⟨hi, -, hafter⟩
  · rw [hsame]
    exact ledger_of_idle rfl (by simp) rfl
  · rw [hafter] at hlength ⊢
    refine ledger_of_idle rfl (by simp) (ledger_of_books ?_ ?_)
    · rcases Relay.perform_channels op hw.custody (List.getElem?_eq_getElem hi) with
        hsame | ⟨-, -, -, b, -, -, -, hnew⟩
      · rw [Relay.channel_of_channels hsame]
      · -- There would be a second channel.
        have hmore : (op.perform i w.relay).2.channels.length = 1 := hlength
        rw [hnew, List.length_append, hw.sole.channel] at hmore
        exact absurd hmore (by simp)
    · rcases Relay.perform_books op hw.custody hi with hsame | hchannel
      · rw [hsame]
      · rw [hchannel]
        rfl

/-- A source that wakes up, in the ledger. -/
theorem ledger_wake (hw : w.Tended settings) (hreturns : h.Returns) (hobservant : h.Observant)
    (i : Nat) :
    (w.step h.noting (.wake i)).2.toLive.ledger =
      (w.toLive.ledger.deliverAll h (onChannel 0 (w.delivered? (.wake i)))).drop
        (onChannel 0 (w.lost? (.wake i))).length := by
  unfold step
  dsimp only
  cases hsource : (w.relay.session i).source? with
  | none => exact ledger_of_idle (by simp [injected?, hsource]) (by simp) rfl
  | some source =>
    show (w.toLive.wake h.noting i source).ledger = _
    have hinjected := injected?_wake hsource
    have hchannels := Relay.channels_wakeSource i source w.relay
    have hbooks := Relay.books_wakeSource i source w.relay
    have hstanding := Relay.standing_wakeSource w.closing w.relay i source
    rw [Live.wake_eq hreturns.noting]
    cases hwake : w.relay.wakeSource i source with
    | mk produced v =>
      rw [hwake] at hinjected hchannels hbooks hstanding
      cases produced with
      | none =>
        refine ledger_of_idle hinjected (by simp) (ledger_of_books ?_ ?_)
        · rw [Relay.channel_of_channels hchannels]
        · rw [hbooks]
      | some frame =>
        obtain ⟨p, points⟩ := frame
        obtain ⟨-, hcameras, -, hruntimes⟩ := Relay.wakeSource_some hwake
        exact ledger_of_injected hw hreturns hobservant (by simp) hinjected hstanding hbooks
          hcameras hchannels hruntimes _

/-- **A step in the ledger**: the frame that it delivers is delivered, and the one that it loses is
    dropped. -/
theorem ledger_step (hw : w.Tended settings) (hreturns : h.Returns) (hobservant : h.Observant)
    {e : Event} (hsteady : e.steady = true) :
    (w.step h.noting e).2.toLive.ledger =
      (w.toLive.ledger.deliverAll h (onChannel 0 (w.delivered? e))).drop
        (onChannel 0 (w.lost? e)).length := by
  -- There is one channel before and after, so an operation cannot open another one.
  have hlength := (hw.step hreturns.noting hsteady).sole.channel
  cases e with
  | operate i op => exact ledger_operate hw i op hlength
  | beginClose i =>
    rcases step_beginClose_cases h.noting hw.custody i with hsame | ⟨s, o, c, hs, ho, hc, hafter⟩
    · rw [hsame]
      exact ledger_of_idle rfl (by simp) rfl
    · rw [hafter]
      refine ledger_of_idle rfl (by simp) (ledger_of_books (v := w.relay.beginClose i) ?_ ?_)
      · rw [Relay.beginClose_eq hs ho hc, Relay.contents_setHandoff]
        show ((w.relay.exitSource _).channel 0).contents = _
        rw [Relay.channel_of_channels (Relay.channels_exitSource _ _)]
      · rw [Relay.books_beginClose hs ho hc]
  | endClose i =>
    rcases step_endClose_cases h.noting hw.custody i with
      hsame | ⟨-, -, s, o, c, hs, ho, hc, hafter⟩
    · rw [hsame]
      exact ledger_of_idle rfl (by simp) rfl
    · rw [hafter]
      refine ledger_of_idle rfl (by simp) (ledger_of_books (v := w.relay.endClose i) ?_ ?_)
      · rw [Relay.endClose_eq hs ho hc]
        show (((w.relay.exitThread _).exitSource _).channel 0).contents = _
        rw [Relay.channel_of_channels (Relay.channels_exitSource _ _)]
        rfl
      · rw [Relay.books_endClose hs ho hc]
  | emit worker camera points =>
    exact ledger_of_injected (v := w.relay) hw hreturns hobservant (by simp) rfl rfl rfl rfl rfl rfl
      (.worker worker)
  | dispatch k =>
    show (w.toLive.dispatch h.noting k).ledger = _
    -- A dispatch thread loses nothing: what it takes out, it delivers.
    have hlost : w.lost? (.dispatch k) = none := rfl
    rw [Live.ledger_dispatch hreturns hobservant hw.sole k, hlost]
    · unfold delivered?
      dsimp only
      cases htake : w.relay.takeQueued? k with
      | none => rfl
      | some taken =>
        have hdelivered : w.delivered? (.dispatch k) = some (k, taken.1) := by
          simp [delivered?, htake]
        -- What is taken out comes from the only channel, so that it is the one of the ledger.
        obtain ⟨rfl, -⟩ := hw.clear hdelivered
        rfl
    · intro points v htake
      have hdelivered : w.delivered? (.dispatch k) = some (k, points) := by
        simp [delivered?, htake]
      exact (hw.clear hdelivered).2
  | wake i => exact ledger_wake hw hreturns hobservant i
  | exitWorker worker =>
    refine ledger_of_idle rfl (by simp) (ledger_of_books rfl ?_)
    rw [Relay.books_exitThread]
  | fail camera op s => exact ledger_of_idle rfl (by simp) rfl
  | clearFaults camera => exact ledger_of_idle rfl (by simp) rfl
  | disableAttach r on => exact ledger_of_idle rfl (by simp) rfl
  | refuseBuffers r fault => exact ledger_of_idle rfl (by simp) rfl
  | pass nanos => exact ledger_of_idle rfl (by simp) rfl

/-- **A schedule in the ledger.** -/
theorem ledger_run (hw : w.Tended settings) (hreturns : h.Returns) (hobservant : h.Observant)
    (events : List Event) (hsteady : ∀ e ∈ events, e.steady = true) :
    (w.run h.noting events).Tended settings ∧
      (w.run h.noting events).toLive.ledger =
        (w.toLive.ledger.deliverAll h (frames delivered? h.noting 0 events w)).drop
          (frames lost? h.noting 0 events w).length := by
  induction events generalizing w with
  | nil => exact ⟨hw, rfl⟩
  | cons e events ih =>
    have he := hsteady e List.mem_cons_self
    obtain ⟨htended, hledger⟩ := ih (hw.step hreturns.noting he)
      fun x hx => hsteady x (List.mem_cons_of_mem e hx)
    refine ⟨htended, ?_⟩
    show ((w.step h.noting e).2.run h.noting events).toLive.ledger = _
    rw [hledger, ledger_step hw hreturns hobservant he]
    rw [frames, frames, Ledger.deliverAll_append, Ledger.deliverAll_drop, Ledger.drop_drop,
      List.length_append]

end World

/-! ### What arrives, what is kept, and what is delivered -/

namespace World

variable {τ : Type} {w : World τ} {settings : Settings} {h : Handler τ} {events : List Event}

/-- What arrives is kept or lost. -/
theorem length_arrived (h : Handler τ) (k : Nat) (events : List Event) (w : World τ) :
    (frames arrived? h k events w).length =
      (frames kept? h k events w).length + (frames lost? h k events w).length := by
  induction events generalizing w with
  | nil => rfl
  | cons e events ih =>
    have hone : (onChannel k (w.arrived? e)).length =
        (onChannel k (w.kept? e)).length + (onChannel k (w.lost? e)).length := by
      unfold kept? lost?
      cases w.arrived? e with
      | none => rfl
      | some frame =>
        obtain ⟨j, points⟩ := frame
        rw [onChannel_filter, onChannel_filter, onChannel_some]
        by_cases hj : j = k
        · subst hj
          cases hkeeps : w.relay.keeps j points <;> simp [hkeeps]
        · simp [hj]
    rw [frames, frames, frames, List.length_append, List.length_append, List.length_append, hone,
      ih]
    omega

/-- The dispatch thread lives, and waits for a session that holds a camera if for any. -/
theorem Tended.lane (hw : w.Tended settings) :
    (w.relay.lane 0).2 = true ∧
      ((w.relay.lane 0).1 ≠ [] → ∃ (j : Nat) (s : Session) (o : OpenCamera),
        w.standing.sessions[j]? = some s ∧ s.camera = some o ∧ o.channel = 0) := by
  have hx : w.relay.channels[0]? = some (w.relay.channel 0) := by
    rw [Relay.channel_eq (List.getElem?_eq_getElem hw.sole.channel_pos)]
    exact List.getElem?_eq_getElem hw.sole.channel_pos
  have htally : w.relay.books.waiting[0]? = some (w.relay.channel 0).tally := by
    simp [Relay.books, hx]
  obtain ⟨halive, hwaiting⟩ := hw.fed 0 _ htally
  unfold Relay.lane Channel.lane
  cases hq : (w.relay.channel 0).handoff with
  | none => exact ⟨rfl, fun hne => absurd rfl hne⟩
  | some q =>
    simp only [Channel.tally, hq, Option.elim_some] at halive hwaiting
    refine ⟨halive, fun hne => hwaiting ?_⟩
    simpa using hne

/-- A dispatch thread that lives delivers what is kept, but for what still waits. -/
theorem Tended.delivered_append_lane (hw : w.Tended settings) (hreturns : h.Returns)
    (hsteady : ∀ e ∈ events, e.steady = true) :
    (w.relay.lane 0).1 ++ frames kept? h 0 events w =
      frames delivered? h 0 events w ++ ((w.run h events).relay.lane 0).1 := by
  induction events generalizing w with
  | nil => exact List.append_nil _
  | cons e events ih =>
    have hw' := hw.step hreturns (hsteady e List.mem_cons_self)
    have hrest := ih hw' fun x hx => hsteady x (List.mem_cons_of_mem e hx)
    have halive := hw'.lane.1
    rw [frames, frames]
    rcases step_lane h e hw.custody 0 with ⟨-, hqueue, -⟩ | ⟨hlost, -⟩
    · rw [← List.append_assoc, hqueue, List.append_assoc, hrest, List.append_assoc]
      rfl
    · rw [hlost] at halive
      exact absurd halive (by simp)

/-- Nothing waits for a session that is closed. -/
theorem Tended.lane_of_closed (hw : w.Tended settings)
    (hclosed : (w.relay.session 0).state = .closed) : (w.relay.lane 0).1 = [] := by
  refine Classical.byContradiction fun hne => ?_
  obtain ⟨j, s, o, hs, ho, -⟩ := hw.lane.2 hne
  have hj : j < w.relay.sessions.length := by
    simpa [standing, Relay.standing] using (List.getElem?_eq_some_iff.mp hs).1
  rw [hw.sole.session] at hj
  obtain rfl : j = 0 := by omega
  have hstate : s.state = .closed := by
    simp only [standing, Relay.standing, List.getElem?_map, Option.map_eq_some_iff] at hs
    obtain ⟨t, ht, rfl⟩ := hs
    rw [Relay.session_eq ht] at hclosed
    exact hclosed
  exact absurd ((hw.custody.closed 0 s hs).mp hstate) (by simp [ho])

/-- In synchronous delivery whatever arrives is delivered, and nothing is lost. -/
theorem Tended.frames_of_synchronous (hw : w.Tended settings) (hreturns : h.Returns)
    (hmode : settings.delivery = .synchronous) (hsteady : ∀ e ∈ events, e.steady = true) :
    frames delivered? h 0 events w = frames arrived? h 0 events w ∧
      frames lost? h 0 events w = [] := by
  induction events generalizing w with
  | nil => exact ⟨rfl, rfl⟩
  | cons e events ih =>
    obtain ⟨hdelivered, hlost⟩ := ih (hw.step hreturns (hsteady e List.mem_cons_self))
      fun x hx => hsteady x (List.mem_cons_of_mem e hx)
    have hdirect : (w.relay.channel 0).handoff = none := by
      obtain ⟨x, hx⟩ : ∃ x, w.relay.channels[0]? = some x :=
        ⟨_, List.getElem?_eq_getElem hw.sole.channel_pos⟩
      have hsession : x.session = 0 := by
        rw [← Relay.channel_eq hx]
        exact hw.sole.pair
      have hqueued := ((of_secluded hw.secluded hx).2 hsession).2
      rw [Relay.channel_eq hx]
      simpa [hmode] using hqueued
    have hone : onChannel 0 (w.delivered? e) = onChannel 0 (w.arrived? e) ∧
        onChannel 0 (w.lost? e) = [] := by
      unfold lost? delivered?
      split
      · next k =>
        -- There is no hand-off from which a frame could be taken.
        have hnone : w.relay.takeQueued? k = none := by
          cases htake : w.relay.takeQueued? k with
          | none => rfl
          | some taken =>
            have hdelivered : w.delivered? (.dispatch k) = some (k, taken.1) := by
              simp [delivered?, htake]
            obtain ⟨rfl, -⟩ := hw.clear hdelivered
            simp [Relay.takeQueued?, hdirect] at htake
        rw [hnone]
        exact ⟨rfl, rfl⟩
      · cases w.arrived? e with
        | none => exact ⟨rfl, rfl⟩
        | some frame =>
          obtain ⟨j, points⟩ := frame
          rw [onChannel_filter, onChannel_filter, onChannel_some]
          by_cases hj : j = 0
          · subst hj
            simp [hdirect, Relay.keeps]
          · simp [hj]
    rw [frames, frames, frames, hone.1, hone.2, hdelivered, hlost]
    exact ⟨rfl, rfl⟩

end World

/-! ### Episodes -/

/-- A session with a host of its own opens a camera, and a schedule follows. -/
structure Episode where
  profiles : List CameraProfile
  now : Nat
  descriptor : Descriptor
  key : UInt32
  address : Nat
  events : List Event

namespace Episode

section

variable {τ : Type} (h : Handler τ) (settings : Settings) (host : τ) (x : Episode)

def opening : Event := .operate 0 (.openCamera x.descriptor x.key x.address)

/-- The world once the session has tried to open the camera. -/
def opened : World τ := ((World.solo x.profiles settings host x.now).step h x.opening).2

/-- The world after the episode. -/
def after : World τ := (x.opened h settings host).run h x.events

/-- The camera is opened, and not again after that; no thread is refused. -/
structure Valid : Prop where
  opens : ((World.solo x.profiles settings host x.now).step h x.opening).1 =
    .answered (.unit (.ok ()))
  steady : ∀ e ∈ x.events, e.steady = true

/-- The frames of one kind on the channel of the session. -/
def frames (pick : Event → World τ → Option (Nat × List Point)) : List (List Point) :=
  World.frames pick h 0 x.events (x.opened h settings host)

variable {h settings host x}

/-- What an opening has done that is answered well. -/
theorem Valid.opened_eq (hvalid : x.Valid h settings host) :
    let w := World.solo x.profiles settings host x.now
    ∃ p c rate b r, w.relay.cameras[p]? = some c ∧
      FrameBuffer.ofCapacity x.address settings.maxPoints.toNat = .ok b ∧
      x.opened h settings host = w.setRelay (w.relay.opened 0 p c rate b r) := by
  intro w
  have hready : w.ready 0 = true := rfl
  have hopens : (w.step h x.opening).1 = .answered (.unit (.ok ())) := hvalid.opens
  have hcases := Relay.openSession_cases x.descriptor x.key x.address 0 w.relay
  unfold opened
  show ∃ p c rate b r, _ ∧ _ ∧ (w.step h x.opening).2 = _
  unfold World.step opening Operation.perform at hopens ⊢
  dsimp only [Prod.map] at hopens ⊢
  rw [if_pos hready] at hopens ⊢
  generalize w.relay.openSession x.descriptor x.key x.address 0 = result at hopens hcases ⊢
  obtain ⟨answer, v⟩ := result
  dsimp only at hopens hcases ⊢
  cases hcases with
  | refused e => exact absurd hopens (by simp)
  | undone e => exact absurd hopens (by simp)
  | done p c rate b r _ found _ _ _ room => exact ⟨p, c, rate, b, r, found, room, rfl⟩

/-- The session is tended once it has opened a camera. -/
theorem Valid.tended_opened (hvalid : x.Valid h settings host) (hreturns : h.Returns) :
    (x.opened h settings host).Tended settings := by
  have hstart : (World.solo x.profiles settings host x.now).Conserving 0 0 settings
      (fun _ => true) x.profiles := by
    refine World.conserving_fresh x.profiles 1 [(0, settings)] host x.now rfl Nat.one_pos ?_
    intro j s hj
    have hlt := (List.getElem?_eq_some_iff.mp hj).1
    simp only [List.length_singleton] at hlt
    omega
  have hopened := hstart.step h hreturns x.opening (by
    rintro j p ⟨hj, -⟩
    have hlt : j < 1 := hj
    simp only [true_iff]
    omega)
  have hcalm : (World.solo x.profiles settings host x.now).relay.Calm := by
    intro r hr
    obtain rfl := (List.mem_replicate.mp hr).2
    exact ⟨rfl, rfl⟩
  refine ⟨hopened.custody, hopened.secluded, hopened.fed, ?_, ?_⟩
  · exact World.calm_step hreturns hstart.custody hcalm (by simp [opening]) (by
      simp [World.delivered?, World.arrived?, World.injected?, opening])
  · obtain ⟨p, c, rate, b, r, found, -, hafter⟩ := hvalid.opened_eq
    rw [hafter]
    exact ⟨rfl, rfl, rfl⟩

/-- When a session opens, nothing waits in its lane. -/
theorem Valid.lane_opened (hvalid : x.Valid h settings host) :
    ((x.opened h settings host).relay.lane 0).1 = [] := by
  obtain ⟨p, c, rate, b, r, -, -, hafter⟩ := hvalid.opened_eq
  rw [hafter]
  exact congrArg Prod.fst
    (Relay.lane_newChannel 0 b (World.solo x.profiles settings host x.now).relay)

end

/-- Nothing has been delivered when the camera has just been opened. -/
theorem Valid.ledger_opened {h : Handler σ} {settings : Settings} {host : σ} {x : Episode}
    (hvalid : x.Valid h.noting settings (host, [])) :
    (x.opened h.noting settings (host, [])).toLive.ledger = .fresh settings host := by
  obtain ⟨p, c, rate, b, r, -, room, hafter⟩ := hvalid.opened_eq
  rw [hafter]
  obtain ⟨-, rfl⟩ := FrameBuffer.ofCapacity_eq_ok.mp room
  rfl

variable {h : Handler σ} {settings : Settings} {host : σ} {x : Episode}

/-- **An episode in the ledger.** -/
theorem Valid.ledger_after (hvalid : x.Valid h.noting settings (host, [])) (hreturns : h.Returns)
    (hobservant : h.Observant) :
    (x.after h.noting settings (host, [])).Tended settings ∧
      (x.after h.noting settings (host, [])).toLive.ledger =
        ((Ledger.fresh settings host).deliverAll h
            (x.frames h.noting settings (host, []) World.delivered?)).drop
          (x.frames h.noting settings (host, []) World.lost?).length := by
  rw [← hvalid.ledger_opened]
  exact World.ledger_run (hvalid.tended_opened hreturns.noting) hreturns hobservant x.events
    hvalid.steady

end Episode

/-! ### Frames straight to the handler -/

/-- Whether a session can open a camera does not depend on how it delivers. -/
theorem Relay.openCamera_answer {v w : Relay} (i p : Nat) (c : Camera Nat) (rate : FrameRate)
    (address : Nat) (hchannels : v.channels = w.channels) (hruntimes : v.runtimes = w.runtimes)
    (hroom : (v.session i).settings.maxPoints = (w.session i).settings.maxPoints)
    (hhost : (v.session i).runtime = (w.session i).runtime) :
    (v.openCamera p c rate address i).1 = (w.openCamera p c rate address i).1 := by
  unfold openCamera runtime
  dsimp only
  rw [hchannels, hruntimes, hroom, hhost]
  cases c.fault? .createCamera with
  | some e => rfl
  | none =>
    dsimp only
    cases Session.configure rate w.channels.length
      (FrameBuffer.ofCapacity address (w.session i).settings.maxPoints.toNat) c with
    | error e c => rfl
    | ok b c =>
      dsimp only
      cases (w.runtimes.getD (w.session i).runtime default).expose b.view <;> rfl

/-- **How an opening is answered** depends on cameras, channels, hosts and a few things about the
    session. -/
theorem Relay.openSession_answer {v w : Relay} (d : Descriptor) (key : UInt32) (address i : Nat)
    (hcameras : v.cameras = w.cameras) (hchannels : v.channels = w.channels)
    (hruntimes : v.runtimes = w.runtimes)
    (hstate : (v.session i).state = (w.session i).state)
    (hroom : (v.session i).settings.maxPoints = (w.session i).settings.maxPoints)
    (hhost : (v.session i).runtime = (w.session i).runtime) :
    (v.openSession d key address i).1 = (w.openSession d key address i).1 := by
  unfold openSession
  rw [hcameras, hstate]
  split
  · cases FrameRate.ofKey? key with
    | none => rfl
    | some rate =>
      dsimp only
      split
      · rfl
      · split
        · rfl
        · exact openCamera_answer i _ _ rate address hchannels hruntimes hroom hhost
      · rfl
  · rfl

/-- Who listens to a camera is part of what stands. -/
theorem Relay.listener?_of_standing {v w : Relay} {closing : List Nat}
    (h : v.standing closing = w.standing closing) (p : Nat) : v.listener? p = w.listener? p := by
  have hlistener (u : Relay) : u.listener? p = (u.standing closing).cameras[p]?.bind fun c =>
      if c.capturing then c.listener else none := by
    simp only [listener?, standing, List.getElem?_map, Option.bind_map]
    rfl
  rw [hlistener, hlistener, h]

namespace World

variable {τ : Type} {w : World τ}

/-- Frames that are injected into a camera from which a session captures arrive. -/
theorem arrived_of_emits (h : Handler τ) (worker : String) (p k : Nat) (points : List (List Point))
    (hlistener : w.relay.listener? p = some k) :
    frames arrived? h k (points.map (.emit worker p)) w = points := by
  induction points generalizing w with
  | nil => rfl
  | cons one rest ih =>
    have hstanding := Live.standing_emit w.closing h w.toLive (.worker worker) p one
    have hlistener' : (w.step h (.emit worker p one)).2.relay.listener? p = some k :=
      (Relay.listener?_of_standing hstanding p).trans hlistener
    have harrived : w.arrived? (.emit worker p one) = some (k, one) := by
      simp [arrived?, injected?, hlistener]
    rw [List.map_cons, frames, ih hlistener', harrived, onChannel_some, if_pos rfl]
    rfl

end World

namespace Episode

/-- The same opening in another episode, in which frames are injected one after the other. -/
def directly (frames : List (List Point)) (p : Nat) (x : Episode) : Episode :=
  { x with events := .operate 0 (.start false) :: frames.map (.emit "W" p) }

/-- Episodes that open a camera in the same way open it in all modes of delivery. -/
theorem Valid.opens_mode {τ : Type} {h : Handler τ} {settings : Settings} {host : τ}
    {x : Episode} (hvalid : x.Valid h settings host) (mode : DeliveryMode) :
    ((World.solo x.profiles { settings with delivery := mode } host x.now).step h x.opening).1 =
      .answered (.unit (.ok ())) := by
  have hanswer := Relay.openSession_answer
    (v := (World.solo x.profiles { settings with delivery := mode } host x.now).relay)
    (w := (World.solo x.profiles settings host x.now).relay) x.descriptor x.key x.address 0
    rfl rfl rfl rfl rfl rfl
  rw [← hvalid.opens]
  exact congrArg (fun a => Response.answered (.unit a)) hanswer

/-- A camera that has just been opened can be started, and then frames find the session. -/
theorem Valid.listener_started {τ : Type} {h : Handler τ} {settings : Settings} {host : τ}
    {x : Episode} (hvalid : x.Valid h settings host) :
    ∃ p, ((x.opened h settings host).step h (.operate 0 (.start false))).2.relay.listener? p =
      some 0 := by
  obtain ⟨p, c, rate, b, r, hfound, -, hafter⟩ := hvalid.opened_eq
  refine ⟨p, ?_⟩
  rw [hafter]
  -- Fresh cameras have no faults.
  have hfresh : c.faults = [] ∧ c.capturing = false := by
    simp only [World.solo, World.fresh, List.getElem?_map, Option.map_eq_some_iff] at hfound
    obtain ⟨profile, -, rfl⟩ := hfound
    exact ⟨rfl, rfl⟩
  generalize hv : (World.solo x.profiles settings host x.now).relay.opened 0 p c rate b r = v
  have hs : v.sessions[0]? =
      some (({ settings := settings } : Session).holding p 0 c.profile.serial rate) := hv ▸ rfl
  have hc : v.cameras[p]? = some (Session.prepared rate 0 c) := by
    rw [← hv]
    exact getElem?_set_of_some hfound
  have hready : ((World.solo x.profiles settings host x.now).setRelay v).ready 0 = true := by
    rw [← hv]
    rfl
  have hstart := Relay.start_eq false hs rfl hc rfl
  have hobstacle : (Session.prepared rate 0 c).obstacle? .startCapture = none := by
    rw [Camera.obstacle?_of_initialized rfl]
    simp [Camera.fault?, Session.prepared, hfresh.1]
  have hidle : (Session.prepared rate 0 c).capturing = false := hfresh.2
  rw [hobstacle, hidle] at hstart
  unfold World.step Operation.perform
  dsimp only [Prod.map]
  rw [if_pos hready]
  show (v.start false 0).2.listener? p = some 0
  rw [hstart]
  refine Relay.listener?_eq_some.mpr ⟨_, getElem?_set_of_some hc, rfl, rfl⟩

/-- **Any frames can arrive**, whatever the mode of delivery. -/
theorem Valid.exists_arrived {τ : Type} {h : Handler τ} {settings : Settings} {host : τ}
    {x : Episode} (hvalid : x.Valid h settings host) (mode : DeliveryMode)
    (frames : List (List Point)) :
    ∃ y : Episode, y.Valid h { settings with delivery := mode } host ∧
      y.frames h { settings with delivery := mode } host World.arrived? = frames := by
  have hvalid' (events : List Event) (hsteady : ∀ e ∈ events, e.steady = true) :
      ({ x with events := events } : Episode).Valid h { settings with delivery := mode } host :=
    ⟨hvalid.opens_mode mode, hsteady⟩
  obtain ⟨p, hp⟩ := (hvalid' [] (by simp)).listener_started
  refine ⟨x.directly frames p, hvalid' _ ?_, ?_⟩
  · intro e he
    rcases List.mem_cons.mp he with rfl | he
    · rfl
    · obtain ⟨points, -, rfl⟩ := List.mem_map.mp he
      rfl
  · exact World.arrived_of_emits h "W" p 0 frames hp

end Episode

/-! ### Refinement -/

/-- **Queued delivery refines synchronous delivery.**  Let a session with queued delivery open a
    camera, and let any schedule follow in which it is closed in the end.  What arrived was kept by
    the hand-off or is counted as dropped.  There are episodes with synchronous delivery in which
    just the kept frames arrive, and in each of them the handler sees the same deliveries, and the
    same numbers of frames are accepted, failed on, refused and cut. -/
theorem queued_refines_synchronous (h : Handler σ) (hreturns : h.Returns)
    (hobservant : h.Observant) (settings : Settings) (host : σ) (x : Episode)
    (hvalid : x.Valid h.noting { settings with delivery := .queued } (host, [])) :
    let queued := { settings with delivery := .queued }
    let synchronous := { settings with delivery := .synchronous }
    let w := x.after h.noting queued (host, [])
    let kept := x.frames h.noting queued (host, []) World.kept?
    (w.relay.session 0).state = .closed →
      (x.frames h.noting queued (host, []) World.arrived?).length =
          kept.length + (w.relay.session 0).stats.backpressureDrops ∧
        (∃ y : Episode, y.Valid h.noting synchronous (host, []) ∧
          y.frames h.noting synchronous (host, []) World.arrived? = kept) ∧
        ∀ y : Episode, y.Valid h.noting synchronous (host, []) →
          y.frames h.noting synchronous (host, []) World.arrived? = kept →
            let v := y.after h.noting synchronous (host, [])
            (w.host.2.map fun (_, d) => d.seen) = (v.host.2.map fun (_, d) => d.seen) ∧
              (w.relay.session 0).stats.delivered = (v.relay.session 0).stats.delivered ∧
              (w.relay.session 0).stats.handlerFailures =
                (v.relay.session 0).stats.handlerFailures ∧
              (w.relay.session 0).stats.overflowRejects =
                (v.relay.session 0).stats.overflowRejects ∧
              (w.relay.session 0).stats.truncatedFrames =
                (v.relay.session 0).stats.truncatedFrames := by
  intro queued synchronous w kept hclosed
  obtain ⟨htended, hledger⟩ := hvalid.ledger_after hreturns hobservant
  have hopened := hvalid.tended_opened hreturns.noting
  -- Nothing waits any more, so what has been kept has been delivered.
  have hdelivered : x.frames h.noting queued (host, []) World.delivered? = kept := by
    have hlanes := hopened.delivered_append_lane hreturns.noting hvalid.steady
    rw [hvalid.lane_opened, List.nil_append] at hlanes
    have hnone : (w.relay.lane 0).1 = [] := htended.lane_of_closed hclosed
    exact (List.append_nil _).symm.trans ((congrArg (_ ++ ·) hnone.symm).trans hlanes.symm)
  rw [hdelivered] at hledger
  have hdrops := congrArg (fun L => L.stats.backpressureDrops) hledger
  have harrived := World.length_arrived h.noting 0 x.events (x.opened h.noting queued (host, []))
  refine ⟨?_, hvalid.exists_arrived .synchronous kept, ?_⟩
  · have hbefore := Ledger.backpressureDrops_deliverAll h (.fresh queued host) kept
    have hdropped : (w.relay.session 0).stats.backpressureDrops =
        ((Ledger.fresh queued host).deliverAll h kept).stats.backpressureDrops +
          (x.frames h.noting queued (host, []) World.lost?).length := hdrops
    rw [hdropped, hbefore]
    exact harrived.trans (congrArg (kept.length + ·) (Nat.zero_add _).symm)
  · intro y hy hsame v
    obtain ⟨-, hledger'⟩ := hy.ledger_after hreturns hobservant
    obtain ⟨hall, hnone⟩ :=
      (hy.tended_opened hreturns.noting).frames_of_synchronous hreturns.noting rfl hy.steady
    have hdelivered' : y.frames h.noting synchronous (host, []) World.delivered? = kept :=
      Eq.trans hall hsame
    have hlost' : y.frames h.noting synchronous (host, []) World.lost? = [] := hnone
    rw [hdelivered', hlost'] at hledger'
    -- The ledgers agree but for the frames that were dropped.
    have hwv : w.toLive.ledger =
        v.toLive.ledger.drop (x.frames h.noting queued (host, []) World.lost?).length :=
      hledger.trans (congrArg (Ledger.drop _) hledger'.symm)
    exact ⟨congrArg Ledger.seen hwv, congrArg (fun L => L.stats.delivered) hwv,
      congrArg (fun L => L.stats.handlerFailures) hwv,
      congrArg (fun L => L.stats.overflowRejects) hwv,
      congrArg (fun L => L.stats.truncatedFrames) hwv⟩

/-- Of four frames the hand-off drops the third.  The first is cut, and the handler fails on the
    second; the last one is delivered while the session is being closed. -/
theorem queued_refines_synchronous_cut_and_dropped :
    let settings : Settings := { maxPoints := 2, overflowPolicy := .truncate, handoffDepth := 2 }
    let h : Handler Nat := fun _ d n =>
      { reply := if d.pointCount = 0 then .failed "empty" else .accepted, host := n + 1 }
    let points : List Point := [⟨1, 2, 3, 0, 0, 0⟩, ⟨4, 5, 6, 0, 0, 0⟩, ⟨7, 8, 9, 0, 0, 0⟩]
    let x : Episode :=
      { profiles := [{ serial := "A", fd := 3 }], now := 0, descriptor := ⟨3⟩, key := 5
        address := 64
        events := [.operate 0 (.start true), .emit "W" 0 points, .emit "V" 0 [],
          .emit "W" 0 points, .dispatch 0, .emit "W" 0 [⟨1, 2, 3, 0, 0, 0⟩], .dispatch 0,
          .beginClose 0, .dispatch 0, .endClose 0] }
    let y : Episode :=
      { profiles := [{ serial := "B", fd := 4 }], now := 7, descriptor := ⟨4⟩, key := 5
        address := 96
        events := [.operate 0 (.start false), .emit "W" 0 points, .operate 0 .stop,
          .emit "W" 0 points, .operate 0 (.start true), .emit "W" 0 [],
          .emit "W" 0 [⟨1, 2, 3, 0, 0, 0⟩]] }
    let w := x.after h.noting { settings with delivery := .queued } (0, [])
    let v := y.after h.noting { settings with delivery := .synchronous } (0, [])
    (w.host.2.map fun (_, d) => d.seen) = (v.host.2.map fun (_, d) => d.seen) ∧
      (w.relay.session 0).stats =
        { delivered := 2, handlerFailures := 1, truncatedFrames := 1, backpressureDrops := 1 } ∧
      (v.relay.session 0).stats =
        { delivered := 2, handlerFailures := 1, truncatedFrames := 1 } := by
  intro settings h points x y w v
  have hreturns : h.Returns := by
    intro r d n reason
    show (if d.pointCount = 0 then Reply.failed "empty" else .accepted) ≠ .aborted reason
    split <;> simp
  have hobservant : h.Observant := by
    intro r r' d d' n hseen
    have hcount : d.pointCount = d'.pointCount := congrArg Prod.fst hseen
    exact ⟨by simp only [h, hcount], rfl⟩
  have hx : x.Valid h.noting { settings with delivery := .queued } (0, []) :=
    ⟨rfl, by decide⟩
  have hy : y.Valid h.noting { settings with delivery := .synchronous } (0, []) :=
    ⟨rfl, by decide⟩
  have hclosed : ((x.after h.noting { settings with delivery := .queued } (0, [])).relay.session
      0).state = .closed := by
    decide +kernel
  have hframes : y.frames h.noting { settings with delivery := .synchronous } (0, [])
      World.arrived? =
        x.frames h.noting { settings with delivery := .queued } (0, []) World.kept? := by
    decide +kernel
  have hrefines := queued_refines_synchronous h hreturns hobservant settings 0 x hx hclosed
  have hseen := (hrefines.2.2 y hy hframes).1
  rw [show x.after h.noting { settings with delivery := .queued } (0, []) = w from rfl,
    show y.after h.noting { settings with delivery := .synchronous } (0, []) = v from rfl] at hseen
  exact ⟨hseen, by decide +kernel, by decide +kernel⟩

end DepthRelay
