import DepthRelay.Proofs.Coherence

namespace DepthRelay

/-!
# Counting frames

Every frame that a camera hands to a listener is counted somewhere from then on.

* `Books` — all the places where frames are counted.
* `Settlement` — the ways in which a delivery can end, each with what it does to the counts of the
  session and whether the handler has been called.
* `Live.deliver_books` — a delivery is settled exactly once.
-/

/-! ### The books -/

/-- The hand-off of a channel, as far as it is counted. -/
structure Tally where
  /-- The session of the channel. -/
  session : Nat
  /-- Frames in the queue. -/
  waiting : Nat
  /-- Whether the dispatch thread lives, if there is one. -/
  alive : Bool
  deriving DecidableEq, Repr

def Channel.tally (x : Channel) : Tally where
  session := x.session
  waiting := x.handoff.elim 0 fun q => q.queue.length
  alive := x.handoff.elim true Handoff.alive

/-- All the places where frames are counted. -/
structure Books where
  /-- Frames handed to listeners, by cameras. -/
  emitted : List Nat
  /-- Frames that wait, by channels. -/
  waiting : List Tally
  /-- Counts, by sessions. -/
  stats : List Stats
  /-- Calls of the handler, by hosts. -/
  invocations : List Nat

def Relay.books (w : Relay) : Books where
  emitted := w.cameras.map Camera.emitted
  waiting := w.channels.map Channel.tally
  stats := w.sessions.map Session.stats
  invocations := w.runtimes.map Runtime.invocations

namespace Books

/-- The counts of a session change. -/
def note (i : Nat) (f : Stats → Stats) (b : Books) : Books :=
  { b with stats := b.stats.modify i f }

/-- A session has got one more channel, whose hand-off is empty. -/
def addChannel (i : Nat) (b : Books) : Books :=
  { b with waiting := b.waiting ++ [{ session := i, waiting := 0, alive := true }] }

/-- The handler of a host is called, if it is. -/
def call (r : Nat) (called : Bool) (b : Books) : Books :=
  if called then { b with invocations := b.invocations.modify r (· + 1) } else b

@[simp] theorem note_note (i : Nat) (f g : Stats → Stats) (b : Books) :
    (b.note i f).note i g = b.note i (g ∘ f) := by
  simp [note, List.modify_modify_eq]

theorem note_id (i : Nat) (b : Books) : b.note i id = b := by simp [note]

theorem call_false (r : Nat) (b : Books) : b.call r false = b := rfl

theorem note_call (i r : Nat) (f : Stats → Stats) (called : Bool) (b : Books) :
    (b.call r called).note i f = (b.note i f).call r called := by
  cases called <;> rfl

end Books

/-! ### Small changes -/

namespace Relay

variable (w : Relay)

/-- A change of the counts of a session, in the books. -/
theorem books_modifySession (i : Nat) {f : Session → Session} {g : Stats → Stats}
    (h : ∀ s, (f s).stats = g s.stats) : (w.modifySession i f).books = w.books.note i g := by
  unfold books modifySession Books.note
  simp only [map_modify_of_comm h]

theorem books_count (k : Nat) (f : Stats → Stats) :
    (w.count k f).books = w.books.note (w.channel k).session f :=
  books_modifySession w _ fun _ => rfl

/-- A change of a channel that is not in the books. -/
theorem books_modifyChannel (k : Nat) {f : Channel → Channel}
    (h : ∀ x, w.channels[k]? = some x → (f x).tally = x.tally) :
    (w.modifyChannel k f).books = w.books := by
  unfold books modifyChannel
  rw [map_modify_of_eq h]

/-- A change of a host that is not in them. -/
theorem books_modifyRuntime (r : Nat) {f : Runtime → Runtime}
    (h : ∀ x, w.runtimes[r]? = some x → (f x).invocations = x.invocations) :
    (w.modifyRuntime r f).books = w.books := by
  unfold books modifyRuntime
  rw [map_modify_of_eq h]

/-- A change of a camera that is not in them. -/
theorem books_modifyCamera (p : Nat) {f : Camera Nat → Camera Nat}
    (h : ∀ c, (f c).emitted = c.emitted) : (w.modifyCamera p f).books = w.books := by
  unfold books modifyCamera
  rw [map_modify_of_eq fun c _ => h c]

theorem books_exitThread (t : ThreadId) : (w.exitThread t).books = w.books := by
  unfold books
  rw [exitThread_eq]
  simp only [map_exit (f := Runtime.invocations) fun _ => rfl]

theorem books_exitSource (source : Option Source) : (w.exitSource source).books = w.books := by
  cases source with
  | none => rfl
  | some s => exact books_exitThread w (.source s.run)

/-! ### The stages of a delivery -/

/-- A thread that cannot attach counts that, and otherwise nothing is counted yet. -/
theorem books_begin (t : ThreadId) (k : Nat) :
    ((w.begin t k).1 = none ∧
        (w.begin t k).2.books = w.books.note (w.channel k).session Stats.noteAttachFailure) ∨
      ∃ ticket, (w.begin t k).1 = some ticket ∧ ticket.channel = k ∧
        (w.begin t k).2.books = w.books := by
  have hattach := map_attach (f := Runtime.invocations) (fun _ _ _ _ => rfl) t
    (w.channel k).binding w.attachments w.runtimes
  unfold begin
  dsimp only
  generalize w.attachments.attach t (w.channel k).binding w.runtimes = result at hattach ⊢
  obtain ⟨handle, as, runtimes⟩ := result
  have hbooks : ({ w with attachments := as, runtimes := runtimes } : Relay).books = w.books := by
    unfold books
    dsimp only at hattach ⊢
    rw [hattach]
  cases handle with
  | some h => exact .inr ⟨_, rfl, rfl, hbooks⟩
  | none =>
    refine .inl ⟨rfl, (books_count _ k _).trans ?_⟩
    rw [hbooks]
    rfl

/-- Publishing cuts a frame only where the policy allows it, and refuses one only where it asks for
    that. -/
theorem publish_policy (x : Channel) (points : List Point) :
    (∃ e, x.publish points = .error e ∧ x.policy = .reject) ∨
      ∃ d written y, x.publish points = .ok (d, written, y) ∧
        (written.truncated = 0 ∨ x.policy = .truncate) ∧ d.view = x.view ∧
        y.tally = x.tally := by
  unfold Channel.publish FrameBuffer.write OverflowPolicy.accept?
  by_cases hfits : points.length ≤ x.buffer.capacity
  · rw [if_pos hfits]
    exact .inr ⟨_, _, _, rfl, .inl (Nat.sub_self _), rfl, rfl⟩
  · rw [if_neg hfits]
    cases hpolicy : x.policy with
    | reject => exact .inl ⟨_, rfl, rfl⟩
    | truncate => exact .inr ⟨_, _, _, rfl, .inr rfl, rfl, rfl⟩

/-- A frame that does not fit is refused, and counted as such, or cut; a frame that is cut counts as
    truncated. -/
theorem books_publish (k : Nat) (points : List Point) (hk : k < w.channels.length) :
    ((w.publish k points).1 = none ∧ (w.channel k).policy = .reject ∧
        (w.publish k points).2.books = w.books.note (w.channel k).session Stats.noteOverflow) ∨
      ∃ d cut, (w.publish k points).1 = some d ∧ d.view = (w.channel k).view ∧
        (cut = 0 ∨ (w.channel k).policy = .truncate) ∧
        (w.publish k points).2.books =
          w.books.note (w.channel k).session (Stats.noteWritten cut) := by
  unfold publish
  rcases publish_policy (w.channel k) points with
    ⟨e, herror, hpolicy⟩ | ⟨d, written, y, hok, hcut, hview, htally⟩
  · rw [herror]
    exact .inl ⟨rfl, hpolicy, books_count w k _⟩
  · rw [hok]
    refine .inr ⟨d, written.truncated, rfl, hview, hcut, ?_⟩
    have hbooks : (w.modifyChannel k fun _ => y).books = w.books := by
      refine books_modifyChannel w k ?_
      intro x hx
      rw [channel_eq hx] at htally
      exact htally
    -- The channel still belongs to the session that is to count the frame.
    have hkept : ((w.modifyChannel k fun _ => y).channel k).session = (w.channel k).session := by
      rw [channel_modifyChannel k _ w hk]
      exact congrArg Tally.session htally
    dsimp only
    rw [books_count, hbooks, hkept]

/-- Only what is at a place matters for a change there. -/
theorem modifyRuntime_congr (r : Nat) {f g : Runtime → Runtime}
    (h : ∀ x, w.runtimes[r]? = some x → f x = g x) : w.modifyRuntime r f = w.modifyRuntime r g := by
  unfold modifyRuntime
  cases hr : w.runtimes[r]? with
  | none => rw [modify_of_getElem?_eq_none _ hr, modify_of_getElem?_eq_none _ hr]
  | some x => rw [modify_of_getElem? f hr, modify_of_getElem? g hr, h x hr]

/-- The handler is called if and only if its host sees the buffer. -/
theorem books_enter (k : Nat) (d : Delivery) :
    ((w.runtime (w.channel k).binding.runtime).isExposed d.view = false ∧
        w.enter k d = (.error .noBuffer, w)) ∨
      (w.runtime (w.channel k).binding.runtime).isExposed d.view = true ∧
        (w.enter k d).1 = .ok () ∧
        (w.enter k d).2.books = w.books.call (w.channel k).binding.runtime true := by
  unfold enter Runtime.enter
  dsimp only
  cases h : (w.runtime (w.channel k).binding.runtime).isExposed d.view with
  | false =>
    rw [if_neg (by simp)]
    exact .inl ⟨rfl, rfl⟩
  | true =>
    rw [if_pos rfl]
    refine .inr ⟨rfl, rfl, ?_⟩
    have hcalls : (w.modifyRuntime (w.channel k).binding.runtime fun x =>
        { x with invocations := x.invocations + 1 }).books =
        w.books.call (w.channel k).binding.runtime true := by
      have hmap : (w.runtimes.modify (w.channel k).binding.runtime fun x =>
          { x with invocations := x.invocations + 1 }).map Runtime.invocations =
          (w.runtimes.map Runtime.invocations).modify (w.channel k).binding.runtime (· + 1) :=
        map_modify_of_comm fun _ => rfl
      unfold books modifyRuntime
      rw [hmap]
      rfl
    rw [← hcalls]
    refine congrArg books (modifyRuntime_congr w _ ?_)
    intro x hx
    rw [runtime_eq hx]

theorem books_leave (t : Ticket) (reply : Reply) : (w.leave t reply).books = w.books := by
  refine books_modifyRuntime w _ ?_
  intro x _
  cases reply <;> rfl

/-- Samples are not counted in the books. -/
theorem books_time (t : Ticket) : (w.time t).books = w.books := by
  unfold time
  cases t.started with
  | none => rfl
  | some start =>
    have hbooks := books_modifySession w (w.channel t.channel).session (g := id)
      (f := fun s => { s with timing := s.timing.record ⟨start, w.now⟩ }) fun _ => rfl
    exact hbooks.trans (Books.note_id _ _)

theorem invocations_conclude (call : Except HostError Unit) (h : Handle) (x : Runtime) :
    (x.conclude call h).2.invocations = x.invocations := by
  rw [Runtime.conclude_eq]

/-- A call that could not be made is never taken for an accepted frame. -/
theorem conclude_error (e : HostError) (h : Handle) (x : Runtime) :
    (x.conclude (.error e) h).1 ≠ .delivered := by
  rw [Runtime.conclude_eq]
  cases x.pending.lookup h <;> simp

/-- **The end of a call** counts the frame as delivered or as failed. -/
theorem books_conclude (t : Ticket) (call : Except HostError Unit) :
    (call = .ok () ∧ (w.conclude t call).books =
        w.books.note (w.channel t.channel).session Stats.noteDelivered) ∨
      (w.conclude t call).books =
        w.books.note (w.channel t.channel).session Stats.noteHandlerFailure := by
  unfold conclude
  dsimp only
  have hruntime := books_modifyRuntime w (w.channel t.channel).binding.runtime
    (f := fun _ => ((w.runtime (w.channel t.channel).binding.runtime).conclude call t.handle).2)
    (by intro x hx; rw [runtime_eq hx]; exact invocations_conclude call t.handle x)
  cases houtcome : ((w.runtime (w.channel t.channel).binding.runtime).conclude call t.handle).1 with
  | delivered =>
    -- A frame can only have been accepted by a handler that was called.
    have hcall : call = .ok () := by
      cases call with
      | ok _ => rfl
      | error e => exact absurd houtcome (conclude_error e t.handle _)
    refine .inl ⟨hcall, (books_time _ t).trans ((books_count _ t.channel _).trans ?_)⟩
    rw [hruntime]
    rfl
  | failed text =>
    refine .inr ((books_count _ t.channel _).trans ?_)
    rw [hruntime]
    rfl

/-- A frame that the handler has answered for. -/
theorem books_answered (t : Ticket) (reply : Reply) :
    ∃ f, (f = Stats.noteHandlerFailure ∨ f = Stats.noteDelivered) ∧
      ((w.leave t reply).conclude t (.ok ())).books =
        w.books.note (w.channel t.channel).session f := by
  have hleft := books_leave w t reply
  rcases books_conclude (w.leave t reply) t (.ok ()) with ⟨-, hdelivered⟩ | hfailed
  · rw [hleft] at hdelivered
    exact ⟨_, .inr rfl, hdelivered⟩
  · rw [hleft] at hfailed
    exact ⟨_, .inl rfl, hfailed⟩

/-! ### What stands, in the midst of a delivery -/

variable {v w : Relay} {closing : List Nat}

theorem channel_of_channels (h : v.channels = w.channels) (k : Nat) : v.channel k = w.channel k := by
  unfold channel
  rw [h]

/-- A channel is wired as what stands says. -/
theorem wiring_of_standing (h : v.standing closing = w.standing closing) (k : Nat) :
    (v.channel k).wiring = (w.channel k).wiring := by
  have hchannels : v.channels.map Channel.wiring = w.channels.map Channel.wiring :=
    congrArg Standing.channels h
  exact getD_of_map_eq hchannels k default

/-- There are as many channels as what stands says. -/
theorem length_channels_of_standing (h : v.standing closing = w.standing closing) :
    v.channels.length = w.channels.length := by
  have hchannels : v.channels.map Channel.wiring = w.channels.map Channel.wiring :=
    congrArg Standing.channels h
  simpa using congrArg List.length hchannels

/-- What is exposed is part of what stands. -/
theorem exposed_of_standing (h : v.standing closing = w.standing closing) (r : Nat) :
    (v.runtime r).exposed = (w.runtime r).exposed := by
  have hruntimes : v.runtimes.map Runtime.exposed = w.runtimes.map Runtime.exposed :=
    congrArg Standing.exposed h
  exact getD_of_map_eq hruntimes r default

/-- Whether the host of a channel sees the channel's buffer. -/
def visible (k : Nat) (w : Relay) : Bool :=
  (w.runtime (w.channel k).binding.runtime).isExposed (w.channel k).view

/-- Whether the host sees the buffer of a channel is part of what stands. -/
theorem visible_of_standing (h : v.standing closing = w.standing closing) (k : Nat) :
    v.visible k = w.visible k := by
  have hwiring := wiring_of_standing h k
  have hbinding : (v.channel k).binding = (w.channel k).binding := congrArg Wiring.binding hwiring
  have hview : (v.channel k).view = (w.channel k).view := congrArg Wiring.view hwiring
  unfold visible Runtime.isExposed
  rw [hbinding, hview, exposed_of_standing h]

end Relay

/-! ### Settlements -/

/-- The ways in which a delivery on a channel with a policy can end: whether the handler has been
    called, and what has become of the counts. -/
inductive Settlement (policy : OverflowPolicy) (visible : Bool) : Bool → (Stats → Stats) → Prop
  /-- The thread could not attach. -/
  | detached : Settlement policy visible false Stats.noteAttachFailure
  /-- The frame has more points than the buffer holds. -/
  | refused (reject : policy = .reject) : Settlement policy visible false Stats.noteOverflow
  /-- The host does not see the buffer. -/
  | unheard (cut : Nat) (uncut : cut = 0 ∨ policy = .truncate) (hidden : visible = false) :
      Settlement policy visible false (Stats.noteHandlerFailure ∘ Stats.noteWritten cut)
  | failed (cut : Nat) (uncut : cut = 0 ∨ policy = .truncate) :
      Settlement policy visible true (Stats.noteHandlerFailure ∘ Stats.noteWritten cut)
  | accepted (cut : Nat) (uncut : cut = 0 ∨ policy = .truncate) :
      Settlement policy visible true (Stats.noteDelivered ∘ Stats.noteWritten cut)

namespace Live

variable {σ : Type} (h : Handler σ) (l : Live σ)

/-- The call of the handler settles a frame that is in the buffer. -/
theorem handle_books (hreturns : h.Returns) (t : Ticket) (d : Delivery)
    (hview : d.view = (l.relay.channel t.channel).view) :
    ∃ f, (f = Stats.noteHandlerFailure ∨
        l.relay.visible t.channel = true ∧ f = Stats.noteDelivered) ∧
      (l.handle h t d).2.relay.books =
        (l.relay.books.note (l.relay.channel t.channel).session f).call
          (l.relay.channel t.channel).binding.runtime (l.relay.visible t.channel) := by
  have hstands := Relay.standing_enter [] l.relay t.channel d
  have henter := Relay.books_enter l.relay t.channel d
  rw [hview] at henter
  unfold handle
  rcases henter with ⟨hhidden, henter⟩ | ⟨hvisible, hok, hbooks⟩
  · rw [henter]
    have hhidden' : l.relay.visible t.channel = false := hhidden
    refine ⟨_, .inl rfl, ?_⟩
    rw [hhidden', Books.call_false]
    rcases Relay.books_conclude l.relay t (.error .noBuffer) with ⟨hcall, -⟩ | hfailed
    · exact absurd hcall (by simp)
    · exact hfailed
  · have hvisible' : l.relay.visible t.channel = true := hvisible
    generalize l.relay.enter t.channel d = result at hstands hok hbooks ⊢
    obtain ⟨answer, w⟩ := result
    dsimp only at hstands hok hbooks
    subst hok
    have hreply := hreturns (w.channel t.channel).binding.runtime d l.host
    dsimp only
    generalize h (w.channel t.channel).binding.runtime d l.host = a at hreply ⊢
    split
    · next reason habort => exact absurd habort (hreply reason)
    · obtain ⟨f, hf, hanswered⟩ :=
        Relay.books_answered { w with now := w.now + a.elapsed } t a.reply
      -- The call has not changed to whom the channel belongs.
      have hsession : (w.channel t.channel).session = (l.relay.channel t.channel).session :=
        congrArg Wiring.session (Relay.wiring_of_standing hstands t.channel)
      refine ⟨f, hf.imp id fun hf => ⟨hvisible', hf⟩, hanswered.trans ?_⟩
      -- The time that the call took is not seen in the books.
      show w.books.note (w.channel t.channel).session f = _
      rw [hbooks, hsession, hvisible', Books.note_call]

/-- **A delivery is settled exactly once.** -/
theorem deliver_books (hreturns : h.Returns) (t : ThreadId) (k : Nat) (points : List Point)
    (hk : k < l.relay.channels.length) :
    ∃ called f, Settlement (l.relay.channel k).policy (l.relay.visible k) called f ∧
      (l.deliver h t k points).2.relay.books =
        (l.relay.books.note (l.relay.channel k).session f).call
          (l.relay.channel k).binding.runtime called := by
  have hbegin := Relay.books_begin l.relay t k
  have hstands := Relay.standing_begin [] l.relay t k
  unfold deliver
  generalize l.relay.begin t k = result at hbegin hstands ⊢
  obtain ⟨ticket, w⟩ := result
  dsimp only at hbegin hstands
  rcases hbegin with ⟨rfl, hbooks⟩ | ⟨ticket, rfl, rfl, hbooks⟩
  · exact ⟨false, _, .detached, hbooks⟩
  · have hk' : ticket.channel < w.channels.length := by
      rw [Relay.length_channels_of_standing hstands]
      exact hk
    -- Attaching has not changed how the channel is wired.
    have hwiring := Relay.wiring_of_standing hstands ticket.channel
    have hsession : (w.channel ticket.channel).session = (l.relay.channel ticket.channel).session :=
      congrArg Wiring.session hwiring
    have hpolicy : (w.channel ticket.channel).policy = (l.relay.channel ticket.channel).policy :=
      congrArg Wiring.policy hwiring
    have hpublish := Relay.books_publish w ticket.channel points hk'
    have hstands' := (Relay.standing_publish [] w ticket.channel points).trans hstands
    dsimp only
    generalize w.publish ticket.channel points = result at hpublish hstands' ⊢
    obtain ⟨d?, v⟩ := result
    dsimp only at hpublish hstands'
    rw [hsession, hpolicy, hbooks] at hpublish
    rcases hpublish with ⟨rfl, hreject, hbooks'⟩ | ⟨d, cut, rfl, hview, huncut, hbooks'⟩
    · exact ⟨false, _, .refused hreject, hbooks'⟩
    · -- Nor has publishing, so the delivery is for the buffer that the host was asked about.
      have hwiring' := Relay.wiring_of_standing hstands' ticket.channel
      have hview' : d.view = (v.channel ticket.channel).view :=
        hview.trans ((congrArg Wiring.view hwiring).trans (congrArg Wiring.view hwiring').symm)
      have hsession' : (v.channel ticket.channel).session =
          (l.relay.channel ticket.channel).session := congrArg Wiring.session hwiring'
      have hbinding' : (v.channel ticket.channel).binding =
          (l.relay.channel ticket.channel).binding := congrArg Wiring.binding hwiring'
      obtain ⟨f, hf, hhandled⟩ := handle_books h (l.withRelay v) hreturns ticket d hview'
      refine ⟨l.relay.visible ticket.channel, f ∘ Stats.noteWritten cut, ?_, hhandled.trans ?_⟩
      · show Settlement _ (l.relay.visible ticket.channel) _ _
        have hvisible : (l.withRelay v).relay.visible ticket.channel =
            l.relay.visible ticket.channel := Relay.visible_of_standing hstands' ticket.channel
        rw [hvisible] at hf
        -- Whether the handler is called depends on the host, and then the handler decides.
        cases hseen : l.relay.visible ticket.channel with
        | false =>
          rcases hf with rfl | ⟨hseen', -⟩
          · exact .unheard cut huncut rfl
          · exact absurd (hseen'.symm.trans hseen) (by simp)
        | true =>
          rcases hf with rfl | ⟨-, rfl⟩
          · exact .failed cut huncut
          · exact .accepted cut huncut
      · show (v.books.note (v.channel ticket.channel).session f).call
          (v.channel ticket.channel).binding.runtime (v.visible ticket.channel) = _
        rw [hbooks', hsession', hbinding', Relay.visible_of_standing hstands' ticket.channel,
          Books.note_note]

end Live

/-! ### Everything else -/

namespace Relay

variable {w : Relay} {i p k : Nat} {s s' : Session} {c c' : Camera Nat}

/-- Working on a camera counts nothing. -/
theorem books_update (hs : w.sessions[i]? = some s) (hc : w.cameras[p]? = some c)
    (hstats : s'.stats = s.stats) (hemitted : c'.emitted = c.emitted) :
    (w.update i s' p c').books = w.books := by
  unfold books update
  dsimp only
  rw [map_set_of_eq hs hstats, map_set_of_eq hc hemitted]

theorem invocations_expose {v : View} {x r : Runtime} (h : x.expose v = .ok r) :
    r.invocations = x.invocations := by
  rw [(Runtime.expose_eq_ok.mp h).2]

/-- Operations count nothing. -/
theorem perform_books {closing : List Nat} (op : Operation)
    (hcustody : Custody (w.standing closing)) (hi : i < w.sessions.length) :
    (op.perform i w).2.books = w.books ∨ (op.perform i w).2.books = w.books.addChannel i := by
  obtain ⟨s, hs⟩ : ∃ s, w.sessions[i]? = some s := ⟨_, List.getElem?_eq_getElem hi⟩
  obtain ⟨hclosed, hfound⟩ := of_custody hcustody hs
  have hcases := perform_cases op hs hclosed hfound
  generalize op.perform i w = result at hcases ⊢
  obtain ⟨answer, v⟩ := result
  dsimp only at hcases ⊢
  generalize answer.failed = failed at hcases
  cases hcases with
  | idle op failed => exact .inl rfl
  | undone d key address p c c' target found residue closed =>
    have hemitted : c'.emitted = c.emitted := by
      show c'.blank.emitted = c.blank.release.emitted
      rw [residue]
    refine .inl ?_
    unfold books
    rw [map_set_of_eq found hemitted]
  | opened d key address p c rate b r target found closed still rated room exposed =>
    refine .inr ?_
    -- Whatever the delivery is, nothing waits in a new channel.
    have htally : (w.newChannel i b).tally = { session := i, waiting := 0, alive := true } := by
      unfold newChannel Channel.tally
      dsimp only
      cases (w.session i).settings.delivery <;> rfl
    have hruntimes : (w.runtimes.set s.runtime r).map Runtime.invocations =
        w.runtimes.map Runtime.invocations := by
      cases hr : w.runtimes[s.runtime]? with
      | none => rw [List.set_eq_of_length_le (by simpa using hr)]
      | some x =>
        rw [runtime_eq hr] at exposed
        exact map_set_of_eq hr (invocations_expose exposed)
    have hemitted : (w.cameras.set p (Session.prepared rate w.channels.length c)).map
        Camera.emitted = w.cameras.map Camera.emitted := map_set_of_eq found rfl
    have hstats : (w.sessions.set i (s.holding p w.channels.length c.profile.serial rate)).map
        Session.stats = w.sessions.map Session.stats := map_set_of_eq hs rfl
    unfold opened
    rw [session_eq hs]
    show Books.mk ((w.cameras.set p _).map _) ((w.channels ++ [w.newChannel i b]).map _)
      ((w.sessions.set i (s.holding p w.channels.length c.profile.serial rate)).map _)
      ((w.runtimes.set s.runtime r).map _) = _
    rw [hemitted, hstats, hruntimes]
    simp only [Books.addChannel, books, List.map_append, List.map_cons, List.map_nil, htally]
  | unstarted timing o c held found state => exact .inl (books_update hs found rfl rfl)
  | started timing o c held found state => exact .inl (books_update hs found rfl rfl)
  | stopped o c held found state =>
    exact .inl ((books_exitSource _ _).trans (books_update hs found rfl rfl))
  | exposed o c held found => exact .inl (books_update hs found rfl rfl)

/-- Closing counts nothing. -/
theorem books_beginClose {o : OpenCamera} (hs : w.sessions[i]? = some s) (ho : s.camera = some o)
    (hc : w.cameras[o.device.camera]? = some c) : (w.beginClose i).books = w.books := by
  rw [beginClose_eq hs ho hc, books_modifyChannel, ← exitSource_update, books_exitSource]
  · exact books_update hs hc rfl rfl
  · intro x _
    cases hq : x.handoff <;> simp [Channel.tally, hq, Handoff.close]

/-- A session that is closed keeps its counts. -/
theorem books_endClose {o : OpenCamera} (hs : w.sessions[i]? = some s) (ho : s.camera = some o)
    (hc : w.cameras[o.device.camera]? = some c) : (w.endClose i).books = w.books := by
  rw [endClose_eq hs ho hc, books_modifyRuntime, ← exitSource_update, books_exitSource]
  · have hexit : (w.exitThread (.dispatch o.channel)).books = w.books := books_exitThread w _
    rw [← hexit]
    exact books_update hs hc rfl rfl
  · intro x _
    rfl

theorem books_setSource (i : Nat) (source : Option Source) (w : Relay) :
    (w.setSource i source).books = w.books := by
  have hnote : (w.setSource i source).books = w.books.note i id :=
    books_modifySession w i fun _ => rfl
  rw [hnote, Books.note_id]

theorem books_endSource (i run : Nat) (w : Relay) : (w.endSource i run).books = w.books :=
  (books_exitThread _ _).trans (books_setSource i none w)

/-- A frame source that wakes up counts nothing. -/
theorem books_wakeSource (i : Nat) (source : Source) (w : Relay) :
    (w.wakeSource i source).2.books = w.books := by
  unfold wakeSource
  dsimp only
  split
  · split
    · exact books_setSource i _ _
    · exact books_endSource i _ _
  · exact books_endSource i _ _

end Relay

/-! ### Injecting and dispatching -/

namespace Books

/-- A camera hands a frame to its listener. -/
def inject (p : Nat) (b : Books) : Books := { b with emitted := b.emitted.modify p (· + 1) }

/-- One more frame waits. -/
def enqueue (k : Nat) (b : Books) : Books :=
  { b with waiting := b.waiting.modify k fun x => { x with waiting := x.waiting + 1 } }

/-- One frame less waits. -/
def dequeue (k : Nat) (b : Books) : Books :=
  { b with waiting := b.waiting.modify k fun x => { x with waiting := x.waiting - 1 } }

end Books

/-- A frame that is submitted waits behind the others, or is dropped. -/
theorem Handoff.submit_queue (points : List Point) (q : Handoff) :
    (∃ q', q.submit points = (.queued, q') ∧ q'.queue = q.queue ++ [points] ∧
        q'.alive = q.alive) ∨
      ∃ q', q.submit points = (.dropped, q') ∧ q'.queue = q.queue ∧ q'.alive = q.alive := by
  unfold submit claim?
  by_cases hfree : q.free = 0
  · rw [if_pos hfree]
    exact .inr ⟨q, rfl, rfl, rfl⟩
  · rw [if_neg hfree]
    dsimp only
    unfold enqueue
    split
    · exact .inl ⟨_, rfl, rfl, rfl⟩
    · exact .inr ⟨_, rfl, rfl, rfl⟩

namespace Relay

variable {w : Relay} {k : Nat}

/-- A hand-off belongs to a channel that is there. -/
theorem getElem?_of_handoff {q : Handoff} (hq : (w.channel k).handoff = some q) :
    w.channels[k]? = some (w.channel k) := by
  cases hk : w.channels[k]? with
  | none =>
    have hdefault : w.channel k = default := by
      simp [channel, List.getD_eq_getElem?_getD, hk]
    rw [hdefault] at hq
    exact absurd hq (by simp [default, instInhabitedChannel.default])
  | some x => rw [channel_eq hk]

/-- What a new hand-off of a channel means for the books. -/
theorem books_setHandoff {q q' : Handoff} {g : Tally → Tally}
    (hq : (w.channel k).handoff = some q)
    (hg : ∀ j, g ⟨j, q.queue.length, q.alive⟩ = ⟨j, q'.queue.length, q'.alive⟩) :
    (w.modifyChannel k fun x => { x with handoff := some q' }).books =
      { w.books with waiting := w.books.waiting.modify k g } := by
  have hk := getElem?_of_handoff hq
  have hwaiting : w.books.waiting[k]? =
      some ⟨(w.channel k).session, q.queue.length, q.alive⟩ := by
    simp [books, hk, Channel.tally, hq]
  unfold modifyChannel
  rw [modify_of_getElem? _ hk, modify_of_getElem? _ hwaiting, hg]
  unfold books
  simp only [List.map_set]
  rfl

/-- A frame that is submitted is counted as waiting or as dropped. -/
theorem books_submit {q : Handoff} (points : List Point) (hq : (w.channel k).handoff = some q) :
    (w.submit k q points).books = w.books.enqueue k ∨
      (w.submit k q points).books =
        w.books.note (w.channel k).session Stats.noteBackpressure := by
  unfold submit
  rcases q.submit_queue points with ⟨q', hsubmit, hqueue, halive⟩ | ⟨q', hsubmit, hqueue, halive⟩
  · rw [hsubmit]
    refine .inl (books_setHandoff hq ?_)
    simp [hqueue, halive]
  · rw [hsubmit]
    refine .inr ?_
    -- A frame that is dropped leaves the queue as long as it was.
    have hkept : (w.modifyChannel k fun x => { x with handoff := some q' }).books = w.books := by
      have hset := books_setHandoff (g := id) hq fun j => by rw [hqueue, halive]; rfl
      simpa using hset
    have hsession : ((w.modifyChannel k fun x => { x with handoff := some q' }).channel k).session =
        (w.channel k).session := by
      rw [channel_modifyChannel k _ w (List.getElem?_eq_some_iff.mp (getElem?_of_handoff hq)).1]
    dsimp only
    rw [books_count, hkept, hsession]

/-- A frame that is taken out of the hand-off waits no longer. -/
theorem books_takeQueued? {points : List Point} {v : Relay}
    (h : w.takeQueued? k = some (points, v)) :
    (∃ q, (w.channel k).handoff = some q ∧ q.queue ≠ []) ∧ v.books = w.books.dequeue k := by
  obtain ⟨⟨points', q'⟩, htake, hv⟩ := Option.map_eq_some_iff.mp h
  obtain ⟨-, rfl⟩ := Prod.mk.inj hv
  obtain ⟨q, hq, htake⟩ := Option.bind_eq_some_iff.mp htake
  obtain ⟨-, rest, hqueue, rfl⟩ := Handoff.of_take? htake
  refine ⟨⟨q, hq, by simp [hqueue]⟩, books_setHandoff hq ?_⟩
  simp [hqueue]

theorem books_completeQueued (w : Relay) (k : Nat) : (w.completeQueued k).books = w.books := by
  refine books_modifyChannel w k ?_
  intro x _
  cases hq : x.handoff <;> simp [Channel.tally, hq, Handoff.complete]

end Relay

/-- A frame that finds a listener. -/
theorem Relay.offer_books {w : Relay} {p k : Nat} (points : List Point)
    (hk : w.listener? p = some k) :
    ∃ v, w.offer p points = (some k, v) ∧ v.books = w.books.inject p ∧
      v.channels = w.channels ∧ v.standing [] = w.standing [] := by
  obtain ⟨c, hc, hcapturing, hlistener⟩ := listener?_eq_some.mp hk
  have hoffer : w.offer p points = (some k, _) := offer_of_some hc hcapturing hlistener
  have hstanding := standing_offer [] w p points
  rw [hoffer] at hstanding
  refine ⟨_, hoffer, ?_, rfl, hstanding⟩
  unfold books Books.inject
  dsimp only
  rw [List.map_set, modify_of_getElem? (a := c.emitted) _ (by simp [hc])]

/-- What becomes of a frame that has found the channel at place `k`. -/
inductive Booking (k : Nat) (w : Relay) (b : Books) : Books → Prop
  | queued (queued : (w.channel k).handoff.isSome) : Booking k w b (b.enqueue k)
  | dropped (queued : (w.channel k).handoff.isSome) :
      Booking k w b (b.note (w.channel k).session Stats.noteBackpressure)
  | settled (called : Bool) (f : Stats → Stats)
      (settlement : Settlement (w.channel k).policy (w.visible k) called f)
      (direct : (w.channel k).handoff = none) :
      Booking k w b
        ((b.note (w.channel k).session f).call (w.channel k).binding.runtime called)

/-- Bookings look only at channels and hosts. -/
theorem Booking.congr {k : Nat} {v w : Relay} {b b' : Books} (h : Booking k v b b')
    (hchannels : v.channels = w.channels) (hruntimes : v.runtimes = w.runtimes) :
    Booking k w b b' := by
  have hchannel := Relay.channel_of_channels hchannels k
  have hvisible : v.visible k = w.visible k := by
    unfold Relay.visible Relay.runtime
    rw [hchannel, hruntimes]
  cases h with
  | queued queued => exact .queued (hchannel ▸ queued)
  | dropped queued =>
    rw [hchannel] at queued ⊢
    exact .dropped queued
  | settled called f settlement direct =>
    rw [hchannel, hvisible] at settlement
    rw [hchannel] at direct ⊢
    exact .settled called f settlement direct

namespace Live

variable {σ : Type} (h : Handler σ) (l : Live σ)

/-- An injected frame that finds no listener changes nothing; any other is booked once. -/
theorem emit_books (hreturns : h.Returns) (t : ThreadId) (p : Nat) (points : List Point)
    (hchannels : ∀ k, l.relay.listener? p = some k → k < l.relay.channels.length) :
    (l.relay.listener? p = none ∧ (l.emit h t p points).2.relay.books = l.relay.books) ∨
      ∃ k, l.relay.listener? p = some k ∧
        Booking k l.relay (l.relay.books.inject p) (l.emit h t p points).2.relay.books := by
  unfold emit
  cases hk : l.relay.listener? p with
  | none =>
    rw [Relay.offer_of_none hk]
    exact .inl ⟨rfl, rfl⟩
  | some k =>
    refine .inr ⟨k, rfl, ?_⟩
    obtain ⟨v, hoffer, hbooks, hchannels', hstanding⟩ := Relay.offer_books points hk
    have hchannel := Relay.channel_of_channels hchannels' k
    rw [hoffer]
    dsimp only
    rw [hchannel]
    cases hq : (l.relay.channel k).handoff with
    | some q =>
      rcases Relay.books_submit (w := v) points (hchannel ▸ hq) with hqueued | hdropped
      · rw [← hbooks]
        exact hqueued ▸ .queued (by simp [hq])
      · rw [hchannel] at hdropped
        rw [← hbooks]
        exact hdropped ▸ .dropped (by simp [hq])
    | none =>
      -- In synchronous delivery the frame is settled at once.
      -- The camera's own count does not matter for how.
      obtain ⟨called, f, hsettlement, hsettled⟩ :=
        deliver_books h (l.withRelay v) hreturns t k points (hchannels' ▸ hchannels k hk)
      have hvisible : (l.withRelay v).relay.visible k = l.relay.visible k :=
        Relay.visible_of_standing hstanding k
      have hchannel' : (l.withRelay v).relay.channel k = l.relay.channel k := hchannel
      rw [hvisible, hchannel'] at hsettlement
      have hrelay : (l.withRelay v).relay.books = l.relay.books.inject p := hbooks
      rw [hrelay, hchannel'] at hsettled
      have hbooking := Booking.settled (b := l.relay.books.inject p) called f hsettlement hq
      rw [← hsettled] at hbooking
      dsimp only
      generalize (l.withRelay v).deliver h t k points = result at hbooking ⊢
      obtain ⟨answer, l'⟩ := result
      cases answer <;> exact hbooking

/-- A dispatch thread that finds a frame settles it. -/
theorem dispatch_books (hreturns : h.Returns) (k : Nat) :
    (l.dispatch h k).relay.books = l.relay.books ∨
      ∃ called f, Settlement (l.relay.channel k).policy (l.relay.visible k) called f ∧
        (∃ q, (l.relay.channel k).handoff = some q ∧ q.queue ≠ []) ∧
        (l.dispatch h k).relay.books =
          ((l.relay.books.dequeue k).note (l.relay.channel k).session f).call
            (l.relay.channel k).binding.runtime called := by
  unfold dispatch
  cases htake : l.relay.takeQueued? k with
  | none => exact .inl rfl
  | some taken =>
    obtain ⟨points, w⟩ := taken
    obtain ⟨⟨q, hq, hpending⟩, hbooks⟩ := Relay.books_takeQueued? htake
    have hstanding := Relay.standing_takeQueued? [] l.relay htake
    have hwiring := Relay.wiring_of_standing hstanding k
    have hlength : k < w.channels.length := by
      rw [Relay.length_channels_of_standing hstanding]
      exact (List.getElem?_eq_some_iff.mp (Relay.getElem?_of_handoff hq)).1
    -- Taking the frame out of the queue has not changed how the channel is wired.
    obtain ⟨called, f, hsettlement, hsettled⟩ :=
      deliver_books h (l.withRelay w) hreturns (.dispatch k) k points hlength
    have hok := deliver_ok h (l.withRelay w) hreturns (.dispatch k) k points
    refine .inr ?_
    dsimp only
    generalize (l.withRelay w).deliver h (.dispatch k) k points = result at hsettled hok ⊢
    obtain ⟨answer, l'⟩ := result
    dsimp only at hsettled hok
    subst hok
    have hsession : (w.channel k).session = (l.relay.channel k).session :=
      congrArg Wiring.session hwiring
    have hbinding : (w.channel k).binding = (l.relay.channel k).binding :=
      congrArg Wiring.binding hwiring
    have hpolicy : (w.channel k).policy = (l.relay.channel k).policy :=
      congrArg Wiring.policy hwiring
    have hsettled' : l'.relay.books =
        ((l.relay.books.dequeue k).note (l.relay.channel k).session f).call
          (l.relay.channel k).binding.runtime called := by
      rw [hsettled, ← hsession, ← hbinding, ← hbooks]
      rfl
    have hsettlement' :
        Settlement (l.relay.channel k).policy (l.relay.visible k) called f := by
      rw [← hpolicy, ← Relay.visible_of_standing hstanding k]
      exact hsettlement
    refine ⟨called, f, hsettlement', ⟨q, hq, hpending⟩, ?_⟩
    show (l'.relay.completeQueued k).books = _
    rw [Relay.books_completeQueued, hsettled']

end Live

/-! ### Any step -/

/-- Everything that a step can do to the books. -/
inductive Posting (w : Relay) : Books → Prop
  | same : Posting w w.books
  | channel (i : Nat) : Posting w (w.books.addChannel i)
  /-- A frame has been injected, and was not in vain. -/
  | injected (p k : Nat) (b : Books) (heard : w.listener? p = some k)
      (booking : Booking k w (w.books.inject p) b) : Posting w b
  | dispatched (k : Nat) (called : Bool) (f : Stats → Stats)
      (settlement : Settlement (w.channel k).policy (w.visible k) called f) (q : Handoff)
      (queued : (w.channel k).handoff = some q) (pending : q.queue ≠ []) :
      Posting w (((w.books.dequeue k).note (w.channel k).session f).call
        (w.channel k).binding.runtime called)

/-- Nothing that is counted has changed. -/
theorem Posting.of_eq {w : Relay} {b : Books} (h : b = w.books) : Posting w b := h ▸ .same

/-- A listener is a channel that is there. -/
theorem Relay.listener_lt {w : Relay} {closing : List Nat} (hcustody : Custody (w.standing closing))
    {p k : Nat} (hk : w.listener? p = some k) : k < w.channels.length := by
  obtain ⟨i, t, u, ht, hu, -, rfl, -⟩ := heard_of_custody hcustody hk
  obtain ⟨x, hx, -⟩ := wired_of_custody hcustody ht hu
  exact (List.getElem?_eq_some_iff.mp hx).1

/-- A source that produces a frame changes nothing but itself and the clock. -/
theorem Relay.wakeSource_some {w v : Relay} {i p : Nat} {source : Source} {points : List Point}
    (h : w.wakeSource i source = (some (p, points), v)) :
    v.books = w.books ∧ v.cameras = w.cameras ∧ v.channels = w.channels ∧
      v.runtimes = w.runtimes := by
  have hbooks := books_wakeSource i source w
  rw [h] at hbooks
  refine ⟨hbooks, ?_⟩
  unfold wakeSource at h
  dsimp only at h
  split at h
  · split at h
    · obtain ⟨-, rfl⟩ := Prod.mk.inj h
      exact ⟨rfl, rfl, rfl⟩
    · exact absurd (congrArg Prod.fst h) (by simp)
  · exact absurd (congrArg Prod.fst h) (by simp)

namespace Live

variable {σ : Type} (h : Handler σ) (l : Live σ)

/-- An injected frame, as a posting. -/
theorem emit_posting {closing : List Nat} (hreturns : h.Returns)
    (hcustody : Custody (l.relay.standing closing)) (t : ThreadId) (p : Nat) (points : List Point) :
    Posting l.relay (l.emit h t p points).2.relay.books := by
  rcases emit_books h l hreturns t p points fun k hk => Relay.listener_lt hcustody hk with
    ⟨-, hsame⟩ | ⟨k, hk, hbooking⟩
  · exact .of_eq hsame
  · exact .injected p k _ hk hbooking

/-- **A frame source that wakes up**, as a posting. -/
theorem wake_posting {closing : List Nat} (hreturns : h.Returns)
    (hcustody : Custody (l.relay.standing closing)) (i : Nat) (source : Source) :
    Posting l.relay (l.wake h i source).relay.books := by
  have hstanding := Relay.standing_wakeSource closing l.relay i source
  have hbooks := Relay.books_wakeSource i source l.relay
  unfold wake
  cases hwake : l.relay.wakeSource i source with
  | mk produced v =>
    rw [hwake] at hstanding hbooks
    cases produced with
    | none => exact .of_eq hbooks
    | some frame =>
      obtain ⟨p, points⟩ := frame
      obtain ⟨-, hcameras, hchannels, hruntimes⟩ := Relay.wakeSource_some hwake
      have hposting := emit_books h (l.withRelay v) hreturns (.source source.run) p points
        fun k hk => Relay.listener_lt (hstanding ▸ hcustody) hk
      -- The source lives on, since the handler does not give up.
      have hok : ((l.withRelay v).emit h (.source source.run) p points).1 = .ok true ∨
          ((l.withRelay v).emit h (.source source.run) p points).1 = .ok false := by
        rcases emit_answer h (l.withRelay v) (.source source.run) p points with
          ⟨-, hfalse⟩ | ⟨-, htrue | ⟨habort, -⟩⟩
        · exact .inr hfalse
        · exact .inl htrue
        · exact absurd hreturns habort
      have hlistener : (l.withRelay v).relay.listener? p = l.relay.listener? p :=
        Relay.listener?_of_cameras hcameras p
      have hsame : (l.withRelay v).relay.books = l.relay.books := hbooks
      rw [hlistener, hsame] at hposting
      dsimp only
      generalize (l.withRelay v).emit h (.source source.run) p points = result at hposting hok ⊢
      obtain ⟨answer, l'⟩ := result
      dsimp only at hposting hok
      have hafter : Posting l.relay l'.relay.books := by
        rcases hposting with ⟨-, hkept⟩ | ⟨k, hk, hbooking⟩
        · exact .of_eq hkept
        · exact .injected p k _ hk (hbooking.congr hchannels hruntimes)
      rcases hok with rfl | rfl <;> exact hafter

end Live

/-- **What a step can do** to the books. -/
theorem World.step_books {σ : Type} {w : World σ} (h : Handler σ) (hreturns : h.Returns)
    (hcustody : Custody w.standing) (e : Event) : Posting w.relay (w.step h e).2.relay.books := by
  cases e with
  | operate i op =>
    rcases w.step_operate_cases h i op with hsame | ⟨hi, -, hafter⟩
    · rw [hsame]
      exact .same
    · rw [hafter]
      -- An operation is not in the books, but for the channel that an opening adds.
      rcases Relay.perform_books op hcustody hi with hsame | hchannel
      · exact .of_eq hsame
      · show Posting w.relay (op.perform i w.relay).2.books
        rw [hchannel]
        exact .channel i
  | beginClose i =>
    rcases step_beginClose_cases h hcustody i with hsame | ⟨s, o, c, hs, ho, hc, hafter⟩
    · rw [hsame]
      exact .same
    · rw [hafter]
      exact .of_eq (Relay.books_beginClose hs ho hc)
  | endClose i =>
    rcases step_endClose_cases h hcustody i with hsame | ⟨-, -, s, o, c, hs, ho, hc, hafter⟩
    · rw [hsame]
      exact .same
    · rw [hafter]
      exact .of_eq (Relay.books_endClose hs ho hc)
  | emit worker camera points =>
    exact Live.emit_posting h w.toLive hreturns hcustody (.worker worker) camera points
  | dispatch k =>
    rcases Live.dispatch_books h w.toLive hreturns k with
      hsame | ⟨called, f, hsettlement, ⟨q, hq, hpending⟩, hbooks⟩
    · exact .of_eq hsame
    · -- The frame leaves the queue, and is settled by what becomes of its delivery.
      show Posting w.relay (w.toLive.dispatch h k).relay.books
      rw [hbooks]
      exact .dispatched k called f hsettlement q hq hpending
  | wake i =>
    rcases w.step_wake_cases h i with hsame | ⟨source, hafter⟩
    · rw [hsame]
      exact .same
    · rw [hafter]
      exact Live.wake_posting h w.toLive hreturns hcustody i source
  | fail camera op s => exact .of_eq (Relay.books_modifyCamera w.relay camera fun _ => rfl)
  | clearFaults camera => exact .of_eq (Relay.books_modifyCamera w.relay camera fun _ => rfl)
  | disableAttach r on => exact .of_eq (Relay.books_modifyRuntime w.relay r fun _ _ => rfl)
  | refuseBuffers r fault => exact .of_eq (Relay.books_modifyRuntime w.relay r fun _ _ => rfl)
  | exitWorker worker => exact .of_eq (Relay.books_exitThread w.relay (.worker worker))
  | pass nanos => exact .same

end DepthRelay
