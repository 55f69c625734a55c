import DepthRelay.Proofs.Passage
import DepthRelay.Proofs.Share

namespace DepthRelay

/-!
# Handlers that give up

A handler that gives up takes the thread that has called it along, unless somebody above catches
that.  Whoever injects frames does, and then the frame ends as one that the handler has failed on,
except that nobody counts it.

* `Handler.Tames` — a handler that fails where another one gives up.
* `Session.Trails`, `Relay.Trails` — the same session or relay, but for moments and for failures
  that have not been counted.
* `Live.deliver_followed`, `Live.emit_followed`, `Live.dispatch_followed` — what a call that is
  given up leaves behind, stage by stage.
* `Live.emit_asked` — whether an injected frame has reached a handler, and what that has replied.
* `Relay.Trails.perform` — the operations of the sessions answer alike.
-/

variable {σ : Type}

/-! ### Handlers -/

/-- The handler remembers the same as another one and answers alike, but fails where that one gives
    up.  How long calls take is left open. -/
structure Handler.Tames (h' h : Handler σ) : Prop where
  host : ∀ r d s, (h' r d s).host = (h r d s).host
  alike : ∀ r d s, (∀ reason, (h r d s).reply ≠ .aborted reason) →
    (h' r d s).reply = (h r d s).reply
  tamed : ∀ r d s reason, (h r d s).reply = .aborted reason →
    ∃ text, (h' r d s).reply = .failed text

/-- Handlers that take notes tame each other as they do without. -/
theorem Handler.Tames.noting {h h' : Handler σ} (ht : h'.Tames h) : h'.noting.Tames h.noting where
  host r d s := by
    show (_, _) = (_, _)
    rw [ht.host r d s.1]
  alike r d s := ht.alike r d s.1
  tamed r d s := ht.tamed r d s.1

/-! ### What is not counted -/

/-- The counts with more failures. -/
def Stats.owing (n : Nat) (s : Stats) : Stats :=
  { s with handlerFailures := s.handlerFailures + n }

/-- A session that differs from another one in nothing but moments and `n` failures more.  Neither
    has a frame source. -/
inductive Session.Trails (n : Nat) (s : Session) : Session → Prop
  | mk (timing : TimingLog) (gist : timing.gist = s.timing.gist) (still : s.source? = none) :
      Trails n s { s with timing := timing, stats := s.stats.owing n }

/-- A relay that differs from another one in nothing but time and its sessions, of which the one at
    place `i` has `owed i` failures more. -/
inductive Relay.Trails (owed : Nat → Nat) (v : Relay) : Relay → Prop
  | mk (sessions : List Session) (now : Nat)
      (each : ∀ i, Option.Rel (Session.Trails (owed i)) v.sessions[i]? sessions[i]?) :
      Trails owed v { v with sessions := sessions, now := now }

/-- One more failure that is not counted. -/
def bump (i : Nat) (owed : Nat → Nat) : Nat → Nat := fun j => if j = i then owed j + 1 else owed j

/-- A failure that is not counted adds one at its own place, and nothing elsewhere. -/
theorem bump_eq_add (i : Nat) (owed : Nat → Nat) :
    bump i owed = fun j => owed j + if some i = some j then 1 else 0 := by
  funext j
  unfold bump
  by_cases hj : j = i
  · simp [hj]
  · rw [if_neg hj, if_neg fun heq => hj (Option.some_inj.mp heq).symm, Nat.add_zero]

/-- No host has a failure left over. -/
def Relay.AllTaken (w : Relay) : Prop := ∀ r ∈ w.runtimes, r.pending = []

namespace Relay.Trails

variable {owed owed' : Nat → Nat} {v w : Relay}

theorem cameras (h : v.Trails owed w) : w.cameras = v.cameras := by cases h; rfl

theorem runtimes (h : v.Trails owed w) : w.runtimes = v.runtimes := by cases h; rfl

theorem channels (h : v.Trails owed w) : w.channels = v.channels := by cases h; rfl

theorem attachments (h : v.Trails owed w) : w.attachments = v.attachments := by cases h; rfl

theorem channel (h : v.Trails owed w) (k : Nat) : w.channel k = v.channel k := by cases h; rfl

theorem runtime (h : v.Trails owed w) (r : Nat) : w.runtime r = v.runtime r := by cases h; rfl

/-- Session by session, one relay trails the other. -/
theorem each (h : v.Trails owed w) (i : Nat) :
    Option.Rel (Session.Trails (owed i)) v.sessions[i]? w.sessions[i]? := by
  cases h with
  | mk sessions now each => exact each i

/-- The sessions are as many. -/
theorem length_sessions (h : v.Trails owed w) : w.sessions.length = v.sessions.length := by
  refine Nat.le_antisymm ?_ ?_
  · refine Nat.le_of_not_lt fun hlt => ?_
    have hrel := h.each v.sessions.length
    rw [List.getElem?_eq_none (Nat.le_refl _), List.getElem?_eq_getElem hlt] at hrel
    cases hrel
  · refine Nat.le_of_not_lt fun hlt => ?_
    have hrel := h.each w.sessions.length
    rw [List.getElem?_eq_none (Nat.le_refl w.sessions.length), List.getElem?_eq_getElem hlt] at hrel
    cases hrel

/-- The session at a place, or else what stands for it. -/
theorem session_cases (h : v.Trails owed w) (i : Nat) :
    Session.Trails (owed i) (v.session i) (w.session i) ∨
      v.sessions[i]? = none ∧ w.session i = v.session i := by
  have hrel := h.each i
  unfold Relay.session
  rw [List.getD_eq_getElem?_getD, List.getD_eq_getElem?_getD]
  cases hv : v.sessions[i]? with
  | none =>
    rw [hv] at hrel
    cases hw : w.sessions[i]? with
    | none => exact .inr ⟨rfl, rfl⟩
    | some s' =>
      rw [hw] at hrel
      cases hrel
  | some s =>
    rw [hv] at hrel
    cases hw : w.sessions[i]? with
    | none =>
      rw [hw] at hrel
      cases hrel
    | some s' =>
      rw [hw] at hrel
      cases hrel with
      | some hs => exact .inl hs

/-- What neither moments nor failures have a part in is the same. -/
theorem session_eq_of (h : v.Trails owed w) {α : Type} (f : Session → α)
    (hf : ∀ n s s', Session.Trails n s s' → f s' = f s) (i : Nat) :
    f (w.session i) = f (v.session i) := by
  rcases h.session_cases i with hs | ⟨-, hs⟩
  · exact hf _ _ _ hs
  · rw [hs]

/-- Both sessions at a place change, and it may be known anew how many failures are not counted. -/
theorem modifySession (h : v.Trails owed w) (owed' : Nat → Nat) (i : Nat)
    {f g : Session → Session}
    (hfg : ∀ s s', Session.Trails (owed i) s s' → Session.Trails (owed' i) (f s) (g s'))
    (hothers : ∀ j, j ≠ i → owed' j = owed j) :
    (v.modifySession i f).Trails owed' (w.modifySession i g) := by
  cases h with
  | mk sessions now each =>
    refine .mk (v := v.modifySession i f) _ now fun j => ?_
    have hrel := each j
    show Option.Rel _ (v.sessions.modify i f)[j]? (sessions.modify i g)[j]?
    rw [List.getElem?_modify, List.getElem?_modify]
    by_cases hj : j = i
    · subst hj
      simp only [if_true]
      generalize v.sessions[j]? = a, sessions[j]? = b at hrel ⊢
      cases hrel with
      | none => exact .none
      | some hs => exact .some (hfg _ _ hs)
    · rw [hothers j hj]
      simpa [Ne.symm hj] using hrel

/-- Both sessions at a place are replaced, and so are the parts that are the same. -/
theorem set (h : v.Trails owed w) (i : Nat) {s s' : Session} (hs : Session.Trails (owed i) s s')
    (cameras : List (Camera Nat)) (runtimes : List Runtime) (channels : List Channel)
    (nextRun : Nat) :
    ({ v with cameras, runtimes, channels, nextRun, sessions := v.sessions.set i s } : Relay).Trails
      owed { w with cameras, runtimes, channels, nextRun, sessions := w.sessions.set i s' } := by
  have hboth := h.modifySession owed i (f := fun _ => s) (g := fun _ => s')
    (fun _ _ _ => hs) fun _ _ => rfl
  have hset (l : List Session) (t : Session) : l.set i t = l.modify i fun _ => t := by
    cases hl : l[i]? with
    | none => rw [modify_of_getElem?_eq_none _ hl, List.set_eq_of_length_le (List.getElem?_eq_none_iff.mp hl)]
    | some a => rw [modify_of_getElem? _ hl]
  rw [hset, hset]
  cases h with
  | mk sessions now each => exact .mk _ now hboth.each

/-- A count that does not look at failures. -/
theorem count (h : v.Trails owed w) (k : Nat) {f : Stats → Stats}
    (hf : ∀ n s, f (s.owing n) = (f s).owing n) : (v.count k f).Trails owed (w.count k f) := by
  unfold Relay.count
  rw [h.channel]
  refine h.modifySession owed _ (fun s s' hs => ?_) fun _ _ => rfl
  cases hs with
  | mk timing gist still =>
    show Session.Trails _ _ { s with timing := timing, stats := f (s.stats.owing _) }
    rw [hf]
    exact .mk timing gist still

/-- A failure that only one of the relays counts. -/
theorem count_failure (h : v.Trails owed w) (k : Nat) :
    v.Trails (bump (v.channel k).session owed) (w.count k Stats.noteHandlerFailure) := by
  have hboth := h.modifySession (bump (v.channel k).session owed) (v.channel k).session
    (f := id) (g := fun s => { s with stats := s.stats.noteHandlerFailure })
    (fun s s' hs => ?_) fun j hj => if_neg hj
  · unfold Relay.modifySession at hboth
    rw [List.modify_id] at hboth
    unfold Relay.count
    rw [h.channel]
    exact hboth
  · cases hs with
    | mk timing gist still =>
      have hone : bump (v.channel k).session owed (v.channel k).session =
          owed (v.channel k).session + 1 := if_pos rfl
      rw [hone]
      exact .mk timing gist still

section Parts

variable (h : v.Trails owed w)

include h

theorem modifyCamera (p : Nat) (f : Camera Nat → Camera Nat) :
    (v.modifyCamera p f).Trails owed (w.modifyCamera p f) := by
  cases h with
  | mk sessions now each => exact .mk sessions now each

theorem modifyChannel (k : Nat) (f : Channel → Channel) :
    (v.modifyChannel k f).Trails owed (w.modifyChannel k f) := by
  cases h with
  | mk sessions now each => exact .mk sessions now each

theorem modifyRuntime (r : Nat) (f : Runtime → Runtime) :
    (v.modifyRuntime r f).Trails owed (w.modifyRuntime r f) := by
  cases h with
  | mk sessions now each => exact .mk sessions now each

/-- A thread ends in both. -/
theorem exitThread (t : ThreadId) : (v.exitThread t).Trails owed (w.exitThread t) := by
  cases h with
  | mk sessions now each => exact .mk sessions now each

/-- A frame source ends in both, if there is one. -/
theorem exitSource (source : Option Source) :
    (v.exitSource source).Trails owed (w.exitSource source) := by
  cases source with
  | none => exact h
  | some s => exact h.exitThread _

/-- Time is not the same in both, so it may pass as it likes. -/
theorem pass (n m : Nat) : ({ v with now := n } : Relay).Trails owed { w with now := m } := by
  cases h with
  | mk sessions now each => exact .mk sessions m each

end Parts

end Relay.Trails

/-! ### Stages of a delivery -/

/-- The same ticket, taken at another moment. -/
inductive Ticket.Trails (t : Ticket) : Ticket → Prop
  | mk (started : Option Moment) (timed : started.isSome = t.started.isSome) :
      Trails t { t with started := started }

/-- The handler has answered alike. -/
theorem Session.Trails.answer {n : Nat} {s s' : Session} (h : Session.Trails n s s') (reply : Reply)
    {started started' : Option Moment} (timed : started'.isSome = started.isSome)
    (stop stop' : Moment) :
    Session.Trails n (s.answer reply started stop) (s'.answer reply started' stop') := by
  obtain ⟨timing, gist, still⟩ := h
  have hfailed : Session.Trails n { s with stats := s.stats.noteHandlerFailure }
      { s with timing := timing, stats := (s.stats.owing n).noteHandlerFailure } := by
    have howing : (s.stats.owing n).noteHandlerFailure = s.stats.noteHandlerFailure.owing n := by
      simp only [Stats.noteHandlerFailure, Stats.owing, Nat.add_right_comm]
    rw [howing]
    exact .mk (s := { s with stats := s.stats.noteHandlerFailure }) timing gist still
  cases reply with
  | failed text | aborted reason => exact hfailed
  | accepted =>
    cases started with
    | none =>
      obtain rfl : started' = none := by simpa using timed
      exact .mk (s := { s with stats := s.stats.noteDelivered }) timing gist still
    | some x =>
      obtain ⟨y, rfl⟩ := Option.isSome_iff_exists.mp timed
      refine .mk (s := { s with
        stats := s.stats.noteDelivered, timing := s.timing.record ⟨x, stop⟩ }) _ ?_ still
      simp only [Option.elim_some]
      rw [TimingLog.gist_record, TimingLog.gist_record, gist]

namespace Relay.Trails

variable {owed : Nat → Nat} {v w : Relay}

/-- A frame that a camera offers gets the same number in both. -/
theorem offer (h : v.Trails owed w) (p : Nat) (points : List Point) :
    (w.offer p points).1 = (v.offer p points).1 ∧
      (v.offer p points).2.Trails owed (w.offer p points).2 := by
  have hlistener : w.listener? p = v.listener? p := Relay.listener?_of_cameras h.cameras p
  cases hk : v.listener? p with
  | none =>
    rw [Relay.offer_of_none hk, Relay.offer_of_none (hlistener.trans hk)]
    exact ⟨rfl, h⟩
  | some k =>
    obtain ⟨c, hc, hcapturing, hl⟩ := Relay.listener?_eq_some.mp hk
    rw [Relay.offer_of_some hc hcapturing hl,
      Relay.offer_of_some (by rw [h.cameras]; exact hc) hcapturing hl]
    refine ⟨rfl, ?_⟩
    cases h with
    | mk sessions now each => exact .mk sessions now each

/-- A frame waits, or is dropped, in both. -/
theorem submit (h : v.Trails owed w) (k : Nat) (q : Handoff) (points : List Point) :
    (v.submit k q points).Trails owed (w.submit k q points) := by
  unfold Relay.submit
  rcases q.submit points with ⟨_ | _, q'⟩
  · exact h.modifyChannel k _
  · exact (h.modifyChannel k _).count k fun _ _ => rfl

/-- A thread attaches in both or in neither, and takes a ticket if the frame is to be timed. -/
theorem begin (h : v.Trails owed w) (t : ThreadId) (k : Nat) :
    Option.Rel Ticket.Trails (v.begin t k).1 (w.begin t k).1 ∧
      (v.begin t k).2.Trails owed (w.begin t k).2 := by
  have htimed : ((w.session (v.channel k).session).timing.begin? w.now).isSome =
      ((v.session (v.channel k).session).timing.begin? v.now).isSome := by
    have henabled := h.session_eq_of (fun s => s.timing.gist.enabled) (fun n s s' hs => by
      cases hs with
      | mk timing gist still => exact congrArg TimingLog.enabled gist) (v.channel k).session
    change (w.session (v.channel k).session).timing.enabled = _ at henabled
    unfold TimingLog.begin?
    rw [henabled]
    show (if (v.session (v.channel k).session).timing.enabled then _ else none).isSome = _
    split <;> rfl
  unfold Relay.begin
  dsimp only
  rw [h.channel, h.attachments, h.runtimes]
  generalize v.attachments.attach t (v.channel k).binding v.runtimes = result
  obtain ⟨handle, as, runtimes⟩ := result
  have hattached : ({ v with attachments := as, runtimes } : Relay).Trails owed
      { w with attachments := as, runtimes } := by
    cases h with
    | mk sessions now each => exact .mk sessions now each
  cases handle with
  | none => exact ⟨.none, hattached.count k fun _ _ => rfl⟩
  | some handle => exact ⟨.some (.mk _ htimed), hattached⟩

/-- A frame is written alike. -/
theorem publish (h : v.Trails owed w) (k : Nat) (points : List Point) :
    (w.publish k points).1 = (v.publish k points).1 ∧
      (v.publish k points).2.Trails owed (w.publish k points).2 := by
  unfold Relay.publish
  rw [h.channel]
  cases (v.channel k).publish points with
  | error e => exact ⟨rfl, h.count k fun _ _ => rfl⟩
  | ok result =>
    obtain ⟨d, written, x⟩ := result
    refine ⟨rfl, (h.modifyChannel k _).count k fun n s => ?_⟩
    unfold Stats.noteWritten
    split <;> rfl

/-- A buffer is visible to the host in both or in neither. -/
theorem enter (h : v.Trails owed w) (k : Nat) (d : Delivery) :
    (w.enter k d).1 = (v.enter k d).1 ∧ (v.enter k d).2.Trails owed (w.enter k d).2 := by
  unfold Relay.enter
  dsimp only
  rw [h.channel, h.runtime]
  cases (v.runtime (v.channel k).binding.runtime).enter d.view with
  | error e => exact ⟨rfl, h⟩
  | ok r => exact ⟨rfl, h.modifyRuntime _ _⟩

/-- The same frame is taken out of the hand-off, if one waits. -/
theorem takeQueued? (h : v.Trails owed w) (k : Nat) :
    Option.Rel (fun x y => y.1 = x.1 ∧ x.2.Trails owed y.2) (v.takeQueued? k)
      (w.takeQueued? k) := by
  unfold Relay.takeQueued?
  rw [h.channel]
  cases (v.channel k).handoff.bind Handoff.take? with
  | none => exact .none
  | some taken => exact .some ⟨rfl, h.modifyChannel k _⟩

end Relay.Trails

/-! ### Hosts with nothing left over -/

namespace Relay

variable {w : Relay}

/-- Only hosts matter for whether everything has been taken. -/
theorem AllTaken.congr {v : Relay} (hw : w.AllTaken) (h : v.runtimes = w.runtimes) : v.AllTaken := by
  unfold AllTaken
  rw [h]
  exact hw

/-- Hosts stay without failures left over if a change of one of them leaves none. -/
theorem AllTaken.modify (hw : w.AllTaken) (n : Nat) {f : Runtime → Runtime}
    (hf : ∀ r : Runtime, r.pending = [] → (f r).pending = []) : (w.modifyRuntime n f).AllTaken := by
  intro r hr
  obtain ⟨j, hj⟩ := List.mem_iff_getElem?.mp hr
  obtain ⟨r', hr', ⟨-, rfl⟩ | ⟨-, rfl⟩⟩ := of_getElem?_modify hj
  · exact hw r (List.mem_of_getElem? hr')
  · exact hf r' (hw r' (List.mem_of_getElem? hr'))

/-- Only what hosts have left over matters. -/
theorem AllTaken.of_pendings {v : Relay} (hw : w.AllTaken)
    (h : v.runtimes.map Runtime.pending = w.runtimes.map Runtime.pending) : v.AllTaken := by
  intro r hr
  obtain ⟨r', hr', hsame⟩ := List.mem_map.mp (h ▸ List.mem_map_of_mem hr)
  exact hsame.symm.trans (hw r' hr')

theorem AllTaken.exitThread (hw : w.AllTaken) (t : ThreadId) : (w.exitThread t).AllTaken :=
  hw.of_pendings (map_exit (fun _ => rfl) t w.attachments w.runtimes)

/-- The end of a frame source takes no failure along. -/
theorem AllTaken.exitSource (hw : w.AllTaken) (source : Option Source) :
    (w.exitSource source).AllTaken := by
  cases source with
  | none => exact hw
  | some s => exact hw.exitThread _

/-- A thread that attaches leaves no failure behind. -/
theorem AllTaken.begin (hw : w.AllTaken) (t : ThreadId) (k : Nat) : (w.begin t k).2.AllTaken := by
  have hattach := map_attach (f := Runtime.pending) (fun _ _ _ _ => rfl) t (w.channel k).binding
    w.attachments w.runtimes
  unfold Relay.begin
  dsimp only
  generalize w.attachments.attach t (w.channel k).binding w.runtimes = result at hattach ⊢
  obtain ⟨handle, as, runtimes⟩ := result
  cases handle <;> exact hw.of_pendings hattach

/-- The buffer is exposed to a host, or the handler is not called. -/
theorem enter_cases (k : Nat) (d : Delivery) (w : Relay) :
    (∃ e, w.enter k d = (.error e, w)) ∨
      ∃ r, w.runtimes[(w.channel k).binding.runtime]? = some r ∧
        w.enter k d = (.ok (), w.modifyRuntime (w.channel k).binding.runtime fun _ =>
          { r with invocations := r.invocations + 1 }) := by
  unfold enter Runtime.enter
  dsimp only
  cases hr : w.runtimes[(w.channel k).binding.runtime]? with
  | none =>
    refine .inl ⟨.noBuffer, ?_⟩
    have hnone : (w.runtime (w.channel k).binding.runtime).isExposed d.view = false := by
      unfold runtime
      rw [List.getD_eq_getElem?_getD, hr]
      rfl
    simp [hnone]
  | some r =>
    rw [runtime_eq hr]
    cases hseen : r.isExposed d.view with
    | false => exact .inl ⟨.noBuffer, by simp⟩
    | true => exact .inr ⟨r, rfl, by simp⟩

/-- A handler that cannot be called has failed, and that is all. -/
theorem AllTaken.conclude_error (hw : w.AllTaken) (t : Ticket) (e : HostError) :
    w.conclude t (.error e) = w.count t.channel Stats.noteHandlerFailure := by
  have hpending : (w.runtime (w.channel t.channel).binding.runtime).pending = [] := by
    unfold runtime
    rw [List.getD_eq_getElem?_getD]
    cases hr : w.runtimes[(w.channel t.channel).binding.runtime]? with
    | none => rfl
    | some r => exact hw r (List.mem_of_getElem? hr)
  have hconclude : (w.runtime (w.channel t.channel).binding.runtime).conclude (.error e) t.handle =
      (.failed e.message, w.runtime (w.channel t.channel).binding.runtime) := by
    generalize w.runtime (w.channel t.channel).binding.runtime = r at hpending ⊢
    obtain ⟨nextHandle, attaches, detaches, invocations, exposed, pending, attachDisabled,
      exposeFault, attempts, exposures⟩ := r
    dsimp only at hpending
    subst hpending
    rfl
  have hsame : w.modifyRuntime (w.channel t.channel).binding.runtime
      (fun _ => w.runtime (w.channel t.channel).binding.runtime) = w := by
    unfold modifyRuntime
    cases hr : w.runtimes[(w.channel t.channel).binding.runtime]? with
    | none => rw [modify_of_getElem?_eq_none _ hr]
    | some r => rw [runtime_eq hr, modify_of_getElem? _ hr, set_of_getElem? hr]
  unfold conclude
  dsimp only
  rw [hconclude]
  dsimp only
  rw [hsame]

end Relay

/-! ### Deliveries -/

namespace Live

/-- How a delivery for the session at place `i` comes out if the handler may give up, and if it
    fails instead; then the answer is `a`. -/
inductive Followed {α : Type} (owed : Nat → Nat) (i : Nat) (a : α) :
    Except Abort α × Live σ → Except Abort α × Live σ → Prop
  | alike (b : α) {x y : Live σ} (host : y.host = x.host) (taken : x.relay.AllTaken)
      (trails : x.relay.Trails owed y.relay) : Followed owed i a (.ok b, x) (.ok b, y)
  | aborted (reason : Abort) {x y : Live σ} (host : y.host = x.host) (taken : x.relay.AllTaken)
      (trails : x.relay.Trails (bump i owed) y.relay) :
      Followed owed i a (.error reason, x) (.ok a, y)

variable {h h' : Handler σ} {l m : Live σ} {owed : Nat → Nat}

/-- The end of a call of the handler. -/
def finish (t : Ticket) (a : Answer σ) (w : Relay) : Except Abort Unit × Live σ :=
  let w := { w with now := w.now + a.elapsed }
  match a.reply with
  | .aborted reason => (.error reason, ⟨w, a.host⟩)
  | reply => (.ok (), ⟨(w.leave t reply).conclude t (.ok ()), a.host⟩)

/-- The end of a call is followed: a failure that is given up on is not counted. -/
theorem finish_followed {v w : Relay} (hrelay : v.Trails owed w) (htaken : v.AllTaken)
    {t t' : Ticket} (ht : t.Trails t') {r : Runtime}
    (hr : v.runtimes[(v.channel t.channel).binding.runtime]? = some r) {a a' : Answer σ}
    (hhost : a'.host = a.host)
    (halike : (∀ reason, a.reply ≠ .aborted reason) → a'.reply = a.reply)
    (htamed : ∀ reason, a.reply = .aborted reason → ∃ text, a'.reply = .failed text) :
    Followed owed (v.channel t.channel).session () (finish t a v) (finish t' a' w) := by
  obtain ⟨started, timed⟩ := ht
  have hpending : r.pending = [] := htaken r (List.mem_of_getElem? hr)
  have hpassed := hrelay.pass (v.now + a.elapsed) (w.now + a'.elapsed)
  have hr' : w.runtimes[(w.channel t.channel).binding.runtime]? = some r := by
    rw [hrelay.channel, hrelay.runtimes]
    exact hr
  -- A handler that answers leaves its host as it was when it was called.
  have hleft (reply : Reply) (hreply : ∀ reason, reply ≠ .aborted reason) :=
    Relay.leave_conclude_eq (w := { v with now := v.now + a.elapsed }) (t := t) hr hpending hreply
  have hleft' (reply : Reply) (hreply : ∀ reason, reply ≠ .aborted reason) :=
    Relay.leave_conclude_eq (w := { w with now := w.now + a'.elapsed })
      (t := { t with started := started }) hr' hpending hreply
  have hanswered (reply : Reply) (hreply : ∀ reason, reply ≠ .aborted reason) :
      Followed owed (v.channel t.channel).session ()
        (.ok (), ⟨(Relay.leave t reply { v with now := v.now + a.elapsed }).conclude t (.ok ()),
          a.host⟩)
        (.ok (), ⟨(Relay.leave { t with started := started } reply
          { w with now := w.now + a'.elapsed }).conclude { t with started := started } (.ok ()),
          a'.host⟩) := by
    rw [hleft reply hreply, hleft' reply hreply]
    refine .alike () hhost (htaken.congr rfl) ?_
    show Relay.Trails owed (Relay.modifySession (v.channel t.channel).session _ _)
      (Relay.modifySession (w.channel t.channel).session _ _)
    rw [hrelay.channel]
    exact hpassed.modifySession owed _ (fun s s' hs => hs.answer reply timed _ _) fun _ _ => rfl
  unfold finish
  cases hreply : a.reply with
  | accepted | failed text =>
    rw [halike (by simp [hreply]), hreply]
    exact hanswered _ (by simp)
  | aborted reason =>
    obtain ⟨text, hfailed⟩ := htamed reason hreply
    rw [hfailed]
    dsimp only
    rw [hleft' (.failed text) (by simp)]
    exact .aborted reason hhost (htaken.congr rfl) (hpassed.count_failure t.channel)

/-- The rest of a frame, once it is known whether the handler is called. -/
def proceed (h : Handler σ) (t : Ticket) (d : Delivery) (l : Live σ) :
    Except HostError Unit × Relay → Except Abort Unit × Live σ
  | (.error e, w) => (.ok (), l.withRelay (w.conclude t (.error e)))
  | (.ok (), w) => finish t (h (w.channel t.channel).binding.runtime d l.host) w

/-- A call of the handler is followed, whether or not the host sees the buffer. -/
theorem handle_followed (hh : h'.Tames h) (hrelay : l.relay.Trails owed m.relay)
    (hhost : m.host = l.host) (htaken : l.relay.AllTaken) {t t' : Ticket} (ht : t.Trails t')
    (d : Delivery) :
    Followed owed (l.relay.channel t.channel).session () (l.handle h t d) (m.handle h' t' d) := by
  have hchannel : t'.channel = t.channel := by cases ht; rfl
  obtain ⟨hanswer, henter⟩ := hrelay.enter t.channel d
  have hhandle : l.handle h t d = proceed h t d l (l.relay.enter t.channel d) := rfl
  have hhandle' : m.handle h' t' d = proceed h' t' d m (m.relay.enter t.channel d) := by
    rw [← hchannel]
    rfl
  rw [hhandle, hhandle']
  unfold proceed
  generalize m.relay.enter t.channel d = result at hanswer henter ⊢
  obtain ⟨answer, w⟩ := result
  dsimp only at hanswer henter
  subst hanswer
  rcases Relay.enter_cases t.channel d l.relay with ⟨e, he⟩ | ⟨r, hr, he⟩
  · -- The handler is called in neither case.
    rw [he] at henter ⊢
    have htaken' : w.AllTaken := htaken.congr henter.runtimes
    dsimp only
    rw [htaken.conclude_error, htaken'.conclude_error, hchannel]
    refine .alike () hhost (htaken.congr rfl) (henter.count t.channel fun _ _ => ?_)
    simp only [Stats.noteHandlerFailure, Stats.owing, Nat.add_right_comm]
  · rw [he] at henter ⊢
    dsimp only
    rw [henter.channel, hchannel, hhost]
    have htaken' := htaken.modify (l.relay.channel t.channel).binding.runtime
      (f := fun _ => { r with invocations := r.invocations + 1 })
      fun _ _ => htaken r (List.mem_of_getElem? hr)
    exact finish_followed henter htaken' ht (getElem?_modify_of_some hr) (hh.host _ _ _)
      (hh.alike _ _ _) (hh.tamed _ _ _)

/-- **A delivery is followed**: it comes out alike, but for a failure that is not counted. -/
theorem deliver_followed (hh : h'.Tames h) (hrelay : l.relay.Trails owed m.relay)
    (hhost : m.host = l.host) (htaken : l.relay.AllTaken) (t : ThreadId) (k : Nat)
    (points : List Point) :
    Followed owed (l.relay.channel k).session () (l.deliver h t k points)
      (m.deliver h' t k points) := by
  unfold deliver
  obtain ⟨hticket, hbegun⟩ := hrelay.begin t k
  have htaken₁ := htaken.begin t k
  have hchannels := Relay.channels_begin t k l.relay
  have hname (ticket : Ticket) (hticket : (l.relay.begin t k).1 = some ticket) :=
    Relay.channel_begin hticket
  generalize l.relay.begin t k = x, m.relay.begin t k = y at *
  -- The tickets are granted or refused alike, and may differ in the moment of their beginning.
  obtain ⟨ticket, v⟩ := x
  obtain ⟨ticket', w⟩ := y
  dsimp only at hticket hbegun htaken₁ hchannels hname
  cases hticket with
  | none => exact .alike () hhost htaken₁ hbegun
  | @some t₁ t₁' ht =>
    have hk : t₁.channel = k := hname t₁ rfl
    have hchannel : v.channel k = l.relay.channel k := Relay.channel_of_channels hchannels k
    obtain ⟨hdelivery, hpublished⟩ := hbegun.publish k points
    have hpublish : (v.publish k points).2.runtimes = v.runtimes ∧
        ((v.publish k points).2.channel k).session = (v.channel k).session := by
      unfold Relay.publish
      cases hp : (v.channel k).publish points with
      | error e => exact ⟨rfl, rfl⟩
      | ok result =>
        have hwiring := Relay.wiring_modifyChannel (Relay.wiring_publish hp)
        exact ⟨rfl, congrArg Wiring.session hwiring⟩
    dsimp only
    generalize v.publish k points = x, w.publish k points = y at *
    obtain ⟨d?, v₂⟩ := x
    obtain ⟨d?', w₂⟩ := y
    dsimp only at hdelivery hpublished hpublish
    subst hdelivery
    -- Until the handler is called nothing has been put down at the hosts.
    have htaken₂ : v₂.AllTaken := htaken₁.congr hpublish.1
    cases d?' with
    | none => exact .alike () hhost htaken₂ hpublished
    | some d =>
      have hhandle := handle_followed hh (l := l.withRelay v₂) (m := m.withRelay w₂) hpublished
        hhost htaken₂ ht d
      have hsession : (v₂.channel t₁.channel).session = (l.relay.channel k).session := by
        rw [hk, hpublish.2, hchannel]
      rwa [show ((l.withRelay v₂).relay.channel t₁.channel).session =
        (l.relay.channel k).session from hsession] at hhandle

/-- Whether the handler of the host at place `r` has been asked about a frame, and how that came
    out. -/
inductive Asked {α : Type} (h : Handler σ) (l : Live σ) (r : Nat) : Except Abort α × Live σ → Prop
  | not (a : α) {x : Live σ} (host : x.host = l.host) : Asked h l r (.ok a, x)
  | answered (a : α) (d : Delivery) {x : Live σ} (host : x.host = (h r d l.host).host)
      (reply : ∀ reason, (h r d l.host).reply ≠ .aborted reason) : Asked h l r (.ok a, x)
  | aborted (reason : Abort) (d : Delivery) {x : Live σ} (host : x.host = (h r d l.host).host)
      (reply : (h r d l.host).reply = .aborted reason) : Asked h l r (.error reason, x)

/-- A frame is delivered exactly if the handler does not give up. -/
theorem deliver_asked (h : Handler σ) (l : Live σ) (t : ThreadId) (k : Nat) (points : List Point) :
    Asked h l (l.relay.channel k).binding.runtime (l.deliver h t k points) := by
  unfold deliver
  have hchannels := Relay.channels_begin t k l.relay
  have hname (ticket : Ticket) (hticket : (l.relay.begin t k).1 = some ticket) :=
    Relay.channel_begin hticket
  generalize l.relay.begin t k = x at *
  obtain ⟨_ | ticket, v⟩ := x
  · exact .not () rfl
  · -- The handler that is asked is that of the host the channel was bound to from the start.
    have hchannel : v.channel k = l.relay.channel k := Relay.channel_of_channels hchannels k
    have hbinding : ((v.publish k points).2.channel k).binding = (l.relay.channel k).binding := by
      rw [← hchannel]
      unfold Relay.publish
      cases hp : (v.channel k).publish points with
      | error e => rfl
      | ok result =>
        exact congrArg Wiring.binding (Relay.wiring_modifyChannel (Relay.wiring_publish hp))
    dsimp only
    generalize v.publish k points = y at hbinding ⊢
    obtain ⟨_ | d, v₂⟩ := y
    · exact .not () rfl
    · have hk : ticket.channel = k := hname ticket rfl
      dsimp only at hbinding ⊢
      unfold handle
      have hentered := Relay.channels_enter ticket.channel d v₂
      rw [show (l.withRelay v₂).relay = v₂ from rfl]
      generalize v₂.enter ticket.channel d = z at hentered ⊢
      obtain ⟨_ | _, v₃⟩ := z
      · exact .not () rfl
      · have hr : (v₃.channel ticket.channel).binding.runtime =
            (l.relay.channel k).binding.runtime := by
          rw [Relay.channel_of_channels hentered, hk, hbinding]
        dsimp only
        rw [hr]
        show Asked h l _ (match (h _ d l.host).reply with
          | .aborted reason => (.error reason, _)
          | reply => (.ok (), _))
        -- Whether the handler answers or gives up decides between the two ways of having been
        -- asked.
        cases hreply : (h (l.relay.channel k).binding.runtime d l.host).reply with
        | accepted | failed text => exact .answered () d rfl (by simp [hreply])
        | aborted reason => exact .aborted reason d rfl hreply

/-- An injected frame has reached at most one handler. -/
theorem emit_asked (h : Handler σ) (l : Live σ) (t : ThreadId) (p : Nat) (points : List Point) :
    ∃ r, Asked h l r (l.emit h t p points) := by
  unfold emit
  generalize l.relay.offer p points = x
  obtain ⟨_ | k, v⟩ := x
  · exact ⟨0, .not false rfl⟩
  · dsimp only
    cases (v.channel k).handoff with
    | some q => exact ⟨0, .not true rfl⟩
    | none =>
      have hasked := deliver_asked h (l.withRelay v) t k points
      refine ⟨((l.withRelay v).relay.channel k).binding.runtime, ?_⟩
      generalize (l.withRelay v).deliver h t k points = y at hasked ⊢
      cases hasked with
      | not a host => exact .not true host
      | answered a d host reply => exact .answered true d host reply
      | aborted reason d host reply => exact .aborted reason d host reply

end Live

/-- Place of the session that gets the frames of a camera, if one does. -/
def Relay.hearer (p : Nat) (w : Relay) : Nat :=
  (w.listener? p).elim 0 fun k => (w.channel k).session

namespace Live

variable {h h' : Handler σ} {l m : Live σ} {owed : Nat → Nat}

/-- **An injected frame** that the handler gives up on is one that it has failed on. -/
theorem emit_followed (hh : h'.Tames h) (hrelay : l.relay.Trails owed m.relay)
    (hhost : m.host = l.host) (htaken : l.relay.AllTaken) (t : ThreadId) (p : Nat)
    (points : List Point) :
    Followed owed (l.relay.hearer p) true (l.emit h t p points) (m.emit h' t p points) := by
  obtain ⟨hlistener, hoffered⟩ := hrelay.offer p points
  unfold emit Relay.hearer
  cases hk : l.relay.listener? p with
  | none =>
    have hnone : l.relay.offer p points = _ := Relay.offer_of_none hk
    -- Nobody listens: both relays count the frame, and that is all.
    rw [hnone] at hlistener hoffered ⊢
    generalize m.relay.offer p points = y at hlistener hoffered ⊢
    obtain ⟨k?, w⟩ := y
    dsimp only at hlistener
    subst hlistener
    exact .alike false hhost htaken hoffered
  | some k =>
    obtain ⟨c, hc, hcapturing, hl⟩ := Relay.listener?_eq_some.mp hk
    have hsome : l.relay.offer p points = _ := Relay.offer_of_some hc hcapturing hl
    rw [hsome] at hlistener hoffered ⊢
    generalize m.relay.offer p points = y at hlistener hoffered ⊢
    obtain ⟨k?, w⟩ := y
    dsimp only at hlistener hoffered
    subst hlistener
    dsimp only [Option.elim_some]
    -- From here on the frame is on the way to the same channel in both relays.
    rw [hoffered.channel]
    generalize hv : ({ l.relay with
      cameras := l.relay.cameras.set p { c with emitted := c.emitted + 1 } } : Relay) = v
      at hoffered ⊢
    have htaken' : v.AllTaken := htaken.congr (by rw [← hv])
    have hchannel : v.channel k = l.relay.channel k := by rw [← hv]; rfl
    rw [← hchannel]
    cases (v.channel k).handoff with
    | some q =>
      -- A frame that waits is not given up on yet.
      refine .alike true hhost (htaken'.congr ?_) (hoffered.submit k q points)
      show (v.submit k q points).runtimes = v.runtimes
      unfold Relay.submit
      rcases q.submit points with ⟨_ | _, q'⟩ <;> rfl
    | none =>
      have hdeliver := deliver_followed hh (l := l.withRelay v) (m := m.withRelay w) hoffered hhost
        htaken' t k points
      dsimp only
      change Followed owed (v.channel k).session () _ _ at hdeliver
      generalize (l.withRelay v).deliver h t k points = x at hdeliver ⊢
      generalize (m.withRelay w).deliver h' t k points = y at hdeliver ⊢
      cases hdeliver with
      | alike b host taken trails => exact .alike true host taken trails
      | aborted reason host taken trails => exact .aborted reason host taken trails

/-- A dispatch thread whose handler does not give up. -/
theorem dispatch_followed (hh : h'.Tames h) (hrelay : l.relay.Trails owed m.relay)
    (hhost : m.host = l.host) (htaken : l.relay.AllTaken) (k : Nat)
    (hanswers : (l.relay.channel k).handoff ≠ none → ∀ d s reason,
      (h (l.relay.channel k).binding.runtime d s).reply ≠ .aborted reason) :
    (m.dispatch h' k).host = (l.dispatch h k).host ∧ (l.dispatch h k).relay.AllTaken ∧
      (l.dispatch h k).relay.Trails owed (m.dispatch h' k).relay := by
  have htake := hrelay.takeQueued? k
  have hqueued : l.relay.takeQueued? k ≠ none → (l.relay.channel k).handoff ≠ none := by
    intro hsome hnone
    exact hsome (by simp [Relay.takeQueued?, hnone])
  have hkept (points : List Point) (v : Relay) (hv : l.relay.takeQueued? k = some (points, v)) :
      v.runtimes = l.relay.runtimes ∧
        (v.channel k).binding.runtime = (l.relay.channel k).binding.runtime := by
    obtain ⟨q, rest, hq, -, rfl⟩ := Relay.takeQueued?_eq_some hv
    refine ⟨rfl, ?_⟩
    rw [Relay.channel_modifyChannel _ _ _ (List.getElem?_eq_some_iff.mp
      (Relay.getElem?_of_handoff hq)).1]
  unfold dispatch
  generalize l.relay.takeQueued? k = x, m.relay.takeQueued? k = y at *
  cases htake with
  | none => exact ⟨hhost, htaken, hrelay⟩
  | @some x y hsame =>
    obtain ⟨points, v⟩ := x
    obtain ⟨points', w⟩ := y
    obtain ⟨rfl, hvw⟩ := hsame
    obtain ⟨hruntimes, hruntime⟩ := hkept points' v rfl
    have hasked := deliver_asked h (l.withRelay v) (.dispatch k) k points'
    have hdeliver := deliver_followed hh (l := l.withRelay v) (m := m.withRelay w) hvw hhost
      (htaken.congr hruntimes) (.dispatch k) k points'
    dsimp only
    generalize (l.withRelay v).deliver h (.dispatch k) k points' = x at hdeliver hasked ⊢
    generalize (m.withRelay w).deliver h' (.dispatch k) k points' = y at hdeliver ⊢
    cases hdeliver with
    | alike b host taken trails =>
      exact ⟨host, taken.congr rfl, trails.modifyChannel k _⟩
    | aborted reason host taken trails =>
      -- The handler would have given up on a frame from a hand-off.
      cases hasked with
      | aborted _ d _ reply =>
        change (h (v.channel k).binding.runtime d l.host).reply = _ at reply
        rw [hruntime] at reply
        exact absurd reply (hanswers (hqueued (by simp)) d l.host reason)

end Live

/-! ### Operations -/

/-- How an operation on a session comes out for either of two that differ in moments and
    failures. -/
structure Session.Kept {α : Type} (alike : α → α → Prop) (n : Nat)
    (x y : α × Session × List (Camera Nat)) : Prop where
  answer : alike x.1 y.1
  session : Session.Trails n x.2.1 y.2.1
  cameras : y.2.2 = x.2.2

namespace Session.Trails

variable {α : Type} {n : Nat} {s s' : Session}

theorem camera_eq (h : Session.Trails n s s') : s'.camera = s.camera := by cases h; rfl

theorem state_eq (h : Session.Trails n s s') : s'.state = s.state := by cases h; rfl

theorem settings_eq (h : Session.Trails n s s') : s'.settings = s.settings := by cases h; rfl

theorem runtime_eq (h : Session.Trails n s s') : s'.runtime = s.runtime := by cases h; rfl

theorem source?_eq (h : Session.Trails n s s') : s.source? = none := by cases h; assumption

/-- A camera without a source can be held by both. -/
theorem setCamera (h : Session.Trails n s s') {o : Option OpenCamera}
    (hstill : (o.bind fun o => o.device.source) = none) :
    Session.Trails n { s with camera := o } { s' with camera := o } := by
  obtain ⟨timing, gist, still⟩ := h
  exact .mk (s := { s with camera := o }) timing gist hstill

/-- A change of state, in both sessions. -/
theorem setState (h : Session.Trails n s s') (state : SessionState) :
    Session.Trails n { s with state := state } { s' with state := state } := by
  obtain ⟨timing, gist, still⟩ := h
  exact .mk (s := { s with state := state }) timing gist still

/-- Timing is switched alike. -/
theorem setEnabled (h : Session.Trails n s s') (on : Bool) :
    Session.Trails n { s with timing := s.timing.setEnabled on }
      { s' with timing := s'.timing.setEnabled on } := by
  obtain ⟨timing, gist, still⟩ := h
  refine .mk (s := { s with timing := s.timing.setEnabled on }) (timing.setEnabled on) ?_ still
  rw [TimingLog.gist_setEnabled, TimingLog.gist_setEnabled, gist]

/-- Both sessions do the same to the camera that they hold, if that looks at nothing but the
    camera. -/
theorem withCamera (h : Session.Trails n s s') (operation : String)
    {f g : Device → Camera Nat → Except Status α × Device × Camera Nat}
    (cameras : List (Camera Nat)) (hf : ∀ d, ∀ c ∈ cameras, g d c = f d c)
    (hstill : ∀ d, ∀ c ∈ cameras, d.source = none → (f d c).2.1.source = none) :
    Session.Kept (· = ·) n (s.withCamera operation f cameras)
      (s'.withCamera operation g cameras) := by
  have hsource := h.source?_eq
  unfold Session.source? at hsource
  unfold Session.withCamera
  rw [h.camera_eq]
  cases ho : s.camera with
  | none => exact ⟨by rw [h.state_eq], h, rfl⟩
  | some o =>
    rw [ho] at hsource
    dsimp only
    cases hc : cameras[o.device.camera]? with
    | none => exact ⟨rfl, h, rfl⟩
    | some c =>
      have hmem := List.mem_of_getElem? hc
      dsimp only
      rw [hf _ c hmem]
      have hset : Session.Trails n
          { s with camera := some { o with device := (f o.device c).2.1 } }
          { s' with camera := some { o with device := (f o.device c).2.1 } } :=
        h.setCamera (hstill _ c hmem hsource)
      exact ⟨rfl, hset, rfl⟩

/-- A call of the driver comes out alike. -/
theorem call (h : Session.Trails n s s') (operation : String) (m : Camera.DriverCall Nat α)
    (cameras : List (Camera Nat)) :
    Session.Kept (· = ·) n (s.call operation m cameras) (s'.call operation m cameras) := by
  refine h.withCamera operation cameras (fun _ _ _ => rfl) fun d c _ hd => ?_
  cases m c <;> exact hd

/-- A camera without frames of its own is started at any time alike. -/
theorem start (h : Session.Trails n s s') (timing : Bool) (run now now' : Nat)
    {cameras : List (Camera Nat)} (hmanual : ∀ c ∈ cameras, c.profile.stream = .manual) :
    Session.Kept (· = ·) n (s.start timing run now cameras) (s'.start timing run now' cameras) := by
  -- A manual camera has no source, so that the moment of the start leaves no trace.
  have hstart (now : Nat) (d : Device) (c : Camera Nat) (hc : c ∈ cameras) :
      Device.start run now d c = Device.start run 0 d c ∧
        (d.source = none → (Device.start run now d c).2.1.source = none) := by
    unfold Device.start
    rw [Camera.startCapture_eq]
    cases (c.obstacle? .startCapture).or (if c.capturing then some .logicError else none) with
    | some e => exact ⟨rfl, id⟩
    | none =>
      simp only [Camera.ended, hmanual c hc]
      exact ⟨trivial, id⟩
  unfold Session.start
  by_cases hstate : s.state = .opened
  · rw [if_pos hstate, if_pos (h.state_eq.trans hstate)]
    have hwith := (h.setEnabled timing).withCamera "start capture" cameras
      (f := Device.start run now) (g := Device.start run now')
      (fun d c hc => (hstart now' d c hc).1.trans (hstart now d c hc).1.symm)
      fun d c hc => (hstart now d c hc).2
    generalize Session.withCamera "start capture" (Device.start run now) _ cameras = x at hwith ⊢
    generalize Session.withCamera "start capture" (Device.start run now') _ cameras = y at hwith ⊢
    obtain ⟨r, t, cs⟩ := x
    obtain ⟨r', t', cs'⟩ := y
    obtain ⟨hanswer, hsession, hcameras⟩ := hwith
    dsimp only at hanswer hsession hcameras
    subst hanswer hcameras
    rcases r with e | _
    · exact ⟨rfl, hsession.setEnabled false, rfl⟩
    · exact ⟨rfl, hsession.setState .capturing, rfl⟩
  · rw [if_neg hstate, if_neg fun hs => hstate (h.state_eq.symm.trans hs), h.state_eq]
    exact ⟨rfl, h, rfl⟩

/-- The samples of a run are as many. -/
theorem stop (h : Session.Trails n s s') (cameras : List (Camera Nat)) :
    Session.Kept (fun r r' => (Operation.Result.samples r').gist =
      (Operation.Result.samples r).gist) n (s.stop cameras) (s'.stop cameras) := by
  unfold Session.stop
  by_cases hstate : s.state = .capturing
  · rw [if_pos hstate, if_pos (h.state_eq.trans hstate)]
    have hwith := h.withCamera "stop capture" cameras (f := Device.stop)
      (fun _ _ _ => rfl) fun d c _ hd => by
        unfold Device.stop
        cases Camera.stopCapture c
        · rfl
        · exact hd
    generalize s.withCamera "stop capture" Device.stop cameras = x at hwith ⊢
    generalize s'.withCamera "stop capture" Device.stop cameras = y at hwith ⊢
    obtain ⟨r, t, cs⟩ := x
    obtain ⟨r', t', cs'⟩ := y
    obtain ⟨hanswer, hsession, hcameras⟩ := hwith
    dsimp only at hanswer hsession hcameras
    subst hanswer hcameras
    rcases r with e | _
    · exact ⟨rfl, hsession, rfl⟩
    · obtain ⟨timing, gist, still⟩ := hsession
      dsimp only
      rw [Session.endTiming_eq, Session.endTiming_eq]
      refine ⟨?_, .mk (s := { t with timing := t.timing.harvested, state := .opened })
        timing.harvested ?_ still, rfl⟩
      · simp only [Operation.Result.gist]
        rw [← timing.length_harvest_gist, gist, t.timing.length_harvest_gist]
      · rw [TimingLog.gist_harvested, TimingLog.gist_harvested, gist]
  · rw [if_neg hstate, if_neg fun hs => hstate (h.state_eq.symm.trans hs), h.state_eq]
    exact ⟨rfl, h, rfl⟩

/-- A session that begins to close does the same to its camera. -/
theorem halt (h : Session.Trails n s s') (cameras : List (Camera Nat)) :
    Session.Trails n (s.halt cameras).1 (s'.halt cameras).1 ∧
      (s'.halt cameras).2 = (s.halt cameras).2 := by
  have hquiet {t t' : Session} (ht : Session.Trails n t t') (cs : List (Camera Nat)) :=
    ht.call "unregister data listener" Camera.unregisterListener cs
  unfold Session.halt
  rw [h.state_eq]
  cases s.state with
  | capturing =>
    have hwith := h.withCamera "stop capture" cameras (f := Device.stop)
      (fun _ _ _ => rfl) fun d c _ hd => by
        unfold Device.stop
        cases Camera.stopCapture c
        · rfl
        · exact hd
    generalize s.withCamera "stop capture" Device.stop cameras = x at hwith ⊢
    generalize s'.withCamera "stop capture" Device.stop cameras = y at hwith ⊢
    obtain ⟨r, t, cs⟩ := x
    obtain ⟨r', t', cs'⟩ := y
    obtain ⟨-, hsession, hcameras⟩ := hwith
    dsimp only at hsession hcameras
    subst hcameras
    obtain ⟨-, hsession', hcameras'⟩ := hquiet hsession cs'
    exact ⟨hsession'.setEnabled false, hcameras'⟩
  | closed | opened =>
    obtain ⟨-, hsession, hcameras⟩ := hquiet h cameras
    exact ⟨hsession, hcameras⟩

theorem closed (h : Session.Trails n s s') : Session.Trails n s.closed s'.closed :=
  (h.setState .closed).setCamera rfl

end Session.Trails

namespace Relay.Trails

variable {α : Type} {owed : Nat → Nat} {v w : Relay} {i : Nat}

/-- The sessions at a place differ in nothing but moments and failures. -/
theorem session (h : v.Trails owed w) (hi : i < v.sessions.length) :
    Session.Trails (owed i) (v.session i) (w.session i) := by
  rcases h.session_cases i with hs | ⟨hnone, -⟩
  · exact hs
  · exact absurd (List.getElem?_eq_none_iff.mp hnone) (by omega)

/-- An operation of both relays, given what it does to both sessions. -/
theorem operate (h : v.Trails owed w)
    {f g : Session → List (Camera Nat) → Except RelayError α × Session × List (Camera Nat)}
    {alike : Except RelayError α → Except RelayError α → Prop}
    (hkept : Session.Kept alike (owed i) (f (v.session i) v.cameras)
      (g (w.session i) v.cameras)) :
    alike (v.operate f i).1 (w.operate g i).1 ∧
      (v.operate f i).2.Trails owed (w.operate g i).2 := by
  unfold Relay.operate
  rw [h.cameras]
  generalize f (v.session i) v.cameras = x at hkept ⊢
  generalize g (w.session i) v.cameras = y at hkept ⊢
  obtain ⟨r, s, cs⟩ := x
  obtain ⟨r', s', cs'⟩ := y
  obtain ⟨hanswer, hsession, hcameras⟩ := hkept
  dsimp only at hanswer hsession hcameras
  subst hcameras
  refine ⟨hanswer, ?_⟩
  have hset := h.set i hsession cs' v.runtimes v.channels v.nextRun
  cases h with
  | mk sessions now each => exact hset

/-- An opening does not look at moments or counts. -/
theorem openCamera (h : v.Trails owed w) (hi : i < v.sessions.length) (p : Nat) (c : Camera Nat)
    (rate : FrameRate) (address : Nat) :
    (w.openCamera p c rate address i).1 = (v.openCamera p c rate address i).1 ∧
      (v.openCamera p c rate address i).2.Trails owed (w.openCamera p c rate address i).2 := by
  have hsession := h.session hi
  have hsettings := hsession.settings_eq
  have hruntime := hsession.runtime_eq
  -- The channel of the opening depends on what the relation fixes.
  have hchannel (b : FrameBuffer) : w.newChannel i b = v.newChannel i b := by
    unfold newChannel
    dsimp only
    rw [hsettings, hruntime]
  have hset {s s' : Session} (hs : Session.Trails (owed i) s s') := h.set i hs
  unfold Relay.openCamera
  dsimp only
  simp only [hchannel]
  generalize w.session i = s' at *
  obtain ⟨sessions, now, each⟩ := h
  have hback (c : Camera Nat) : ({ v with cameras := v.cameras.set p c } : Relay).Trails owed
      { v with cameras := v.cameras.set p c, sessions := sessions, now := now } :=
    .mk sessions now each
  rw [hsettings, hruntime]
  cases c.fault? .createCamera with
  | some e => exact ⟨rfl, .mk sessions now each⟩
  | none =>
    dsimp only
    cases Session.configure rate v.channels.length
        (FrameBuffer.ofCapacity address (v.session i).settings.maxPoints.toNat) c with
    | error e c' => exact ⟨rfl, hback _⟩
    | ok b c' =>
      dsimp only
      rw [show ({ v with sessions := sessions, now := now } : Relay).runtime
        (v.session i).runtime = v.runtime (v.session i).runtime from rfl]
      cases (v.runtime (v.session i).runtime).expose b.view with
      | error e => exact ⟨rfl, hback _⟩
      | ok r =>
        refine ⟨rfl, ?_⟩
        -- The session that is opened owes what it owed before.
        have hopened := (hsession.setState .opened).setCamera (o := some
          { device := { camera := p }, channel := v.channels.length, serial := c'.profile.serial,
            rate := rate }) rfl
        rw [hsettings, hruntime] at hopened
        exact hset hopened (v.cameras.set p c') (v.runtimes.set (v.session i).runtime r)
          (v.channels ++ [v.newChannel i b]) v.nextRun

/-- **An opening** comes out alike. -/
theorem openSession (h : v.Trails owed w) (hi : i < v.sessions.length) (d : Descriptor)
    (key : UInt32) (address : Nat) :
    (w.openSession d key address i).1 = (v.openSession d key address i).1 ∧
      (v.openSession d key address i).2.Trails owed (w.openSession d key address i).2 := by
  unfold Relay.openSession
  rw [(h.session hi).state_eq, h.cameras]
  by_cases hstate : (v.session i).state = .closed
  · rw [if_pos hstate, if_pos hstate]
    cases FrameRate.ofKey? key with
    | none => exact ⟨rfl, h⟩
    | some rate =>
      dsimp only
      cases connected v.cameras d with
      | nil => exact ⟨rfl, h⟩
      | cons serial rest =>
        cases rest with
        | cons _ _ => exact ⟨rfl, h⟩
        | nil =>
          dsimp only
          cases (place? v.cameras serial).bind fun p => (v.cameras[p]?).map fun c => (p, c) with
          | none => exact ⟨rfl, h⟩
          | some found => exact h.openCamera hi found.1 found.2 rate address
  · rw [if_neg hstate, if_neg hstate]
    exact ⟨rfl, h⟩

/-- **A start** comes out alike; without a frame source its moment does not matter. -/
theorem start (h : v.Trails owed w) (hi : i < v.sessions.length)
    (hmanual : ∀ c ∈ v.cameras, c.profile.stream = .manual) (timing : Bool) :
    ((Operation.start timing).perform i w).1.gist =
        ((Operation.start timing).perform i v).1.gist ∧
      ((Operation.start timing).perform i v).2.Trails owed
        ((Operation.start timing).perform i w).2 := by
  have hrun : w.nextRun = v.nextRun := by cases h; rfl
  obtain ⟨hanswer, hafter⟩ := h.operate (f := Session.start timing v.nextRun v.now)
    (g := Session.start timing v.nextRun w.now)
    ((h.session hi).start timing v.nextRun v.now w.now hmanual)
  unfold Operation.perform Relay.start
  dsimp only [Prod.map]
  rw [hrun]
  generalize v.operate (Session.start timing v.nextRun v.now) i = x at hanswer hafter ⊢
  generalize w.operate (Session.start timing v.nextRun w.now) i = y at hanswer hafter ⊢
  obtain ⟨r, u⟩ := x
  obtain ⟨r', u'⟩ := y
  dsimp only at hanswer hafter
  subst hanswer
  rcases r with e | _
  · exact ⟨rfl, hafter⟩
  · -- Both relays number the next run alike.
    refine ⟨rfl, ?_⟩
    cases hafter with
    | mk sessions now each => exact .mk sessions now each

/-- **A stop** comes out alike, with as many samples. -/
theorem stop (h : v.Trails owed w) (hi : i < v.sessions.length) :
    (Operation.stop.perform i w).1.gist = (Operation.stop.perform i v).1.gist ∧
      (Operation.stop.perform i v).2.Trails owed (Operation.stop.perform i w).2 := by
  have hsession := h.session hi
  obtain ⟨hanswer, hafter⟩ := h.operate (hsession.stop v.cameras)
  have hsource : (w.session i).source? = (v.session i).source? := by
    unfold Session.source?
    rw [hsession.camera_eq]
  unfold Operation.perform Relay.stop
  dsimp only [Prod.map]
  rw [hsource]
  generalize v.operate Session.stop i = x at hanswer hafter ⊢
  generalize w.operate Session.stop i = y at hanswer hafter ⊢
  obtain ⟨r, u⟩ := x
  obtain ⟨r', u'⟩ := y
  dsimp only at hanswer hafter
  -- The samples differ in their moments, so only their gist is the same.
  rcases r with e | samples <;> rcases r' with e' | samples' <;>
    simp only [Operation.Result.gist, Operation.Result.samples.injEq, reduceCtorEq,
      Except.error.injEq] at hanswer
  · subst hanswer
    exact ⟨rfl, hafter⟩
  · refine ⟨?_, hafter.exitSource _⟩
    simpa [Prod.map, Operation.Result.gist] using hanswer

/-- **An operation** comes out alike. -/
theorem perform (h : v.Trails owed w) (hi : i < v.sessions.length)
    (hmanual : ∀ c ∈ v.cameras, c.profile.stream = .manual) (op : Operation) :
    (op.perform i w).1.gist = (op.perform i v).1.gist ∧
      (op.perform i v).2.Trails owed (op.perform i w).2 := by
  have hsession := h.session hi
  cases op with
  | openCamera d key address =>
    obtain ⟨hanswer, hafter⟩ := h.openSession hi d key address
    exact ⟨congrArg (fun r => (Operation.Result.unit r).gist) hanswer, hafter⟩
  | start timing => exact h.start hi hmanual timing
  | stop => exact h.stop hi
  | setExposure =>
    have hkept : Session.Kept (· = ·) (owed i) ((v.session i).setExposure v.cameras)
        ((w.session i).setExposure v.cameras) := by
      unfold Session.setExposure
      rw [hsession.settings_eq]
      exact hsession.call _ _ _
    obtain ⟨hanswer, hafter⟩ := h.operate hkept
    exact ⟨congrArg (fun r => (Operation.Result.unit r).gist) hanswer.symm, hafter⟩
  | maxWidth =>
    obtain ⟨hanswer, hafter⟩ := h.operate (hsession.call "get max sensor width" Camera.maxWidth
      v.cameras)
    exact ⟨congrArg (fun r => (Operation.Result.size r).gist) hanswer.symm, hafter⟩
  | maxHeight =>
    obtain ⟨hanswer, hafter⟩ := h.operate (hsession.call "get max sensor height"
      Camera.maxHeight v.cameras)
    exact ⟨congrArg (fun r => (Operation.Result.size r).gist) hanswer.symm, hafter⟩

/-- Both sessions begin to close. -/
theorem beginClose (h : v.Trails owed w) (hi : i < v.sessions.length) :
    (v.beginClose i).Trails owed (w.beginClose i) := by
  have hsession := h.session hi
  unfold Relay.beginClose
  rw [hsession.camera_eq]
  cases (v.session i).camera with
  | none => exact h
  | some o =>
    -- Halting does to both sessions the same.
    obtain ⟨hhalted, hcameras⟩ := hsession.halt v.cameras
    have hsource : (w.session i).source? = (v.session i).source? := by
      unfold Session.source?
      rw [hsession.camera_eq]
    dsimp only
    rw [h.cameras, hsource]
    generalize (v.session i).halt v.cameras = x at hhalted hcameras ⊢
    generalize (w.session i).halt v.cameras = y at hhalted hcameras ⊢
    obtain ⟨s, cs⟩ := x
    obtain ⟨s', cs'⟩ := y
    dsimp only at hhalted hcameras
    subst hcameras
    have hsource' : s'.source? = s.source? := by
      unfold Session.source?
      rw [hhalted.camera_eq]
    -- The source goes along in both, or stays in both.
    have hexit : (if s.source?.isNone then v.exitSource (v.session i).source? else v).Trails owed
        (if s'.source?.isNone then w.exitSource (v.session i).source? else w) := by
      rw [hsource']
      split
      · exact h.exitSource _
      · exact h
    dsimp only
    generalize (if s.source?.isNone then v.exitSource (v.session i).source? else v) = v' at hexit ⊢
    generalize (if s'.source?.isNone then w.exitSource (v.session i).source? else w) = w'
      at hexit ⊢
    have hset := hexit.set i hhalted cs' v'.runtimes v'.channels v'.nextRun
    refine Relay.Trails.modifyChannel ?_ o.channel _
    cases hexit with
    | mk sessions now each => exact hset

/-- Both sessions are closed. -/
theorem endClose (h : v.Trails owed w) (hi : i < v.sessions.length) :
    (v.endClose i).Trails owed (w.endClose i) := by
  have hsession := h.session hi
  unfold Relay.endClose
  dsimp only
  rw [hsession.camera_eq]
  cases (v.session i).camera with
  | none => exact h
  | some o =>
    have hsource : (w.session i).source? = (v.session i).source? := by
      unfold Session.source?
      rw [hsession.camera_eq]
    have hruntime := hsession.runtime_eq
    have hexit := (h.exitThread (.dispatch o.channel)).exitSource (v.session i).source?
    dsimp only
    rw [hsource, hruntime]
    generalize (v.exitThread (.dispatch o.channel)).exitSource (v.session i).source? = v' at hexit ⊢
    generalize (w.exitThread (.dispatch o.channel)).exitSource (v.session i).source? = w' at hexit ⊢
    rw [hexit.cameras, hexit.runtimes, hexit.channel]
    have hset := hexit.set i hsession.closed (v'.cameras.modify o.device.camera Camera.release)
      (v'.runtimes.modify (v.session i).runtime (Runtime.retract (v'.channel o.channel).view))
      v'.channels v'.nextRun
    cases hexit with
    | mk sessions now each => exact hset

end Relay.Trails

end DepthRelay
