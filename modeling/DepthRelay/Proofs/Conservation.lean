import DepthRelay.Proofs.Bookkeeping

namespace DepthRelay

/-!
# Frames are conserved

The account of one session in a world that it shares with others, none of which uses its host or its
cameras.

* `Secluded` — what stands of such a session; `World.Fed` — who waits for a frame holds a camera.
* `Account` — the numbers that belong to it; `Account.Balanced` says how they agree.
* `Entry` — everything that a step can do to the account.
* `frame_conservation` — the account is balanced in all runs.
-/

variable {σ : Type}

/-! ### A session with a host and cameras of its own -/

/-- The session at place `i`, with a host `r` and cameras `own` of its own. -/
structure Secluded (i r : Nat) (settings : Settings) (own : Nat → Bool) (st : Standing) : Prop where
  present : ∃ t, st.sessions[i]? = some t ∧ t.settings = settings
  alone : ∀ (j : Nat) (t : Session), st.sessions[j]? = some t → (t.runtime = r ↔ j = i)
  owned : ∀ j p : Nat, st.Holds j p → (own p = true ↔ j = i)
  served : ∀ (k : Nat) (x : Wiring), st.channels[k]? = some x →
    ∃ t, st.sessions[x.session]? = some t ∧ x.Serves x.session t
  /-- The host sees the buffer of the session as long as the session holds a camera. -/
  exposed : ∀ (t : Session) (o : OpenCamera) (x : Wiring), st.sessions[i]? = some t →
    t.camera = some o → st.channels[o.channel]? = some x →
    ∃ vs, st.exposed[r]? = some vs ∧ x.view ∈ vs
  hosted : r < st.exposed.length

/-- **Seclusion is kept** by every step that opens cameras only for their owners. -/
theorem Secluded.shift {i r : Nat} {settings : Settings} {own : Nat → Bool}
    {reaches : Nat → Nat → Prop} {st st' : Standing} (h : Secluded i r settings own st)
    (hcustody : Custody st) (hown : ∀ j p, reaches j p → (own p = true ↔ j = i))
    (hshift : Shift reaches st st') : Secluded i r settings own st' where
  present := by
    obtain ⟨t, ht, hsettings⟩ := h.present
    obtain ⟨t', ht', -, hsame⟩ := hshift.session_after ht
    exact ⟨t', ht', hsame.trans hsettings⟩
  alone := by
    intro j t' ht'
    obtain ⟨t, ht, hruntime, -⟩ := hshift.session_before ht'
    rw [← hruntime]
    exact h.alone j t ht
  owned := by
    rintro j p ⟨t', o, ht', ho, rfl⟩
    rcases hshift.camera_before ht' ho with ⟨t, ht, ho⟩ | ⟨hreach, -⟩
    · exact h.owned j _ ⟨t, o, ht, ho, rfl⟩
    · exact hown j _ hreach
  served := by
    intro k x hx
    -- A wiring that served a session before the step still does.
    have hold : ∀ (y : Wiring) (j : Nat) (s : Session), st.sessions[j]? = some s → y.Serves j s →
        ∃ t, st'.sessions[y.session]? = some t ∧ y.Serves y.session t := by
      intro y j s hs hy
      obtain ⟨t, ht, hruntime, hsettings⟩ := hshift.session_after hs
      obtain ⟨h₁, h₂, h₃, h₄, h₅⟩ := hy
      refine ⟨t, h₁ ▸ ht, rfl, ?_, ?_, ?_, ?_⟩
      · rw [h₂, hruntime]
      · rw [h₃, hruntime]
      · rw [h₄, hsettings]
      · rw [h₅, hsettings]
    rcases hshift.channels with hsame | ⟨j, s, y, hs, hy, hnew⟩
    · rw [hsame] at hx
      obtain ⟨t, ht, hserves⟩ := h.served k x hx
      exact hold x x.session t ht hserves
    · rw [hnew] at hx
      rcases getElem?_concat_cases hx with hx | rfl
      · obtain ⟨t, ht, hserves⟩ := h.served k x hx
        exact hold x x.session t ht hserves
      · exact hold x j s hs hy
  exposed := by
    intro t' o x ht' ho hx
    rcases hshift.camera_before ht' ho with ⟨t, ht, hheld⟩ | ⟨-, hchannel, y, hchannels, hexposed⟩
    · -- The camera was held before, and the buffer was visible.
      obtain ⟨y, hy, -⟩ := hcustody.wired i t o ht hheld
      obtain rfl : y = x := Option.some.inj ((hshift.channel_after hy).symm.trans hx)
      obtain ⟨vs, hvs, hview⟩ := h.exposed t o y ht hheld hy
      rcases hshift.exposed_cases with hsame | ⟨n, v, hmore⟩ | ⟨j, s, _, _, hs, -, -, hclosed, hless⟩
      · exact ⟨vs, hsame ▸ hvs, hview⟩
      · by_cases hn : n = r
        · subst hn
          refine ⟨exposing v vs, ?_, mem_exposing hview⟩
          rw [hmore, List.getElem?_modify_eq, hvs]
          rfl
        · refine ⟨vs, ?_, hview⟩
          rw [hmore, List.getElem?_modify_ne _ _ hn, hvs]
      · -- The session that has given its camera back is another one, with another host.
        have hj : j ≠ i := by
          rintro rfl
          obtain rfl := Option.some.inj (hclosed.symm.trans ht')
          exact absurd ho (by simp [Session.closed])
        have hruntime : s.runtime ≠ r := fun hr => hj ((h.alone j s hs).mp hr)
        refine ⟨vs, ?_, hview⟩
        rw [hless, List.getElem?_modify_ne _ _ hruntime, hvs]
    · -- The camera was opened by this step, which has exposed the buffer.
      have hruntime : t'.runtime = r := by
        obtain ⟨t, ht, hsame, -⟩ := hshift.session_before ht'
        rw [← hsame]
        exact (h.alone i t ht).mpr rfl
      have hyx : y = x := by
        rw [hchannels, hchannel, List.getElem?_concat_length] at hx
        exact Option.some.inj hx
      subst hyx
      have hhosted := h.hosted
      refine ⟨exposing y.view st.exposed[r], ?_, self_mem_exposing y.view _⟩
      rw [hexposed, hruntime, List.getElem?_modify_eq, List.getElem?_eq_getElem h.hosted]
      rfl
  hosted := by
    rcases hshift.exposed_cases with hsame | ⟨n, v, hmore⟩ | ⟨_, _, _, _, -, -, -, -, hless⟩
    · exact hsame ▸ h.hosted
    · rw [hmore, List.length_modify]
      exact h.hosted
    · rw [hless, List.length_modify]
      exact h.hosted

/-! ### Frames that wait -/

/-- What waits after a posting waited before, or has found a listener, or is nothing. -/
theorem Posting.waiting {w : Relay} {b : Books} (h : Posting w b) {k : Nat} {x : Tally}
    (hx : b.waiting[k]? = some x) :
    (∃ y, w.books.waiting[k]? = some y ∧ y.alive = x.alive ∧
        (x.waiting ≠ 0 → y.waiting ≠ 0 ∨ ∃ p, w.listener? p = some k)) ∨
      x.alive = true ∧ x.waiting = 0 := by
  cases h with
  | same => exact .inl ⟨x, hx, rfl, .inl⟩
  -- A new channel has an empty queue.
  | channel i =>
    rcases getElem?_concat_cases hx with hx | rfl
    · exact .inl ⟨x, hx, rfl, .inl⟩
    · exact .inr ⟨rfl, rfl⟩
  | injected p k' b heard booking =>
    cases booking with
    | queued =>
      simp only [Books.enqueue, Books.inject, List.getElem?_modify, Option.map_eq_map,
        Option.map_eq_some_iff] at hx
      obtain ⟨y, hy, rfl⟩ := hx
      refine .inl ⟨y, hy, ?_, ?_⟩
      · by_cases hk : k' = k <;> simp [hk]
      · -- The queue of the listener may have become longer, and the listener is known.
        intro hwaiting
        by_cases hk : k' = k
        · exact .inr ⟨p, hk ▸ heard⟩
        · simp only [hk, if_false] at hwaiting
          exact .inl hwaiting
    | dropped => exact .inl ⟨x, hx, rfl, .inl⟩
    | settled called f =>
      cases called <;> exact .inl ⟨x, hx, rfl, .inl⟩
  | dispatched k' called f settlement q =>
    have hx' : (w.books.dequeue k').waiting[k]? = some x := by
      cases called <;> exact hx
    simp only [Books.dequeue, List.getElem?_modify, Option.map_eq_map,
      Option.map_eq_some_iff] at hx'
    obtain ⟨y, hy, rfl⟩ := hx'
    refine .inl ⟨y, hy, ?_, ?_⟩
    · by_cases hk : k' = k <;> simp [hk]
    · -- One frame less waits, so that some waited before.
      intro hwaiting
      by_cases hk : k' = k
      · simp only [hk, if_true] at hwaiting
        exact .inl (by omega)
      · simp only [hk, if_false] at hwaiting
        exact .inl hwaiting

namespace World

variable {w : World σ}

/-- Dispatch threads live, and frames wait only for sessions that hold a camera. -/
def Fed (w : World σ) : Prop :=
  ∀ (k : Nat) (x : Tally), w.relay.books.waiting[k]? = some x → x.alive = true ∧
    (x.waiting ≠ 0 → ∃ (j : Nat) (s : Session) (o : OpenCamera), w.standing.sessions[j]? = some s ∧
      s.camera = some o ∧ o.channel = k)

/-- Frames wait only for sessions that hold a camera. -/
def Claimed (w : World σ) : Prop :=
  ∀ (k : Nat) (x : Tally), w.relay.books.waiting[k]? = some x → x.waiting ≠ 0 →
    ∃ (j : Nat) (s : Session) (o : OpenCamera), w.standing.sessions[j]? = some s ∧
      s.camera = some o ∧ o.channel = k

theorem Fed.claimed (hfed : w.Fed) : w.Claimed := fun k x hx => (hfed k x hx).2

/-- A session is closed by its caller, only once nothing waits for it, and that is all that the step
    does. -/
theorem closed_of_step (h : Handler σ) (hcustody : Custody w.standing) {e : Event} {j : Nat}
    (hj : j ∈ w.closing) (hj' : j ∉ (w.step h e).2.closing) :
    e = .endClose j ∧ w.dispatched j = true ∧
      (w.step h e).2.relay.books = w.relay.books := by
  cases e with
  | operate i op =>
    rcases w.step_operate_cases h i op with hsame | ⟨-, -, hafter⟩
    · rw [hsame] at hj'
      exact absurd hj hj'
    · rw [hafter] at hj'
      exact absurd hj hj'
  | beginClose i =>
    rcases step_beginClose_cases h hcustody i with hsame | ⟨_, _, _, -, -, -, hafter⟩
    · rw [hsame] at hj'
      exact absurd hj hj'
    · rw [hafter] at hj'
      exact absurd (List.mem_cons_of_mem i hj) hj'
  | endClose i =>
    rcases step_endClose_cases h hcustody i with
      hsame | ⟨-, hdispatched, s, o, c, hs, ho, hc, hafter⟩
    · rw [hsame] at hj'
      exact absurd hj hj'
    · rw [hafter] at hj' ⊢
      -- Only the session whose closing is completed leaves the list.
      have hij : j = i := by
        by_cases hij : j = i
        · exact hij
        · exact absurd (List.mem_filter.mpr ⟨hj, by simpa using hij⟩) hj'
      exact ⟨hij ▸ rfl, hij ▸ hdispatched, Relay.books_endClose hs ho hc⟩
  | wake i =>
    rcases w.step_wake_cases h i with hsame | ⟨source, hafter⟩
    · rw [hsame] at hj'
      exact absurd hj hj'
    · rw [hafter] at hj'
      exact absurd hj hj'
  | _ => exact absurd hj hj'

/-- Nothing waits for a session whose closing can be completed. -/
theorem waiting_of_dispatched {j : Nat} {s : Session} {o : OpenCamera} {x : Tally}
    (hfed : w.Fed) (hdispatched : w.dispatched j = true)
    (hs : w.standing.sessions[j]? = some s) (ho : s.camera = some o)
    (hx : w.relay.books.waiting[o.channel]? = some x) : x.waiting = 0 := by
  have halive := (hfed o.channel x hx).1
  simp only [standing, Relay.standing, List.getElem?_map, Option.map_eq_some_iff] at hs
  obtain ⟨t, ht, rfl⟩ := hs
  obtain ⟨u, hu, rfl⟩ := Option.map_eq_some_iff.mp ho
  simp only [Relay.books, List.getElem?_map, Option.map_eq_some_iff] at hx
  obtain ⟨y, hy, rfl⟩ := hx
  have hchannel : w.relay.channel u.channel = y := Relay.channel_eq hy
  unfold dispatched at hdispatched
  rw [Relay.session_eq ht, hu] at hdispatched
  simp only [Option.all_some, hchannel] at hdispatched
  unfold Channel.tally at halive ⊢
  cases hq : y.handoff with
  | none => rfl
  | some q =>
    simp only [hq, Option.elim_some] at halive ⊢
    simp only [hq, Option.all_some, Handoff.finished, halive] at hdispatched
    simp_all

/-- **Who waits for a frame holds a camera** after every step. -/
theorem Fed.step (hfed : w.Fed) (h : Handler σ) (hreturns : h.Returns)
    (hcustody : Custody w.standing) (e : Event) : (w.step h e).2.Fed := by
  intro k x hx
  have hshift := step_shift h e hcustody
  rcases (step_books h hreturns hcustody e).waiting hx with
    ⟨y, hy, halive, hwaiting⟩ | ⟨halive, hnone⟩
  · refine ⟨halive ▸ (hfed k y hy).1, fun hx0 => ?_⟩
    -- What waits has waited before, or has just found a listener.
    have hfeeder : ∃ (j : Nat) (s : Session) (o : OpenCamera),
        w.standing.sessions[j]? = some s ∧ s.camera = some o ∧ o.channel = k := by
      rcases hwaiting hx0 with hy0 | ⟨p, hp⟩
      · exact (hfed k y hy).2 hy0
      · obtain ⟨j, s, o, hs, ho, -, hchannel, -⟩ := Relay.heard_of_custody hcustody hp
        exact ⟨j, s, o, hs, ho, hchannel⟩
    obtain ⟨j, s, o, hs, ho, rfl⟩ := hfeeder
    by_cases hstays : j ∈ w.closing → j ∈ (w.step h e).2.closing
    · obtain ⟨s', hs', ho'⟩ := hshift.camera_after hcustody hs ho hstays
      exact ⟨j, s', o, hs', ho', rfl⟩
    · -- The step has closed the session, so nothing was waiting for it.
      have hclosing : j ∈ w.closing ∧ j ∉ (w.step h e).2.closing := by
        simpa using hstays
      obtain ⟨-, hdispatched, hbooks⟩ := closed_of_step h hcustody hclosing.1 hclosing.2
      rw [hbooks] at hx
      exact absurd (waiting_of_dispatched hfed hdispatched hs ho hx) hx0
  · exact ⟨halive, fun hx0 => absurd hnone hx0⟩

end World

/-! ### The account of a session -/

/-- The numbers that belong to a session with a host and cameras of its own. -/
structure Account where
  /-- Frames that its cameras have handed to listeners. -/
  emitted : Nat
  /-- Frames that wait on its channels. -/
  waiting : Nat
  stats : Stats
  /-- Calls of the handler of its host. -/
  invocations : Nat

/-- Frames that the cameras in `own` have handed to listeners. -/
def Books.emittedBy (own : Nat → Bool) (b : Books) : Nat :=
  (b.emitted.mapIdx fun p n => if own p then n else 0).sum

/-- Frames that wait on the channels of the session at place `i`. -/
def Books.waitingFor (i : Nat) (b : Books) : Nat :=
  (b.waiting.map fun x => if x.session = i then x.waiting else 0).sum

def Books.account (i r : Nat) (own : Nat → Bool) (b : Books) : Account where
  emitted := b.emittedBy own
  waiting := b.waitingFor i
  stats := b.stats.getD i {}
  invocations := b.invocations.getD r 0

namespace Books

variable {b : Books} {i j k p r : Nat} {own : Nat → Bool}

/-- A frame counts as emitted on its own camera. -/
theorem emittedBy_inject {n : Nat} (hp : b.emitted[p]? = some n) :
    (b.inject p).emittedBy own = b.emittedBy own + if own p then 1 else 0 := by
  have hterm : (b.emitted.mapIdx fun p n => if own p then n else 0)[p]? =
      some (if own p then n else 0) := by
    simp [hp]
  have hsum := sum_set hterm (if own p then n + 1 else 0)
  unfold emittedBy inject
  dsimp only
  rw [modify_of_getElem? _ hp, List.mapIdx_set]
  by_cases hown : own p
  · simp only [hown, if_true] at hsum ⊢
    omega
  · simp only [hown, Bool.false_eq_true, if_false] at hsum ⊢
    omega

/-- What waits for a session once the tally of one channel is replaced. -/
theorem waitingFor_set {x : Tally} (hk : b.waiting[k]? = some x) (n : Nat) :
    ({ b with waiting := b.waiting.set k { x with waiting := n } } : Books).waitingFor i +
        (if x.session = i then x.waiting else 0) =
      b.waitingFor i + if x.session = i then n else 0 := by
  have hterm : (b.waiting.map fun x => if x.session = i then x.waiting else 0)[k]? =
      some (if x.session = i then x.waiting else 0) := by
    simp [hk]
  unfold waitingFor
  dsimp only
  rw [List.map_set]
  exact sum_set hterm _

/-- One frame more waits for the session of the channel. -/
theorem waitingFor_enqueue {x : Tally} (hk : b.waiting[k]? = some x) :
    (b.enqueue k).waitingFor i = b.waitingFor i + if x.session = i then 1 else 0 := by
  have hset := waitingFor_set (i := i) hk (x.waiting + 1)
  unfold enqueue
  rw [modify_of_getElem? _ hk]
  by_cases hi : x.session = i
  · rw [if_pos hi, if_pos hi] at hset
    rw [if_pos hi]
    omega
  · rw [if_neg hi, if_neg hi] at hset
    rw [if_neg hi]
    omega

/-- One frame less waits for it. -/
theorem waitingFor_dequeue {x : Tally} (hk : b.waiting[k]? = some x) (hx : x.waiting ≠ 0) :
    b.waitingFor i = (b.dequeue k).waitingFor i + if x.session = i then 1 else 0 := by
  have hset := waitingFor_set (i := i) hk (x.waiting - 1)
  unfold dequeue
  rw [modify_of_getElem? _ hk]
  by_cases hi : x.session = i
  · rw [if_pos hi, if_pos hi] at hset
    rw [if_pos hi]
    omega
  · rw [if_neg hi, if_neg hi] at hset
    rw [if_neg hi]
    omega

/-- An emitted frame, in the account. -/
theorem account_inject {n : Nat} (hp : b.emitted[p]? = some n) :
    (b.inject p).account i r own =
      { b.account i r own with
        emitted := (b.account i r own).emitted + if own p then 1 else 0 } := by
  unfold account
  rw [emittedBy_inject hp]
  rfl

/-- A frame that begins to wait, in the account. -/
theorem account_enqueue {x : Tally} (hk : b.waiting[k]? = some x) :
    (b.enqueue k).account i r own =
      { b.account i r own with
        waiting := (b.account i r own).waiting + if x.session = i then 1 else 0 } := by
  unfold account
  rw [waitingFor_enqueue hk]
  rfl

/-- A frame that waits no longer, in the account. -/
theorem account_dequeue {x : Tally} (hk : b.waiting[k]? = some x) (hx : x.waiting ≠ 0) :
    b.account i r own =
      { (b.dequeue k).account i r own with
        waiting := ((b.dequeue k).account i r own).waiting + if x.session = i then 1 else 0 } := by
  unfold account
  rw [waitingFor_dequeue hk hx]
  rfl

theorem account_addChannel : (b.addChannel j).account i r own = b.account i r own := by
  simp [account, addChannel, emittedBy, waitingFor]

theorem account_note_of_ne {f : Stats → Stats} (hj : j ≠ i) :
    (b.note j f).account i r own = b.account i r own := by
  simp [account, note, emittedBy, waitingFor, List.getD_eq_getElem?_getD, hj]

/-- A change of one's own counts, in the account. -/
theorem account_note {f : Stats → Stats} (hi : i < b.stats.length) :
    (b.note i f).account i r own =
      { b.account i r own with stats := f (b.account i r own).stats } := by
  simp [account, note, emittedBy, waitingFor, List.getD_eq_getElem?_getD, hi]

/-- A call of another host is not in the account. -/
theorem account_call_of_ne {n : Nat} {called : Bool} (hn : n ≠ r) :
    (b.call n called).account i r own = b.account i r own := by
  cases called with
  | false => rfl
  | true => simp [account, call, emittedBy, waitingFor, List.getD_eq_getElem?_getD, hn]

/-- A call of the handler, in the account. -/
theorem account_call {called : Bool} (hr : r < b.invocations.length) :
    (b.call r called).account i r own =
      { b.account i r own with
        invocations := (b.account i r own).invocations + called.toNat } := by
  cases called with
  | false => rfl
  | true => simp [account, call, emittedBy, waitingFor, List.getD_eq_getElem?_getD, hr]

end Books

/-- The account of a session with these settings is balanced. -/
structure Account.Balanced (settings : Settings) (a : Account) : Prop where
  frames : a.emitted = a.stats.settled + a.waiting
  calls : a.invocations = a.stats.delivered + a.stats.handlerFailures
  cuts : a.stats.truncatedFrames ≤ a.invocations
  unrefused : settings.overflowPolicy = .truncate → a.stats.overflowRejects = 0
  uncut : settings.overflowPolicy = .reject → a.stats.truncatedFrames = 0
  direct : settings.delivery = .synchronous → a.stats.backpressureDrops = 0 ∧ a.waiting = 0

/-- What a settlement does to the counts of a session whose buffer is visible. -/
theorem Settlement.counts {policy : OverflowPolicy} {called : Bool} {f : Stats → Stats}
    (h : Settlement policy true called f) (s : Stats) :
    (f s).settled = s.settled + 1 ∧
      (f s).delivered + (f s).handlerFailures = s.delivered + s.handlerFailures + called.toNat ∧
      (f s).truncatedFrames ≤ s.truncatedFrames + called.toNat ∧
      (policy = .truncate → (f s).overflowRejects = s.overflowRejects) ∧
      (policy = .reject → (f s).truncatedFrames = s.truncatedFrames) ∧
      (f s).backpressureDrops = s.backpressureDrops := by
  -- That a frame is written counts only if it has been cut.
  have hwritten (cut : Nat) : (s.noteWritten cut).settled = s.settled ∧
      (s.noteWritten cut).delivered = s.delivered ∧
      (s.noteWritten cut).handlerFailures = s.handlerFailures ∧
      (s.noteWritten cut).truncatedFrames ≤ s.truncatedFrames + 1 ∧
      (s.noteWritten cut).overflowRejects = s.overflowRejects ∧
      (s.noteWritten cut).backpressureDrops = s.backpressureDrops ∧
      (cut = 0 → (s.noteWritten cut).truncatedFrames = s.truncatedFrames) := by
    unfold Stats.noteWritten
    by_cases hcut : cut = 0
    · simp [hcut]
    · simp [hcut, Stats.settled]
  cases h with
  | detached => simp [Stats.noteAttachFailure, Stats.settled]; omega
  | refused reject =>
    subst reject
    simp [Stats.noteOverflow, Stats.settled]
    omega
  | unheard cut uncut hidden => exact absurd hidden (by simp)
  | failed cut uncut =>
    obtain ⟨h₁, h₂, h₃, h₄, h₅, h₆, h₇⟩ := hwritten cut
    have hsettled := Stats.settled_noteHandlerFailure (s.noteWritten cut)
    refine ⟨by simp [h₁], ?_, h₄, fun _ => h₅, ?_, h₆⟩
    · simp [Stats.noteHandlerFailure, h₂, h₃]
      omega
    · intro hpolicy
      -- A frame is cut under the other policy only.
      exact h₇ (uncut.resolve_right (by simp [hpolicy]))
  | accepted cut uncut =>
    obtain ⟨h₁, h₂, h₃, h₄, h₅, h₆, h₇⟩ := hwritten cut
    refine ⟨by simp [h₁], ?_, h₄, fun _ => h₅, ?_, h₆⟩
    · simp [Stats.noteDelivered, h₂, h₃]
      omega
    · intro hpolicy
      exact h₇ (uncut.resolve_right (by simp [hpolicy]))

/-- Everything that a step can do to the account of a session with these settings. -/
inductive Entry (settings : Settings) (a : Account) : Account → Prop
  | same : Entry settings a a
  | queued (mode : settings.delivery = .queued) :
      Entry settings a { a with emitted := a.emitted + 1, waiting := a.waiting + 1 }
  | dropped (mode : settings.delivery = .queued) :
      Entry settings a { a with emitted := a.emitted + 1, stats := a.stats.noteBackpressure }
  | settled (called : Bool) (f : Stats → Stats)
      (settlement : Settlement settings.overflowPolicy true called f) :
      Entry settings a
        { a with
          emitted := a.emitted + 1
          stats := f a.stats
          invocations := a.invocations + called.toNat }
  | dispatched (called : Bool) (f : Stats → Stats) (n : Nat)
      (settlement : Settlement settings.overflowPolicy true called f) (some : a.waiting = n + 1) :
      Entry settings a
        { a with
          waiting := n
          stats := f a.stats
          invocations := a.invocations + called.toNat }

/-- A settlement keeps an account balanced in which the frame that is settled was emitted, now or
    earlier. -/
theorem Account.Balanced.settle {settings : Settings} {a : Account} (h : a.Balanced settings)
    {called : Bool} {f : Stats → Stats}
    (settlement : Settlement settings.overflowPolicy true called f) (emitted waiting : Nat)
    (hframes : emitted + a.waiting = a.emitted + 1 + waiting)
    (hdirect : settings.delivery = .synchronous → waiting = 0) :
    Account.Balanced settings
      { emitted := emitted
        waiting := waiting
        stats := f a.stats
        invocations := a.invocations + called.toNat } := by
  obtain ⟨hsettled, hcalled, hcut, hunrefused, huncut, hkept⟩ := settlement.counts a.stats
  have hbefore := h.frames
  have hcalls := h.calls
  have hcuts := h.cuts
  refine ⟨?_, ?_, ?_, ?_, ?_, ?_⟩
  · show emitted = (f a.stats).settled + waiting
    omega
  · show a.invocations + called.toNat = (f a.stats).delivered + (f a.stats).handlerFailures
    omega
  · show (f a.stats).truncatedFrames ≤ a.invocations + called.toNat
    omega
  · exact fun hpolicy => (hunrefused hpolicy).trans (h.unrefused hpolicy)
  · exact fun hpolicy => (huncut hpolicy).trans (h.uncut hpolicy)
  · exact fun hmode => ⟨hkept.trans (h.direct hmode).1, hdirect hmode⟩

/-- **Every entry keeps the account balanced.** -/
theorem Account.Balanced.entry {settings : Settings} {a a' : Account} (h : a.Balanced settings)
    (hentry : Entry settings a a') : a'.Balanced settings := by
  have hframes := h.frames
  cases hentry with
  | same => exact h
  | queued mode =>
    refine ⟨?_, h.calls, h.cuts, h.unrefused, h.uncut, ?_⟩
    · show a.emitted + 1 = a.stats.settled + (a.waiting + 1)
      omega
    · intro hdirect
      exact absurd (mode.symm.trans hdirect) (by simp)
  | dropped mode =>
    refine ⟨?_, h.calls, h.cuts, h.unrefused, h.uncut, ?_⟩
    · show a.emitted + 1 = a.stats.noteBackpressure.settled + a.waiting
      rw [Stats.settled_noteBackpressure]
      omega
    · intro hdirect
      exact absurd (mode.symm.trans hdirect) (by simp)
  | settled called f settlement =>
    exact h.settle settlement (a.emitted + 1) a.waiting rfl fun hdirect => (h.direct hdirect).2
  | dispatched called f n settlement hsome =>
    refine h.settle settlement a.emitted n ?_ ?_
    · omega
    · -- In synchronous delivery nothing waits, so nothing is dispatched.
      intro hdirect
      have hnone := (h.direct hdirect).2
      omega

namespace World

variable {w : World σ} {i r : Nat} {settings : Settings} {own : Nat → Bool}

/-- The account of the session at place `i`. -/
def account (i r : Nat) (own : Nat → Bool) (w : World σ) : Account := w.relay.books.account i r own

/-- How the channels of a secluded session are made. -/
theorem of_secluded (hsecluded : Secluded i r settings own w.standing) {k : Nat} {x : Channel}
    (hx : w.relay.channels[k]? = some x) :
    (x.binding.runtime = r ↔ x.session = i) ∧
      (x.session = i → x.policy = settings.overflowPolicy ∧
        x.handoff.isSome = decide (settings.delivery = .queued)) := by
  obtain ⟨t, ht, hserves⟩ := hsecluded.served k x.wiring (Relay.channel_standing hx)
  have hruntime : x.binding.runtime = t.runtime := hserves.runtime
  constructor
  · rw [hruntime]
    exact hsecluded.alone x.session t ht
  · intro hsession
    obtain ⟨u, hu, hsettings⟩ := hsecluded.present
    have hwiring : x.wiring.session = i := hsession
    have htu : t = u := Option.some.inj (ht.symm.trans (hwiring.symm ▸ hu))
    rw [← hsettings, ← htu]
    exact ⟨hserves.policy, hserves.queued⟩

/-- A buffer that is exposed to the host of its channel is visible. -/
theorem visible_of_mem {k r : Nat} {x : Channel} {vs : List View}
    (hx : w.relay.channels[k]? = some x) (hruntime : x.binding.runtime = r)
    (hvs : w.standing.exposed[r]? = some vs) (hview : x.view ∈ vs) : w.relay.visible k = true := by
  have hexposed : (w.relay.runtime r).exposed = vs := by
    simp only [standing, Relay.standing, List.getElem?_map, Option.map_eq_some_iff] at hvs
    obtain ⟨y, hy, rfl⟩ := hvs
    rw [Relay.runtime_eq hy]
  unfold Relay.visible Runtime.isExposed
  rw [Relay.channel_eq hx, hruntime, hexposed]
  exact List.contains_iff_mem.mpr hview

/-- The buffer of a secluded session is visible as long as the session holds its camera. -/
theorem visible_of_secluded (hsecluded : Secluded i r settings own w.standing)
    {s : Session} {o : OpenCamera} {x : Channel} (hs : w.standing.sessions[i]? = some s)
    (ho : s.camera = some o) (hx : w.relay.channels[o.channel]? = some x) (hi : x.session = i) :
    w.relay.visible o.channel = true := by
  obtain ⟨vs, hvs, hview⟩ := hsecluded.exposed s o x.wiring hs ho (Relay.channel_standing hx)
  exact visible_of_mem hx ((of_secluded hsecluded hx).1.mpr hi) hvs hview

/-- The counts of a secluded session have a place, and so have the calls of its host. -/
theorem placed_of_secluded (hsecluded : Secluded i r settings own w.standing) :
    i < w.relay.books.stats.length ∧ r < w.relay.books.invocations.length := by
  obtain ⟨t, ht, -⟩ := hsecluded.present
  have hlength := (List.getElem?_eq_some_iff.mp ht).1
  have hhosted := hsecluded.hosted
  simp only [standing, Relay.standing, List.length_map] at hlength hhosted
  simp only [Relay.books, List.length_map]
  exact ⟨hlength, hhosted⟩

/-- A settlement on a channel, as the account of the session at place `i` sees it. -/
theorem account_settled (hsecluded : Secluded i r settings own w.standing) (b : Books) {k : Nat}
    {x : Channel} {called : Bool} {f : Stats → Stats} (hx : w.relay.channels[k]? = some x)
    (hstats : b.stats.length = w.relay.books.stats.length)
    (hcalls : b.invocations.length = w.relay.books.invocations.length) :
    ((b.note x.session f).call x.binding.runtime called).account i r own =
      if x.session = i then
        { b.account i r own with
          stats := f (b.account i r own).stats
          invocations := (b.account i r own).invocations + called.toNat }
      else b.account i r own := by
  obtain ⟨hruntime, -⟩ := of_secluded hsecluded hx
  obtain ⟨hlength, hhosted⟩ := placed_of_secluded hsecluded
  by_cases hi : x.session = i
  · have hhosted' : r < (b.note i f).invocations.length := by
      show r < b.invocations.length
      rw [hcalls]
      exact hhosted
    rw [if_pos hi, hruntime.mpr hi, hi, Books.account_call hhosted',
      Books.account_note (hstats ▸ hlength)]
  · have hother : x.binding.runtime ≠ r := fun hr => hi (hruntime.mp hr)
    rw [if_neg hi, Books.account_call_of_ne hother, Books.account_note_of_ne hi]

/-- An injected frame, as the account of a secluded session sees it. -/
theorem entry_of_booking (hsecluded : Secluded i r settings own w.standing)
    (hcustody : Custody w.standing) {p k : Nat} {b : Books} (heard : w.relay.listener? p = some k)
    (booking : Booking k w.relay (w.relay.books.inject p) b) :
    Entry settings (w.account i r own) (b.account i r own) := by
  obtain ⟨c, hc, -⟩ := Relay.listener?_eq_some.mp heard
  obtain ⟨j, s, o, hs, ho, hplace, rfl, -⟩ := Relay.heard_of_custody hcustody heard
  obtain ⟨x, hx, hserves⟩ := Relay.wired_of_custody hcustody hs ho
  have hsession : x.session = j := hserves.session
  -- The camera belongs to whoever is counted for its frames.
  have hown : own p = true ↔ x.session = i := by
    rw [hsession]
    exact hsecluded.owned j p ⟨s, o, hs, ho, hplace⟩
  have hchannel : w.relay.channel o.channel = x := Relay.channel_eq hx
  have hemitted : w.relay.books.emitted[p]? = some c.emitted := by
    simp [Relay.books, hc]
  have hinject : (w.relay.books.inject p).account i r own =
      { w.relay.books.account i r own with
        emitted := (w.relay.books.account i r own).emitted + if own p then 1 else 0 } :=
    Books.account_inject hemitted
  have htally : (w.relay.books.inject p).waiting[o.channel]? = some x.tally := by
    simp [Relay.books, Books.inject, hx]
  unfold account
  by_cases hi : x.session = i
  · rw [if_pos (hown.mpr hi)] at hinject
    obtain ⟨hpolicy, hmode⟩ := (of_secluded hsecluded hx).2 hi
    have hqueued : x.handoff.isSome = true → settings.delivery = .queued := by
      intro hsome
      simpa [hsome] using hmode
    cases booking with
    | queued queued =>
      rw [hchannel] at queued
      have htallied : x.tally.session = i := hi
      rw [Books.account_enqueue htally, if_pos htallied, hinject]
      exact .queued (hqueued queued)
    | dropped queued =>
      rw [hchannel] at queued ⊢
      have hlength : i < (w.relay.books.inject p).stats.length :=
        (placed_of_secluded hsecluded).1
      rw [hi, Books.account_note hlength, hinject]
      exact .dropped (hqueued queued)
    | settled called f settlement direct =>
      have hvisible : w.relay.visible o.channel = true :=
        visible_of_secluded hsecluded (hi ▸ hsession.symm ▸ hs) ho hx hi
      rw [hchannel, hpolicy, hvisible] at settlement
      rw [hchannel, account_settled hsecluded (w.relay.books.inject p) hx rfl rfl, if_pos hi,
        hinject]
      exact .settled called f settlement
  · -- The frame is another session's business.
    rw [if_neg fun hmine => hi (hown.mp hmine)] at hinject
    have hsame : (w.relay.books.inject p).account i r own = w.relay.books.account i r own :=
      hinject
    cases booking with
    | queued queued =>
      have htallied : x.tally.session ≠ i := hi
      rw [Books.account_enqueue htally, if_neg htallied, hsame]
      exact .same
    | dropped queued =>
      rw [hchannel, Books.account_note_of_ne hi, hsame]
      exact .same
    | settled called f settlement direct =>
      rw [hchannel, account_settled hsecluded (w.relay.books.inject p) hx rfl rfl, if_neg hi, hsame]
      exact .same

/-- A dispatched frame, as the account of a secluded session sees it. -/
theorem entry_of_dispatch (hsecluded : Secluded i r settings own w.standing)
    (hclaimed : w.Claimed) (hcustody : Custody w.standing) {k : Nat} {called : Bool} {f : Stats → Stats} {q : Handoff}
    (settlement : Settlement (w.relay.channel k).policy (w.relay.visible k) called f)
    (queued : (w.relay.channel k).handoff = some q) (pending : q.queue ≠ []) :
    Entry settings (w.account i r own)
      ((((w.relay.books.dequeue k).note (w.relay.channel k).session f).call
        (w.relay.channel k).binding.runtime called).account i r own) := by
  have hx := Relay.getElem?_of_handoff queued
  have htally : w.relay.books.waiting[k]? = some (w.relay.channel k).tally := by
    simp [Relay.books, hx]
  have hpending : (w.relay.channel k).tally.waiting ≠ 0 := by
    simp [Channel.tally, queued, pending]
  have hdequeue : w.relay.books.account i r own =
      { (w.relay.books.dequeue k).account i r own with
        waiting := ((w.relay.books.dequeue k).account i r own).waiting +
          if (w.relay.channel k).tally.session = i then 1 else 0 } :=
    Books.account_dequeue htally hpending
  rw [account_settled hsecluded (w.relay.books.dequeue k) hx rfl rfl]
  unfold account
  by_cases hi : (w.relay.channel k).session = i
  · have htallied : (w.relay.channel k).tally.session = i := hi
    rw [if_pos htallied] at hdequeue
    rw [if_pos hi]
    obtain ⟨hpolicy, -⟩ := (of_secluded hsecluded hx).2 hi
    -- The session holds a camera, since a frame waits for it, so its buffer is visible.
    obtain ⟨j, s, o, hs, ho, rfl⟩ := hclaimed k _ htally hpending
    have hj : j = i := by
      obtain ⟨y, hy, hserves⟩ := hcustody.wired j s o hs ho
      have hwiring := Option.some.inj (hy.symm.trans (Relay.channel_standing hx))
      rw [← hserves.session, hwiring]
      exact hi
    have hvisible : w.relay.visible o.channel = true :=
      visible_of_secluded hsecluded (hj ▸ hs) ho hx hi
    rw [hpolicy, hvisible] at settlement
    rw [hdequeue]
    exact .dispatched called f _ settlement rfl
  · have htallied : (w.relay.channel k).tally.session ≠ i := hi
    rw [if_neg htallied] at hdequeue
    rw [if_neg hi, hdequeue]
    exact .same

/-- A posting, as the account of a secluded session sees it. -/
theorem entry_of_posting (hsecluded : Secluded i r settings own w.standing) (hclaimed : w.Claimed)
    (hcustody : Custody w.standing) {b : Books} (hposting : Posting w.relay b) :
    Entry settings (w.account i r own) (b.account i r own) := by
  cases hposting with
  | same => exact .same
  | channel j =>
    rw [Books.account_addChannel]
    exact .same
  | injected p k b heard booking => exact entry_of_booking hsecluded hcustody heard booking
  | dispatched k called f settlement q queued pending =>
    exact entry_of_dispatch hsecluded hclaimed hcustody settlement queued pending

/-- **What a step can do** to the account of a secluded session. -/
theorem step_entry (hsecluded : Secluded i r settings own w.standing) (hfed : w.Fed)
    (hcustody : Custody w.standing) (h : Handler σ) (hreturns : h.Returns) (e : Event) :
    Entry settings (w.account i r own) ((w.step h e).2.account i r own) :=
  entry_of_posting hsecluded hfed.claimed hcustody (step_books h hreturns hcustody e)

/-- Nothing waits for a session that holds no camera. -/
theorem Claimed.waitingFor_eq_zero (hclaimed : w.Claimed) (hcustody : Custody w.standing)
    {s : Session} (hs : w.standing.sessions[i]? = some s) (hclosed : s.camera = none) :
    w.relay.books.waitingFor i = 0 := by
  refine List.sum_eq_zero_iff_forall_eq_nat.mpr ?_
  intro n hn
  obtain ⟨x, hx, rfl⟩ := List.mem_map.mp hn
  obtain ⟨k, hk⟩ := List.mem_iff_getElem?.mp hx
  by_cases hi : x.session = i
  · rw [if_pos hi]
    by_cases hwaiting : x.waiting = 0
    · exact hwaiting
    · -- Whoever the frames wait for holds a camera, and is the session at place `i`.
      obtain ⟨j, t, o, ht, ho, rfl⟩ := hclaimed k x hk hwaiting
      obtain ⟨c, hc, hserves⟩ := Relay.wired_of_custody hcustody ht ho
      have hj : j = i := by
        have htally : c.tally = x := by
          simpa [Relay.books, hc] using hk
        rw [← hserves.session, ← hi, ← htally]
        rfl
      subst hj
      obtain rfl : s = t := Option.some.inj (hs.symm.trans ht)
      exact absurd ho (by simp [hclosed])
  · rw [if_neg hi]

theorem waitingFor_of_closed (hfed : w.Fed) (hcustody : Custody w.standing) {s : Session}
    (hs : w.standing.sessions[i]? = some s) (hclosed : s.camera = none) :
    w.relay.books.waitingFor i = 0 := hfed.claimed.waitingFor_eq_zero hcustody hs hclosed

/-! ### All runs -/

/-- A secluded session whose account is balanced, in a world that started with the cameras
    `profiles`. -/
structure Conserving (i r : Nat) (settings : Settings) (own : Nat → Bool)
    (profiles : List CameraProfile) (w : World σ) : Prop where
  custody : Custody w.standing
  secluded : Secluded i r settings own w.standing
  fed : w.Fed
  balanced : (w.account i r own).Balanced settings
  profiles : w.standing.cameras.map Camera.profile = profiles

/-- **A step** keeps the books of a session that shares no camera. -/
theorem Conserving.step {profiles : List CameraProfile}
    (hw : w.Conserving i r settings own profiles) (h : Handler σ) (hreturns : h.Returns) (e : Event)
    (hown : ∀ j p, e.Reaches w.relay j p → (own p = true ↔ j = i)) :
    (w.step h e).2.Conserving i r settings own profiles where
  custody := hw.custody.shift (step_shift h e hw.custody)
  secluded := hw.secluded.shift hw.custody hown (step_shift h e hw.custody)
  fed := hw.fed.step h hreturns hw.custody e
  balanced := hw.balanced.entry (step_entry hw.secluded hw.fed hw.custody h hreturns e)
  profiles := (step_shift h e hw.custody).profiles.trans hw.profiles

/-- What is behind a descriptor depends on the cameras' profiles alone. -/
theorem connected_of_profiles {cs cs' : List (Camera Nat)}
    (h : cs.map Camera.profile = cs'.map Camera.profile) (d : Descriptor) :
    connected cs d = connected cs' d := by
  have hprofiles (cs : List (Camera Nat)) : connected cs d =
      ((cs.map Camera.profile).filter (·.fd == d.fd)).map CameraProfile.serial := by
    simp [connected, List.filter_map, Function.comp_def]
  rw [hprofiles, hprofiles, h]

/-- Serials and descriptors of cameras stay as they are. -/
theorem place?_of_profiles {cs cs' : List (Camera Nat)}
    (h : cs.map Camera.profile = cs'.map Camera.profile) (serial : String) :
    place? cs serial = place? cs' serial := by
  have hprofiles (cs : List (Camera Nat)) : place? cs serial =
      (cs.map Camera.profile).findIdx? (·.serial == serial) := by
    simp [place?, List.findIdx?_map, Function.comp_def]
  rw [hprofiles, hprofiles, h]

/-- Where openings go depends on the cameras' profiles alone. -/
theorem target?_of_profiles {v w : Relay}
    (h : v.cameras.map Camera.profile = w.cameras.map Camera.profile) (d : Descriptor) :
    v.target? d = w.target? d := by
  unfold Relay.target?
  rw [connected_of_profiles h d]
  simp only [place?_of_profiles h]

/-- **Any schedule** keeps the books of such a session, if no other one opens its cameras. -/
theorem Conserving.run {profiles : List CameraProfile}
    (hw : w.Conserving i r settings own profiles) (h : Handler σ) (hreturns : h.Returns)
    (events : List Event)
    (hown : ∀ j d key address p, Event.operate j (.openCamera d key address) ∈ events →
      w.relay.target? d = some p → (own p = true ↔ j = i)) :
    (w.run h events).Conserving i r settings own profiles := by
  induction events generalizing w with
  | nil => exact hw
  | cons e rest ih =>
    have hstep : (w.step h e).2.Conserving i r settings own profiles := by
      refine hw.step h hreturns e ?_
      rintro j p ⟨-, d, key, address, rfl, htarget⟩
      exact hown j d key address p List.mem_cons_self htarget
    refine ih hstep ?_
    intro j d key address p hmem htarget
    refine hown j d key address p (List.mem_cons_of_mem e hmem) ?_
    -- The rest of the schedule goes for the same cameras as from the start.
    have hsame : (w.step h e).2.relay.cameras.map Camera.profile =
        w.relay.cameras.map Camera.profile := by
      have hprofiles := hstep.profiles.trans hw.profiles.symm
      simp only [standing, Relay.standing, List.map_map] at hprofiles
      exact hprofiles
    rw [← target?_of_profiles hsame d]
    exact htarget

/-- All accounts are balanced at the start. -/
theorem conserving_fresh (profiles : List CameraProfile) (runtimes : Nat)
    (sessions : List (Nat × Settings)) (host : σ) (now : Nat)
    (hi : sessions[i]? = some (r, settings)) (hr : r < runtimes)
    (halone : ∀ j s, sessions[j]? = some (r, s) → j = i) :
    (fresh profiles runtimes sessions host now).Conserving i r settings own profiles where
  custody := custody_fresh profiles runtimes sessions host now
  secluded := by
    -- Nobody holds a camera yet, which settles most of what is to be shown.
    have hnone (j p : Nat) : ¬(fresh profiles runtimes sessions host now).standing.Holds j p :=
      not_holds_fresh profiles runtimes sessions host now j p
    refine ⟨?_, ?_, ?_, ?_, ?_, ?_⟩
    · refine ⟨({ runtime := r, settings := settings } : Session).standing, ?_, rfl⟩
      simp only [standing, Relay.standing, fresh, List.getElem?_map, hi]
      rfl
    · intro j t ht
      simp only [standing, Relay.standing, fresh, List.getElem?_map, Option.map_map,
        Option.map_eq_some_iff] at ht
      obtain ⟨⟨n, s⟩, hj, rfl⟩ := ht
      constructor
      · rintro rfl
        exact halone j s hj
      · rintro rfl
        exact congrArg Prod.fst (Option.some.inj (hj.symm.trans hi))
    · intro j p hj
      exact absurd hj (hnone j p)
    · intro k x hx
      exact absurd hx (by simp [standing, Relay.standing, fresh])
    · intro t o x ht ho
      exact absurd ⟨t, o, ht, ho, rfl⟩ (hnone i o.device.camera)
    · simpa [standing, Relay.standing, fresh] using hr
  fed := by
    intro k x hx
    exact absurd hx (by simp [Relay.books, fresh])
  balanced := by
    -- All counts are zero, on both sides of the balance.
    have hemitted : (fresh profiles runtimes sessions host now).relay.books.emittedBy own = 0 := by
      refine List.sum_eq_zero_iff_forall_eq_nat.mpr ?_
      intro n hn
      obtain ⟨p, hp, rfl⟩ := List.mem_mapIdx.mp hn
      simp [Relay.books, fresh]
    have hstats : (fresh profiles runtimes sessions host now).relay.books.stats.getD i {} = {} := by
      simp [Relay.books, fresh, List.getD_eq_getElem?_getD, hi]
    have hcalls : (fresh profiles runtimes sessions host now).relay.books.invocations.getD r 0 =
        0 := by
      simp [Relay.books, fresh, List.getD_eq_getElem?_getD, hr]
    unfold account Books.account
    rw [hemitted, hstats, hcalls]
    exact ⟨rfl, rfl, Nat.le_refl _, fun _ => rfl, fun _ => rfl, fun _ => ⟨rfl, rfl⟩⟩
  profiles := by
    simp [standing, Relay.standing, fresh, Function.comp_def, Camera.standing]

end World

/-- The counts of the session `s` at place `i`, which has its host and the cameras `own` for itself,
    agree with each other and with what cameras, hand-offs and the host have counted. -/
structure Session.Conserves (s : Session) (i : Nat) (own : Nat → Bool) (w : Relay) : Prop where
  frames : w.books.emittedBy own =
    s.stats.delivered + s.stats.attachFailures + s.stats.handlerFailures + s.stats.overflowRejects +
      s.stats.backpressureDrops + w.books.waitingFor i
  calls : (w.runtime s.runtime).invocations = s.stats.delivered + s.stats.handlerFailures
  cuts : s.stats.truncatedFrames ≤ (w.runtime s.runtime).invocations
  unrefused : s.settings.overflowPolicy = .truncate → s.stats.overflowRejects = 0
  uncut : s.settings.overflowPolicy = .reject → s.stats.truncatedFrames = 0
  direct : s.settings.delivery = .synchronous →
    s.stats.backpressureDrops = 0 ∧ w.books.waitingFor i = 0
  closed : s.state = .closed → w.books.waitingFor i = 0

/-- **Frames are conserved.**  After every schedule, whatever has failed in its course, each frame
    that the cameras of a session have handed out is in exactly one of the session's counts or waits
    in a hand-off, and the handler was called once for each frame that it has accepted or failed
    on. -/
theorem frame_conservation (profiles : List CameraProfile) (runtimes : Nat)
    (sessions : List (Nat × Settings)) (host : σ) (now : Nat) (h : Handler σ) (hreturns : h.Returns)
    (events : List Event) (i r : Nat) (settings : Settings) (own : Nat → Bool)
    (hi : sessions[i]? = some (r, settings)) (hr : r < runtimes)
    (halone : ∀ j s, sessions[j]? = some (r, s) → j = i)
    (hown : ∀ j d key address p, Event.operate j (.openCamera d key address) ∈ events →
      (World.fresh profiles runtimes sessions host now).relay.target? d = some p →
        (own p = true ↔ j = i)) :
    let w := (World.fresh profiles runtimes sessions host now).run h events
    ∃ s, w.relay.sessions[i]? = some s ∧ s.runtime = r ∧ s.settings = settings ∧
      s.Conserves i own w.relay := by
  intro w
  have hw : w.Conserving i r settings own profiles :=
    (World.conserving_fresh profiles runtimes sessions host now hi hr halone).run h hreturns events
      hown
  obtain ⟨t, ht, hsettings⟩ := hw.secluded.present
  have hruntime : t.runtime = r := (hw.secluded.alone i t ht).mpr rfl
  have hstanding := ht
  simp only [World.standing, Relay.standing, List.getElem?_map, Option.map_eq_some_iff] at ht
  obtain ⟨s, hs, rfl⟩ := ht
  have hstats : w.relay.books.stats.getD i {} = s.stats := by
    simp [Relay.books, List.getD_eq_getElem?_getD, hs]
  -- The numbers of the account are those of the session and of its host.
  have hcalls : w.relay.books.invocations.getD r 0 = (w.relay.runtime s.runtime).invocations := by
    have hs' : s.runtime = r := hruntime
    have hhosted : r < w.relay.runtimes.length := by
      simpa [World.standing, Relay.standing] using hw.secluded.hosted
    rw [hs']
    simp [Relay.books, Relay.runtime, List.getD_eq_getElem?_getD, hhosted]
  obtain ⟨hframes, hcalled, hcuts, hunrefused, huncut, hdirect⟩ := hw.balanced
  unfold World.account Books.account at hframes hcalled hcuts hunrefused huncut hdirect
  rw [hstats] at hframes hcalled hcuts hunrefused huncut hdirect
  rw [hcalls] at hcalled hcuts
  have hkept : s.settings = settings := hsettings
  refine ⟨s, hs, hruntime, hkept, hframes, hcalled, hcuts, hkept ▸ hunrefused, hkept ▸ huncut,
    hkept ▸ hdirect, ?_⟩
  -- A closed session holds no camera, and frames wait only for cameras that are held.
  intro hclosed
  exact World.waitingFor_of_closed hw.fed hw.custody hstanding
    ((hw.custody.closed i s.standing hstanding).mp hclosed)

/-- Of three frames one is dropped, one is cut and delivered, and one still waits; another session
    runs next door. -/
theorem frame_conservation_cut_and_dropped :
    let settings : Settings :=
      { maxPoints := 2, overflowPolicy := .truncate, delivery := .queued, handoffDepth := 2 }
    let start : World Unit := World.fresh [{ serial := "A", fd := 3 }, { serial := "B", fd := 4 }] 2
      [(0, settings), (1, { maxPoints := 2 })] () 0
    let events : List Event :=
      [.operate 0 (.openCamera ⟨3⟩ 5 64), .operate 1 (.openCamera ⟨4⟩ 5 96),
        .operate 0 (.start false), .operate 1 (.start true),
        .emit "W" 0 [default, default, default], .emit "W" 1 [default], .emit "W" 0 [],
        .emit "W" 0 [], .dispatch 0]
    let w := start.run .accepting events
    (∃ s, w.relay.sessions[0]? = some s ∧ s.Conserves 0 (fun p => p = 0) w.relay) ∧
      w.relay.books.emitted = [3, 1] ∧
      w.relay.books.waiting = [⟨0, 1, true⟩, ⟨1, 0, true⟩] ∧
      w.relay.books.stats =
        [{ delivered := 1, truncatedFrames := 1, backpressureDrops := 1 }, { delivered := 1 }] ∧
      w.relay.books.invocations = [1, 1] := by
  intro settings start events w
  have hreturns : Handler.accepting.Returns := by
    intro r d host reason
    simp [Handler.accepting]
  have halone : ∀ j s, [(0, settings), (1, { maxPoints := 2 })][j]? = some (0, s) → j = 0 := by
    intro j s hj
    rcases j with _ | _ | j
    · rfl
    · simp at hj
    · simp at hj
  have hown : ∀ j d key address p, Event.operate j (.openCamera d key address) ∈ events →
      start.relay.target? d = some p → (decide (p = 0) = true ↔ j = 0) := by
    intro j d key address p hmem htarget
    have hopens : j = 0 ∧ d = ⟨3⟩ ∨ j = 1 ∧ d = ⟨4⟩ := by
      simp only [events, List.mem_cons, Event.operate.injEq, Operation.openCamera.injEq] at hmem
      rcases hmem with ⟨hj, hd, -⟩ | ⟨hj, hd, -⟩ | hmem
      · exact .inl ⟨hj, hd⟩
      · exact .inr ⟨hj, hd⟩
      · simp at hmem
    have htargets : start.relay.target? ⟨3⟩ = some 0 ∧ start.relay.target? ⟨4⟩ = some 1 := by
      decide
    rcases hopens with ⟨rfl, rfl⟩ | ⟨rfl, rfl⟩
    · obtain rfl := Option.some.inj (htargets.1.symm.trans htarget)
      decide
    · obtain rfl := Option.some.inj (htargets.2.symm.trans htarget)
      decide
  have hconserved := frame_conservation _ 2 _ () 0 .accepting hreturns events 0 0 settings
    (fun p => p = 0) rfl (by decide) halone hown
  have hw : World.run .accepting events start = w := rfl
  rw [show World.fresh _ 2 _ () 0 = start from rfl, hw] at hconserved
  obtain ⟨s, hs, -, -, hconserves⟩ := hconserved
  refine ⟨⟨s, hs, hconserves⟩, ?_, ?_, ?_, ?_⟩
  · decide
  · decide
  · decide
  · decide

end DepthRelay
