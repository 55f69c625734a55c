import DepthRelay.Host.Runtime
import DepthRelay.Proofs.Places
import Mathlib.Logic.Function.Basic

namespace DepthRelay

/-!
# Failures of frame handlers

Any number of threads call the frame handler of one host, each with a handle of its own.  A failure
of the handler is left with the host, under the handle of the thread, and the thread takes it in
another step.  In between, other threads go on, and buffers are exposed and withdrawn.

* `Callers`, `Callers.step?`, `Callers.play?` — the threads and their host, one move, and a schedule
  with a record of it.
* `Callers.Call` — the turns of one call, of which the last tells its outcome; `Callers.Begun` —
  those of a call that goes on, and what is pending for it.
* `Callers.Sound`, `Callers.Sound.step` — what holds between any two moves; `Sound.put` is the part
  of its preservation that all moves of threads share.
* `handler_failures_stay` — a failure is the outcome of the call in which it happened.
-/

/-! ### Threads and their moves -/

/-- What a thread is at with its call. -/
inductive CallPhase
  | idle
  /-- The handler is at work. -/
  | calling
  /-- The call has ended, and its failure is still to be looked for. -/
  | between (call : Except HostError Unit)

/-- The threads that call the handler of a host, between two moves. -/
structure Callers (τ : Type) where
  runtime : Runtime
  phase : τ → CallPhase := fun _ => .idle

namespace Callers

variable {τ : Type} [DecidableEq τ]

/-- One move of a thread, or of whoever has buffers. -/
inductive Move (τ : Type)
  | invoke (t : τ) (d : Delivery)
  /-- The handler ends. -/
  | answer (t : τ) (reply : Reply)
  /-- The thread takes the failure that is pending for it, and knows how its call has ended. -/
  | take (t : τ)
  | expose (v : View)
  | withdraw (v : View)

/-- The thread that moves. -/
def Move.thread? : Move τ → Option τ
  | invoke t _ | answer t _ | take t => some t
  | _ => none

/-- What a move lets others see. -/
inductive Noted
  | nothing
  /-- The handler has been called. -/
  | called
  | finished (outcome : Outcome)
  deriving DecidableEq

/-- The thread is at another phase, and has changed the host. -/
def put (t : τ) (x : CallPhase) (r : Runtime) (p : Callers τ) : Callers τ :=
  ⟨r, Function.update p.phase t x⟩

@[simp] theorem runtime_put (t : τ) (x : CallPhase) (r : Runtime) (p : Callers τ) :
    (p.put t x r).runtime = r := rfl

@[simp] theorem phase_put (t : τ) (x : CallPhase) (r : Runtime) (p : Callers τ) :
    (p.put t x r).phase t = x := by
  simp [put]

theorem phase_put_of_ne {t u : τ} (h : u ≠ t) (x : CallPhase) (r : Runtime) (p : Callers τ) :
    (p.put t x r).phase u = p.phase u := by
  simp [put, h]

/-- One move, if it can be made.  A handler that gives up leaves nothing to look for. -/
def step? (handle : τ → Handle) (m : Move τ) (p : Callers τ) : Option (Noted × Callers τ) :=
  match m with
  | .invoke t d =>
    match p.phase t, p.runtime.enter d.view with
    | .idle, .ok r => some (.called, p.put t .calling r)
    | .idle, .error e => some (.nothing, p.put t (.between (.error e)) p.runtime)
    | _, _ => none
  | .answer t reply =>
    match p.phase t, reply with
    | .calling, .aborted _ => some (.nothing, p.put t .idle (p.runtime.leave (handle t) reply))
    | .calling, _ => some (.nothing, p.put t (.between (.ok ())) (p.runtime.leave (handle t) reply))
    | _, _ => none
  | .take t =>
    match p.phase t with
    | .between call =>
      let (outcome, r) := p.runtime.conclude call (handle t)
      some (.finished outcome, p.put t .idle r)
    | _ => none
  | .expose v =>
    match p.runtime.expose v with
    | .ok r => some (.nothing, { p with runtime := r })
    | .error _ => some (.nothing, p)
  | .withdraw v => some (.nothing, { p with runtime := p.runtime.retract v })

/-- A move that has been made. -/
structure Turn (τ : Type) where
  before : Callers τ
  move : Move τ
  noted : Noted

/-- The thread is at the move; others can always move. -/
def Move.Fits (p : Callers τ) : Move τ → Prop
  | invoke t _ => p.phase t = .idle
  | answer t _ => p.phase t = .calling
  | take t => ∃ call, p.phase t = .between call
  | _ => True

/-- Plays a schedule, if all its moves can be made. -/
def play? (handle : τ → Handle) : List (Move τ) → Callers τ → Option (List (Turn τ) × Callers τ)
  | [], p => some ([], p)
  | m :: ms, p =>
    match p.step? handle m with
    | none => none
    | some (noted, q) =>
      (play? handle ms q).map fun (turns, r) => (⟨p, m, noted⟩ :: turns, r)

/-- The turns of one thread. -/
def own (t : τ) (turns : List (Turn τ)) : List (Turn τ) :=
  turns.filter fun u => u.move.thread? = some t

/-! ### Calls -/

/-- The turns of one call. -/
inductive Call (t : τ) : List (Turn τ) → Prop
  /-- The buffer is not exposed, so the handler is not called. -/
  | unseen (p q : Callers τ) (d : Delivery) (hidden : d.view ∉ p.runtime.exposed) :
      Call t [⟨p, .invoke t d, .nothing⟩,
        ⟨q, .take t, .finished (.failed HostError.noBuffer.message)⟩]
  | failed (p q s : Callers τ) (d : Delivery) (text : String) (seen : d.view ∈ p.runtime.exposed) :
      Call t [⟨p, .invoke t d, .called⟩, ⟨q, .answer t (.failed text), .nothing⟩,
        ⟨s, .take t, .finished (.failed text)⟩]
  | delivered (p q s : Callers τ) (d : Delivery) (seen : d.view ∈ p.runtime.exposed) :
      Call t [⟨p, .invoke t d, .called⟩, ⟨q, .answer t .accepted, .nothing⟩,
        ⟨s, .take t, .finished .delivered⟩]
  /-- The handler gives up, and the call with it. -/
  | aborted (p q : Callers τ) (d : Delivery) (reason : Abort)
      (seen : d.view ∈ p.runtime.exposed) :
      Call t [⟨p, .invoke t d, .called⟩, ⟨q, .answer t (.aborted reason), .nothing⟩]

/-- The turns of a call that goes on, if there is one; what the thread is at, and the failure that
    is pending for it. -/
inductive Begun (t : τ) : List (Turn τ) → CallPhase → Option String → Prop
  | idle : Begun t [] .idle none
  | unseen (p : Callers τ) (d : Delivery) (hidden : d.view ∉ p.runtime.exposed) :
      Begun t [⟨p, .invoke t d, .nothing⟩] (.between (.error .noBuffer)) none
  | calling (p : Callers τ) (d : Delivery) (seen : d.view ∈ p.runtime.exposed) :
      Begun t [⟨p, .invoke t d, .called⟩] .calling none
  | failed (p q : Callers τ) (d : Delivery) (text : String) (seen : d.view ∈ p.runtime.exposed) :
      Begun t [⟨p, .invoke t d, .called⟩, ⟨q, .answer t (.failed text), .nothing⟩]
        (.between (.ok ())) (some text)
  | accepted (p q : Callers τ) (d : Delivery) (seen : d.view ∈ p.runtime.exposed) :
      Begun t [⟨p, .invoke t d, .called⟩, ⟨q, .answer t .accepted, .nothing⟩]
        (.between (.ok ())) none

/-- The turns of a thread are those of whole calls, and then of the call that goes on. -/
def InCalls (t : τ) (turns : List (Turn τ)) (x : CallPhase) (pending : Option String) : Prop :=
  ∃ (calls : List (List (Turn τ))) (rest : List (Turn τ)), own t turns = calls.flatten ++ rest ∧
    (∀ c ∈ calls, Call t c) ∧ Begun t rest x pending

/-- What holds between any two moves. -/
structure Sound (handle : τ → Handle) (turns : List (Turn τ)) (p : Callers τ) : Prop where
  calls : ∀ t, InCalls t turns (p.phase t) (p.runtime.pending.lookup (handle t))
  /-- Nothing is pending for a handle that no thread has. -/
  handles : ∀ entry ∈ p.runtime.pending, ∃ t, handle t = entry.1

/-! ### What a move can do -/

/-- Everything that a move can do. -/
inductive Made (handle : τ → Handle) (p : Callers τ) : Move τ → Noted → Callers τ → Prop
  | called (t : τ) (d : Delivery) (idle : p.phase t = .idle) (seen : d.view ∈ p.runtime.exposed) :
      Made handle p (.invoke t d) .called
        (p.put t .calling { p.runtime with invocations := p.runtime.invocations + 1 })
  | unseen (t : τ) (d : Delivery) (idle : p.phase t = .idle)
      (hidden : d.view ∉ p.runtime.exposed) :
      Made handle p (.invoke t d) .nothing (p.put t (.between (.error .noBuffer)) p.runtime)
  | failed (t : τ) (text : String) (calling : p.phase t = .calling) :
      Made handle p (.answer t (.failed text)) .nothing
        (p.put t (.between (.ok ())) (p.runtime.leave (handle t) (.failed text)))
  | accepted (t : τ) (calling : p.phase t = .calling) :
      Made handle p (.answer t .accepted) .nothing (p.put t (.between (.ok ())) p.runtime)
  | aborted (t : τ) (reason : Abort) (calling : p.phase t = .calling) :
      Made handle p (.answer t (.aborted reason)) .nothing (p.put t .idle p.runtime)
  | taken (t : τ) (call : Except HostError Unit) (between : p.phase t = .between call) :
      Made handle p (.take t) (.finished (p.runtime.conclude call (handle t)).1)
        (p.put t .idle (p.runtime.conclude call (handle t)).2)
  | exposed (v : View) (r : Runtime) (ok : p.runtime.expose v = .ok r) :
      Made handle p (.expose v) .nothing { p with runtime := r }
  | refused (v : View) : Made handle p (.expose v) .nothing p
  | withdrawn (v : View) :
      Made handle p (.withdraw v) .nothing { p with runtime := p.runtime.retract v }

section

variable {handle : τ → Handle} {p q : Callers τ} {m : Move τ} {noted : Noted}
  {turns : List (Turn τ)} {t u : τ} {turn : Turn τ} {x y : CallPhase} {o o' : Option String}

/-- **What a step can do**, with the guards of each kind. -/
theorem Made.of_step? (h : p.step? handle m = some (noted, q)) : Made handle p m noted q := by
  cases m with
  | invoke t d =>
    simp only [step?] at h
    cases hphase : p.phase t with
    | idle =>
      by_cases hseen : d.view ∈ p.runtime.exposed
      · simp only [hphase, Runtime.enter, Runtime.isExposed, List.contains_iff_mem, hseen, if_true,
          Option.some.injEq, Prod.mk.injEq] at h
        obtain ⟨rfl, rfl⟩ := h
        exact .called t d hphase hseen
      · simp only [hphase, Runtime.enter, Runtime.isExposed, List.contains_iff_mem, hseen, if_false,
          Option.some.injEq, Prod.mk.injEq] at h
        obtain ⟨rfl, rfl⟩ := h
        exact .unseen t d hphase hseen
    | _ => simp [hphase] at h
  | answer t reply =>
    simp only [step?] at h
    cases hphase : p.phase t with
    | calling =>
      rw [hphase] at h
      cases reply with
      | accepted =>
        obtain ⟨rfl, rfl⟩ := Prod.mk.inj (Option.some.inj h)
        exact .accepted t hphase
      | failed text =>
        obtain ⟨rfl, rfl⟩ := Prod.mk.inj (Option.some.inj h)
        exact .failed t text hphase
      | aborted reason =>
        obtain ⟨rfl, rfl⟩ := Prod.mk.inj (Option.some.inj h)
        exact .aborted t reason hphase
    | _ => simp [hphase] at h
  | take t =>
    simp only [step?] at h
    cases hphase : p.phase t with
    | between call =>
      rw [hphase] at h
      obtain ⟨rfl, rfl⟩ := Prod.mk.inj (Option.some.inj h)
      exact .taken t call hphase
    | _ => simp [hphase] at h
  | expose v =>
    simp only [step?] at h
    cases hexpose : p.runtime.expose v with
    | ok r =>
      rw [hexpose] at h
      obtain ⟨rfl, rfl⟩ := Prod.mk.inj (Option.some.inj h)
      exact .exposed v r hexpose
    | error e =>
      rw [hexpose] at h
      obtain ⟨rfl, rfl⟩ := Prod.mk.inj (Option.some.inj h)
      exact .refused v
  | withdraw v =>
    obtain ⟨rfl, rfl⟩ := Prod.mk.inj (Option.some.inj h)
    exact .withdrawn v

/-! ### Between two moves -/

theorem own_append_self (h : turn.move.thread? = some t) :
    own t (turns ++ [turn]) = own t turns ++ [turn] := by
  simp [own, h]

theorem own_append_of_ne (h : turn.move.thread? ≠ some t) :
    own t (turns ++ [turn]) = own t turns := by
  simp [own, h]

/-- A call goes on. -/
theorem InCalls.go (h : InCalls t turns x o) (hturn : turn.move.thread? = some t)
    (hgo : ∀ rest, Begun t rest x o → Begun t (rest ++ [turn]) y o') :
    InCalls t (turns ++ [turn]) y o' := by
  obtain ⟨calls, rest, hown, hcalls, hbegun⟩ := h
  refine ⟨calls, rest ++ [turn], ?_, hcalls, hgo rest hbegun⟩
  rw [own_append_self hturn, hown, List.append_assoc]

/-- A call ends. -/
theorem InCalls.finish (h : InCalls t turns x o) (hturn : turn.move.thread? = some t)
    (hfinish : ∀ rest, Begun t rest x o → Call t (rest ++ [turn])) :
    InCalls t (turns ++ [turn]) .idle none := by
  obtain ⟨calls, rest, hown, hcalls, hbegun⟩ := h
  refine ⟨calls ++ [rest ++ [turn]], [], ?_, ?_, .idle⟩
  · rw [own_append_self hturn, hown]
    simp
  · intro c hc
    rcases List.mem_append.mp hc with hold | hnew
    · exact hcalls c hold
    · rw [List.mem_singleton.mp hnew]
      exact hfinish rest hbegun

/-- While the handler is at work nothing is pending. -/
theorem InCalls.eq_none_of_calling (h : InCalls t turns .calling o) : o = none := by
  obtain ⟨_, _, _, _, hbegun⟩ := h
  cases hbegun
  rfl

/-- **A thread moves.**  It is enough to look at its own calls if it touches only what is pending
    for its own handle. -/
theorem Sound.put (h : Sound handle turns p) (hdistinct : Function.Injective handle) {r : Runtime}
    (hturn : turn.move.thread? = some t)
    (hown : InCalls t (turns ++ [turn]) x (r.pending.lookup (handle t)))
    (hothers : ∀ n ≠ handle t, r.pending.lookup n = p.runtime.pending.lookup n)
    (hhandles : ∀ entry ∈ r.pending, entry ∈ p.runtime.pending ∨ entry.1 = handle t) :
    Sound handle (turns ++ [turn]) (p.put t x r) where
  calls := by
    intro u
    by_cases hu : u = t
    · subst hu
      rw [phase_put, runtime_put]
      exact hown
    · -- For the others the turn is not one of theirs, and their failures are where they were.
      have hturn' : turn.move.thread? ≠ some u := by
        rw [hturn]
        exact fun h => hu (Option.some.inj h).symm
      rw [phase_put_of_ne hu, runtime_put, hothers (handle u) fun hsame => hu (hdistinct hsame)]
      unfold InCalls
      rw [own_append_of_ne hturn']
      exact h.calls u
  handles := by
    intro entry hentry
    rcases hhandles entry hentry with hold | hnew
    · exact h.handles entry hold
    · exact ⟨t, hnew.symm⟩

/-- A thread moves and leaves alone what is pending. -/
theorem Sound.put_of_pending (h : Sound handle turns p) (hdistinct : Function.Injective handle)
    {r : Runtime} (hturn : turn.move.thread? = some t) (hpending : r.pending = p.runtime.pending)
    (hown : InCalls t (turns ++ [turn]) x (p.runtime.pending.lookup (handle t))) :
    Sound handle (turns ++ [turn]) (p.put t x r) := by
  refine h.put hdistinct hturn (hpending ▸ hown) (fun n _ => by rw [hpending]) ?_
  intro entry hentry
  exact .inl (hpending ▸ hentry)

/-- Nobody moves, and what is pending stays as it is. -/
theorem Sound.host (h : Sound handle turns p) {r : Runtime} (hturn : turn.move.thread? = none)
    (hpending : r.pending = p.runtime.pending) :
    Sound handle (turns ++ [turn]) { p with runtime := r } where
  calls := by
    intro u
    unfold InCalls
    rw [own_append_of_ne (by rw [hturn]; simp), hpending]
    exact h.calls u
  handles := by
    rw [hpending]
    exact h.handles

/-- The calls of a thread, by what it is at. -/
theorem Sound.at_phase (h : Sound handle turns p) (hphase : p.phase t = x) :
    ∃ o, p.runtime.pending.lookup (handle t) = o ∧ InCalls t turns x o :=
  ⟨_, rfl, hphase ▸ h.calls t⟩

/-- **One move.** -/
theorem Sound.step (h : Sound handle turns p) (hdistinct : Function.Injective handle)
    (hstep : p.step? handle m = some (noted, q)) : Sound handle (turns ++ [⟨p, m, noted⟩]) q := by
  cases Made.of_step? hstep with
  | called t d idle seen =>
    obtain ⟨o, hpending, hcalls⟩ := h.at_phase idle
    refine h.put_of_pending hdistinct rfl rfl (hpending ▸ hcalls.go rfl fun rest hbegun => ?_)
    cases hbegun
    exact .calling p d seen
  | unseen t d idle hidden =>
    obtain ⟨o, hpending, hcalls⟩ := h.at_phase idle
    refine h.put_of_pending hdistinct rfl rfl (hpending ▸ hcalls.go rfl fun rest hbegun => ?_)
    cases hbegun
    exact .unseen p d hidden
  | accepted t calling =>
    obtain ⟨o, hpending, hcalls⟩ := h.at_phase calling
    refine h.put_of_pending hdistinct rfl rfl (hpending ▸ hcalls.go rfl fun rest hbegun => ?_)
    cases hbegun with
    | calling p₀ d seen => exact .accepted p₀ p d seen
  | aborted t reason calling =>
    obtain ⟨o, hpending, hcalls⟩ := h.at_phase calling
    obtain rfl := hcalls.eq_none_of_calling
    refine h.put_of_pending hdistinct rfl rfl (hpending ▸ hcalls.finish rfl fun rest hbegun => ?_)
    cases hbegun with
    | calling p₀ d seen => exact .aborted p₀ p d reason seen
  | failed t text calling =>
    obtain ⟨o, -, hcalls⟩ := h.at_phase calling
    refine h.put hdistinct rfl ?_ (fun n hn => ?_) fun entry hentry => ?_
    · -- The new failure is the one that is found, whatever was there.
      have hpending : (p.runtime.leave (handle t) (.failed text)).pending.lookup (handle t) =
          some text := List.lookup_cons_self
      rw [hpending]
      refine hcalls.go rfl fun rest hbegun => ?_
      cases hbegun with
      | calling p₀ d seen => exact .failed p₀ p d text seen
    · have hne : (n == handle t) = false := by simpa using hn
      simp only [Runtime.leave, List.lookup_cons, hne, lookup_filter_ne hn]
    · rcases List.mem_cons.mp hentry with rfl | hold
      · exact .inr rfl
      · exact .inl (List.mem_filter.mp hold).1
  | taken t call between =>
    obtain ⟨o, hpending, hcalls⟩ := h.at_phase between
    rw [Runtime.conclude_eq, hpending]
    refine h.put hdistinct rfl ?_ (fun n hn => lookup_filter_ne hn _) fun entry hentry =>
      .inl (List.mem_filter.mp hentry).1
    rw [lookup_filter_self]
    refine hcalls.finish rfl fun rest hbegun => ?_
    cases hbegun with
    | unseen p₀ d hidden => exact .unseen p₀ p d hidden
    | failed p₀ q d text seen => exact .failed p₀ q p d text seen
    | accepted p₀ q d seen => exact .delivered p₀ q p d seen
  | exposed v r ok => exact h.host rfl (Runtime.pending_expose ok)
  | refused v => exact h.host rfl rfl
  | withdrawn v => exact h.host rfl rfl

/-! ### Schedules -/

/-- A schedule is its first step and the rest. -/
theorem play?_cons {ms : List (Move τ)} {r : Callers τ}
    (h : play? handle (m :: ms) p = some (turns, r)) :
    ∃ noted q rest, p.step? handle m = some (noted, q) ∧ play? handle ms q = some (rest, r) ∧
      turns = ⟨p, m, noted⟩ :: rest := by
  simp only [play?] at h
  cases hstep : p.step? handle m with
  | none => simp [hstep] at h
  | some made =>
    rw [hstep] at h
    obtain ⟨⟨rest, last⟩, hrest, hlast⟩ := Option.map_eq_some_iff.mp h
    obtain ⟨rfl, rfl⟩ := Prod.mk.inj hlast
    exact ⟨made.1, made.2, rest, rfl, hrest, rfl⟩

/-- Before the first move. -/
theorem Sound.start {r : Runtime} (h : r.pending = []) :
    Sound handle [] ({ runtime := r } : Callers τ) where
  calls := by
    intro t
    rw [h]
    exact ⟨[], [], rfl, by simp, .idle⟩
  handles := by
    rw [h]
    simp

/-- **All moves.** -/
theorem Sound.play {moves : List (Move τ)} {past : List (Turn τ)} (h : Sound handle past p)
    (hdistinct : Function.Injective handle) (hplay : play? handle moves p = some (turns, q)) :
    Sound handle (past ++ turns) q := by
  -- On the moves that are left; those that have been made are the past.
  induction moves generalizing past turns p with
  | nil =>
    obtain ⟨rfl, rfl⟩ := Prod.mk.inj (Option.some.inj hplay)
    rwa [List.append_nil]
  | cons m moves ih =>
    obtain ⟨noted, next, rest, hstep, hrest, rfl⟩ := play?_cons hplay
    have hnext := ih (h.step hdistinct hstep) hrest
    rwa [List.append_assoc] at hnext

/-- What is pending is for a thread whose call has ended. -/
theorem Sound.between (h : Sound handle turns p) {entry : Handle × String}
    (hentry : entry ∈ p.runtime.pending) :
    ∃ t call, handle t = entry.1 ∧ p.phase t = .between call := by
  obtain ⟨t, ht⟩ := h.handles entry hentry
  have hlookup : p.runtime.pending.lookup (handle t) ≠ none := by
    intro hnone
    have hne := List.lookup_eq_none_iff.mp hnone entry hentry
    simp [ht] at hne
  obtain ⟨o, hpending, _, _, _, _, hbegun⟩ := h.at_phase (x := p.phase t) rfl
  rw [hpending] at hlookup
  generalize hphase : p.phase t = x at hbegun
  -- Of the calls that go on, only one that has failed has something pending.
  cases hbegun with
  | failed => exact ⟨t, _, ht, hphase⟩
  | _ => exact absurd rfl hlookup

/-- The host counts the calls of its handler. -/
theorem invocations_step? (h : p.step? handle m = some (noted, q)) :
    q.runtime.invocations = p.runtime.invocations + if noted = .called then 1 else 0 := by
  cases Made.of_step? h with
  | taken t call between => rw [Runtime.conclude_eq]; rfl
  | exposed v r ok => rw [(Runtime.expose_eq_ok.mp ok).2]; rfl
  | _ => rfl

/-- The host has been called as often as the turns say. -/
theorem invocations_play? {moves : List (Move τ)} (h : play? handle moves p = some (turns, q)) :
    q.runtime.invocations = p.runtime.invocations + turns.countP (·.noted = .called) := by
  induction moves generalizing turns p with
  | nil =>
    obtain ⟨rfl, rfl⟩ := Prod.mk.inj (Option.some.inj h)
    rfl
  | cons m moves ih =>
    obtain ⟨noted, next, rest, hstep, hrest, rfl⟩ := play?_cons h
    rw [ih hrest, invocations_step? hstep, List.countP_cons]
    simp only [decide_eq_true_eq]
    omega

/-- The record of a schedule is about its moves. -/
theorem moves_play? {moves : List (Move τ)} (h : play? handle moves p = some (turns, q)) :
    turns.map Turn.move = moves := by
  induction moves generalizing turns p with
  | nil =>
    obtain ⟨rfl, -⟩ := Prod.mk.inj (Option.some.inj h)
    rfl
  | cons m moves ih =>
    obtain ⟨noted, next, rest, -, hrest, rfl⟩ := play?_cons h
    rw [List.map_cons, ih hrest]

/-- A thread can always go on with what it is at. -/
theorem isSome_step? (hfits : m.Fits p) : (p.step? handle m).isSome := by
  cases m with
  | invoke t d =>
    have hphase : p.phase t = .idle := hfits
    simp only [step?, hphase]
    cases p.runtime.enter d.view <;> rfl
  | answer t reply =>
    have hphase : p.phase t = .calling := hfits
    simp only [step?, hphase]
    cases reply <;> rfl
  | take t =>
    obtain ⟨call, hphase⟩ : ∃ call, p.phase t = .between call := hfits
    simp only [step?, hphase]
    rfl
  | expose v =>
    simp only [step?]
    cases p.runtime.expose v <;> rfl
  | withdraw v => rfl

end

end Callers

/-- **Failures stay with their calls.**  Threads with handles of their own call the handler of a
    host with which nothing is pending, while buffers are exposed and withdrawn.  Then the turns of
    each thread are those of one call after another, each with the outcome that is its own.  A
    failure is pending only while its thread looks for it, so nothing is pending for a thread whose
    call has returned. -/
theorem handler_failures_stay {τ : Type} [DecidableEq τ] {handle : τ → Handle}
    (hdistinct : Function.Injective handle) {r : Runtime} (hnone : r.pending = [])
    {moves : List (Callers.Move τ)} {turns : List (Callers.Turn τ)} {p : Callers τ}
    (hplay : Callers.play? handle moves { runtime := r } = some (turns, p)) :
    turns.map Callers.Turn.move = moves ∧
    (∀ t, Callers.InCalls t turns (p.phase t) (p.runtime.pending.lookup (handle t))) ∧
    (∀ entry ∈ p.runtime.pending, ∃ t call, handle t = entry.1 ∧ p.phase t = .between call) ∧
    (∀ t, p.phase t = .idle → ∀ entry ∈ p.runtime.pending, entry.1 ≠ handle t) ∧
    p.runtime.invocations = r.invocations + turns.countP (·.noted = .called) ∧
    ∀ m : Callers.Move τ, m.Fits p → (p.step? handle m).isSome := by
  have hsound := (Callers.Sound.start hnone).play hdistinct hplay
  rw [List.nil_append] at hsound
  refine ⟨Callers.moves_play? hplay, hsound.calls, fun entry hentry => hsound.between hentry, ?_,
    Callers.invocations_play? hplay, fun m hfits => Callers.isSome_step? hfits⟩
  intro t hidle entry hentry hsame
  obtain ⟨u, call, hu, hbetween⟩ := hsound.between hentry
  obtain rfl : u = t := hdistinct (hu.trans hsame)
  rw [hidle] at hbetween
  cases hbetween

/-- Two threads whose calls fail at the same time, and the buffer is withdrawn before they look for
    their failures.  The next call of one of them is not made. -/
theorem handler_failures_stay_two :
    let handle (t : Bool) : Handle := if t then 1 else 2
    let frame : Delivery := ⟨⟨64, 12⟩, ⟨#[]⟩, 1, 0⟩
    let moves : List (Callers.Move Bool) := [.expose frame.view, .invoke true frame,
      .invoke false frame, .answer true (.failed "first"), .answer false (.failed "second"),
      .withdraw frame.view, .take false, .invoke false frame, .take true, .take false]
    ∃ turns p, Callers.play? handle moves { runtime := {} } = some (turns, p) ∧
      turns.map Callers.Turn.noted = [.nothing, .called, .called, .nothing, .nothing, .nothing,
        .finished (.failed "second"), .nothing, .finished (.failed "first"),
        .finished (.failed HostError.noBuffer.message)] ∧
      (∀ t, Callers.InCalls t turns .idle (p.runtime.pending.lookup (handle t))) ∧
      p.runtime.invocations = 2 := by
  intro handle frame moves
  have hdistinct : Function.Injective handle := by
    unfold Function.Injective
    decide
  refine ⟨_, _, rfl, rfl, ?_, rfl⟩
  intro t
  have hplay : Callers.play? handle moves { runtime := {} } = some _ := rfl
  have hcalls := (handler_failures_stay hdistinct rfl hplay).2.1 t
  cases t <;> exact hcalls

end DepthRelay
