import DepthRelay.Proofs.Decoding
import Mathlib.Logic.Function.Basic

namespace DepthRelay

/-!
# Threads that deliver at the same time

Any number of threads deliver frames on one open channel, and every thread may stop between any two
of its moves to let others go on.  The buffer is written in place, point by point, and belongs to
one thread at a time; attaching is done without it.

* `Stage` — what a thread is at with its frame.
* `Drivers`, `Drivers.step?`, `Drivers.play?` — the threads on a channel, one move, and a schedule
  with a record of what handlers were called with and have read.
* `Drivers.Sound` — what holds between any two moves; `Sound.move` is the part of its preservation
  that all moves share.
* `Drivers.deliver_uninterrupted` — a thread that nobody interrupts does what `Live.deliver` does.
* `concurrent_deliveries` — no frame is ever torn, and the calls are numbered without a gap.
-/

/-! ### Threads and their moves -/

/-- What a thread is at with its frame. -/
inductive Stage
  | idle
  | arrived (points : List Point)
  /-- It is attached, and waits for the buffer. -/
  | waiting (ticket : Ticket) (points : List Point)
  /-- It has the buffer. -/
  | locked (ticket : Ticket) (points : List Point)
  /-- The points `done` are in the buffer, and `rest` is still to be copied. -/
  | copying (ticket : Ticket) (points done rest : List Point)
  /-- The frame has its number. -/
  | numbered (ticket : Ticket) (points : List Point) (d : Delivery)
  /-- The handler is at work. -/
  | calling (ticket : Ticket) (points : List Point) (d : Delivery)
  /-- The call has ended. -/
  | answered (ticket : Ticket) (call : Except HostError Unit)

namespace Stage

/-- Whether a thread at this stage has the buffer. -/
def inside : Stage → Bool
  | idle | arrived _ | waiting _ _ => false
  | _ => true

/-- Whether the handler is at work. -/
def inCall : Stage → Bool
  | calling _ _ _ => true
  | _ => false

/-- Numbers that have been taken for calls that are still to begin. -/
def pending : Stage → Nat
  | numbered _ _ _ => 1
  | _ => 0

end Stage

/-- One point is copied to place `i` of the buffer. -/
def Channel.copyPoint (i : Nat) (p : Point) (x : Channel) : Channel :=
  { x with buffer := { x.buffer with words := FrameBuffer.setPoint x.buffer.words i p } }

@[simp] theorem Channel.capacity_copyPoint (i : Nat) (p : Point) (x : Channel) :
    (x.copyPoint i p).buffer.capacity = x.buffer.capacity := by
  simp [copyPoint, FrameBuffer.capacity]

@[simp] theorem Channel.wiring_copyPoint (i : Nat) (p : Point) (x : Channel) :
    (x.copyPoint i p).wiring = x.wiring := by
  simp [wiring, view, copyPoint, FrameBuffer.view, Array.isEmpty]

@[simp] theorem Channel.nextSequence_copyPoint (i : Nat) (p : Point) (x : Channel) :
    (x.copyPoint i p).nextSequence = x.nextSequence := rfl

/-- Points are copied from place `i` on. -/
def Channel.copyPoints (i : Nat) : List Point → Channel → Channel
  | [], x => x
  | p :: ps, x => copyPoints (i + 1) ps (x.copyPoint i p)

/-- The first `n` points of the buffer are a frame now, and have used up a number. -/
def Channel.number (n : Nat) (x : Channel) : Channel :=
  { x with
    buffer := { x.buffer with count := n }
    nextSequence := x.nextSequence + 1 }

@[simp] theorem Channel.wiring_number (n : Nat) (x : Channel) :
    (x.number n).wiring = x.wiring := rfl

@[simp] theorem Channel.nextSequence_number (n : Nat) (x : Channel) :
    (x.number n).nextSequence = x.nextSequence + 1 := rfl

/-- The host of a channel begins to refuse threads, or stops to. -/
def Relay.refuseThreads (k : Nat) (on : Bool) (w : Relay) : Relay :=
  w.modifyRuntime (w.channel k).binding.runtime fun r => { r with attachDisabled := on }

/-- The threads that deliver on a channel, between two moves. -/
structure Drivers where
  relay : Relay
  /-- The thread that has the buffer. -/
  owner : Option ThreadId := none
  stage : ThreadId → Stage := fun _ => .idle

namespace Drivers

/-- One move of a thread, or of the host. -/
inductive Move
  | arrive (t : ThreadId) (points : List Point)
  | attach (t : ThreadId)
  | lock (t : ThreadId)
  /-- The frame is refused, or copying begins. -/
  | accept (t : ThreadId)
  | copy (t : ThreadId)
  | number (t : ThreadId)
  | enter (t : ThreadId)
  /-- The handler reads one byte of the buffer. -/
  | look (t : ThreadId) (place : Nat)
  | answer (t : ThreadId) (reply : Reply) (elapsed : Nat)
  /-- The outcome is counted, and the buffer is free again. -/
  | release (t : ThreadId)
  /-- The host begins to refuse threads, or stops to. -/
  | refuse (on : Bool)
  deriving DecidableEq, Repr

/-- What a move lets a handler see. -/
inductive Noted
  | nothing
  | called (t : ThreadId) (d : Delivery)
  | saw (t : ThreadId) (place : Nat) (byte : Option UInt8)

/-- The thread is at another stage, and has changed the relay. -/
def put (t : ThreadId) (x : Stage) (w : Relay) (p : Drivers) : Drivers :=
  { p with
    relay := w
    stage := Function.update p.stage t x }

/-- One move on the channel at place `k`, if it can be made. -/
def step? (k : Nat) (m : Move) (p : Drivers) : Option (Noted × Drivers) :=
  match m with
  | .arrive t points =>
    match p.stage t with
    | .idle => some (.nothing, p.put t (.arrived points) p.relay)
    | _ => none
  | .attach t =>
    match p.stage t with
    | .arrived points =>
      let (ticket, w) := p.relay.begin t k
      -- A thread that cannot attach gives up its frame.
      some (.nothing, p.put t (ticket.elim .idle fun a => .waiting a points) w)
    | _ => none
  | .lock t =>
    -- The lock admits one thread at a time.
    match p.stage t, p.owner with
    | .waiting a points, none => some (.nothing, { p.put t (.locked a points) p.relay with owner := some t })
    | _, _ => none
  | .accept t =>
    match p.stage t with
    | .locked a points =>
      let x := p.relay.channel k
      match x.policy.accept? x.buffer.capacity points.length with
      | some n => some (.nothing, p.put t (.copying a points [] (points.take n)) p.relay)
      | none => some (.nothing,
          { p.put t .idle (p.relay.count k Stats.noteOverflow) with owner := none })
    | _ => none
  | .copy t =>
    match p.stage t with
    | .copying a points done (q :: rest) =>
      -- One point at a time, so that others can look at the buffer in between.
      let w := p.relay.modifyChannel k (Channel.copyPoint done.length q)
      some (.nothing, p.put t (.copying a points (done ++ [q]) rest) w)
    | _ => none
  | .number t =>
    match p.stage t with
    | .copying a points done [] =>
      let x := p.relay.channel k
      let w := (p.relay.modifyChannel k (Channel.number done.length)).count k
        (Stats.noteWritten (points.length - done.length))
      let d : Delivery := ⟨x.view, x.buffer.bytes, done.length, x.nextSequence⟩
      some (.nothing, p.put t (.numbered a points d) w)
    | _ => none
  | .enter t =>
    match p.stage t with
    | .numbered a points d =>
      let (answer, w) := p.relay.enter k d
      match answer with
      | .ok () => some (.called t d, p.put t (.calling a points d) w)
      | .error e => some (.nothing, p.put t (.answered a (.error e)) w)
    | _ => none
  | .look t place =>
    -- A look does not change anything; what is seen is noted.
    match p.stage t with
    | .calling _ _ _ => some (.saw t place (p.relay.channel k).buffer.bytes.data[place]?, p)
    | _ => none
  | .answer t reply elapsed =>
    match p.stage t, reply with
    -- These threads go on after a call, so that a handler that gives up has no place here.
    | .calling _ _ _, .aborted _ => none
    | .calling a _ _, reply =>
      let w := { p.relay with now := p.relay.now + elapsed }
      some (.nothing, p.put t (.answered a (.ok ())) (w.leave a reply))
    | _, _ => none
  | .release t =>
    match p.stage t with
    | .answered a call =>
      some (.nothing, { p.put t .idle (p.relay.conclude a call) with owner := none })
    | _ => none
  | .refuse on => some (.nothing, { p with relay := p.relay.refuseThreads k on })

/-- A move that has been made. -/
structure Turn where
  before : Drivers
  move : Move
  noted : Noted

/-- Plays a schedule, if all its moves can be made. -/
def play? (k : Nat) : List Move → Drivers → Option (List Turn × Drivers)
  | [], p => some ([], p)
  | m :: ms, p =>
    match p.step? k m with
    | none => none
    | some (noted, q) =>
      (play? k ms q).map fun (turns, r) => ({ before := p, move := m, noted } :: turns, r)

/-- The number of the delivery that a move calls the handler with. -/
def Noted.number? : Noted → Option Nat
  | called _ d => some d.sequence
  | _ => none

/-- The numbers that handlers have seen, call by call. -/
def numbers (turns : List Turn) : List Nat := turns.filterMap (·.noted.number?)

/-- Numbers that have been taken for calls that are still to begin. -/
def pending (p : Drivers) : Nat := p.owner.elim 0 fun t => (p.stage t).pending

/-! ### What a move can do -/

/-- Everything that a move on the channel at place `k` can do. -/
inductive Made (k : Nat) (p : Drivers) : Move → Noted → Drivers → Prop
  | arrived (t : ThreadId) (points : List Point) (idle : p.stage t = .idle) :
      Made k p (.arrive t points) .nothing (p.put t (.arrived points) p.relay)
  | attached (t : ThreadId) (points : List Point) (arrived : p.stage t = .arrived points) :
      Made k p (.attach t) .nothing (p.put t
        ((p.relay.begin t k).1.elim .idle fun a => .waiting a points) (p.relay.begin t k).2)
  | locked (t : ThreadId) (a : Ticket) (points : List Point) (waiting : p.stage t = .waiting a points)
      (free : p.owner = none) :
      Made k p (.lock t) .nothing { p.put t (.locked a points) p.relay with owner := some t }
  | admitted (t : ThreadId) (a : Ticket) (points : List Point) (n : Nat)
      (locked : p.stage t = .locked a points)
      (room : (p.relay.channel k).policy.accept? (p.relay.channel k).buffer.capacity
        points.length = some n) :
      Made k p (.accept t) .nothing (p.put t (.copying a points [] (points.take n)) p.relay)
  | refused (t : ThreadId) (a : Ticket) (points : List Point) (locked : p.stage t = .locked a points)
      (full : (p.relay.channel k).policy.accept? (p.relay.channel k).buffer.capacity
        points.length = none) :
      Made k p (.accept t) .nothing
        { p.put t .idle (p.relay.count k Stats.noteOverflow) with owner := none }
  | copied (t : ThreadId) (a : Ticket) (points done : List Point) (q : Point) (rest : List Point)
      (copying : p.stage t = .copying a points done (q :: rest)) :
      Made k p (.copy t) .nothing
        (p.put t (.copying a points (done ++ [q]) rest)
          (p.relay.modifyChannel k (Channel.copyPoint done.length q)))
  | numbered (t : ThreadId) (a : Ticket) (points done : List Point)
      (copying : p.stage t = .copying a points done []) :
      Made k p (.number t) .nothing
        (p.put t
          (.numbered a points ⟨(p.relay.channel k).view, (p.relay.channel k).buffer.bytes,
            done.length, (p.relay.channel k).nextSequence⟩)
          ((p.relay.modifyChannel k (Channel.number done.length)).count k
            (Stats.noteWritten (points.length - done.length))))
  | entered (t : ThreadId) (a : Ticket) (points : List Point) (d : Delivery)
      (numbered : p.stage t = .numbered a points d) (ok : (p.relay.enter k d).1 = .ok ()) :
      Made k p (.enter t) (.called t d)
        (p.put t (.calling a points d) (p.relay.enter k d).2)
  | unheard (t : ThreadId) (a : Ticket) (points : List Point) (d : Delivery) (e : HostError)
      (numbered : p.stage t = .numbered a points d) (error : (p.relay.enter k d).1 = .error e) :
      Made k p (.enter t) .nothing
        (p.put t (.answered a (.error e)) (p.relay.enter k d).2)
  | looked (t : ThreadId) (place : Nat) (a : Ticket) (points : List Point) (d : Delivery)
      (calling : p.stage t = .calling a points d) :
      Made k p (.look t place) (.saw t place (p.relay.channel k).buffer.bytes.data[place]?) p
  | answered (t : ThreadId) (reply : Reply) (elapsed : Nat) (a : Ticket) (points : List Point)
      (d : Delivery) (calling : p.stage t = .calling a points d) :
      Made k p (.answer t reply elapsed) .nothing
        (p.put t (.answered a (.ok ()))
          (Relay.leave a reply { p.relay with now := p.relay.now + elapsed }))
  | released (t : ThreadId) (a : Ticket) (call : Except HostError Unit)
      (answered : p.stage t = .answered a call) :
      Made k p (.release t) .nothing
        { p.put t .idle (p.relay.conclude a call) with owner := none }
  | refusing (on : Bool) :
      Made k p (.refuse on) .nothing
        { p with relay := p.relay.refuseThreads k on }

/-- **What a step can do**, with the guards of each kind. -/
theorem Made.of_step? {k : Nat} {p q : Drivers} {m : Move} {noted : Noted}
    (h : p.step? k m = some (noted, q)) : Made k p m noted q := by
  -- A move is possible at one stage only, and the cases follow the constructors.
  cases m with
  | arrive t points =>
    unfold step? at h
    cases hstage : p.stage t with
    | idle =>
      simp only [hstage, Option.some.injEq, Prod.mk.injEq] at h
      obtain ⟨rfl, rfl⟩ := h
      exact .arrived t points hstage
    | _ => simp [hstage] at h
  | attach t =>
    unfold step? at h
    cases hstage : p.stage t with
    | arrived points =>
      simp only [hstage, Option.some.injEq, Prod.mk.injEq] at h
      obtain ⟨rfl, rfl⟩ := h
      exact .attached t points hstage
    | _ => simp [hstage] at h
  | lock t =>
    unfold step? at h
    cases hstage : p.stage t with
    | waiting a points =>
      cases howner : p.owner with
      | none =>
        simp only [hstage, howner, Option.some.injEq, Prod.mk.injEq] at h
        obtain ⟨rfl, rfl⟩ := h
        exact .locked t a points hstage howner
      | some u => simp [hstage, howner] at h
    | _ => simp [hstage] at h
  | accept t =>
    unfold step? at h
    cases hstage : p.stage t with
    | locked a points =>
      cases hroom : (p.relay.channel k).policy.accept? (p.relay.channel k).buffer.capacity
          points.length with
      | none =>
        simp only [hstage, hroom, Option.some.injEq, Prod.mk.injEq] at h
        obtain ⟨rfl, rfl⟩ := h
        exact .refused t a points hstage hroom
      | some n =>
        simp only [hstage, hroom, Option.some.injEq, Prod.mk.injEq] at h
        obtain ⟨rfl, rfl⟩ := h
        exact .admitted t a points n hstage hroom
    | _ => simp [hstage] at h
  | copy t =>
    unfold step? at h
    cases hstage : p.stage t with
    | copying a points done rest =>
      cases rest with
      | nil => simp [hstage] at h
      | cons q' rest =>
        simp only [hstage, Option.some.injEq, Prod.mk.injEq] at h
        obtain ⟨rfl, rfl⟩ := h
        exact .copied t a points done q' rest hstage
    | _ => simp [hstage] at h
  | number t =>
    unfold step? at h
    cases hstage : p.stage t with
    | copying a points done rest =>
      cases rest with
      | nil =>
        simp only [hstage, Option.some.injEq, Prod.mk.injEq] at h
        obtain ⟨rfl, rfl⟩ := h
        exact .numbered t a points done hstage
      | cons q' rest => simp [hstage] at h
    | _ => simp [hstage] at h
  | enter t =>
    unfold step? at h
    cases hstage : p.stage t with
    | numbered a points d =>
      cases henter : (p.relay.enter k d).1 with
      | ok _ =>
        simp only [hstage, henter, Option.some.injEq, Prod.mk.injEq] at h
        obtain ⟨rfl, rfl⟩ := h
        exact .entered t a points d hstage henter
      | error e =>
        simp only [hstage, henter, Option.some.injEq, Prod.mk.injEq] at h
        obtain ⟨rfl, rfl⟩ := h
        exact .unheard t a points d e hstage henter
    | _ => simp [hstage] at h
  | look t place =>
    unfold step? at h
    cases hstage : p.stage t with
    | calling a points d =>
      simp only [hstage, Option.some.injEq, Prod.mk.injEq] at h
      obtain ⟨rfl, rfl⟩ := h
      exact .looked t place a points d hstage
    | _ => simp [hstage] at h
  | answer t reply elapsed =>
    unfold step? at h
    cases hstage : p.stage t with
    | calling a points d =>
      cases reply with
      | aborted reason => simp [hstage] at h
      | accepted | failed text =>
        simp only [hstage, Option.some.injEq, Prod.mk.injEq] at h
        obtain ⟨rfl, rfl⟩ := h
        exact .answered t _ elapsed a points d hstage
    | _ => simp [hstage] at h
  | release t =>
    unfold step? at h
    cases hstage : p.stage t with
    | answered a call =>
      simp only [hstage, Option.some.injEq, Prod.mk.injEq] at h
      obtain ⟨rfl, rfl⟩ := h
      exact .released t a call hstage
    | _ => simp [hstage] at h
  | refuse on =>
    unfold step? at h
    obtain ⟨rfl, rfl⟩ := Prod.mk.inj (Option.some.inj h)
    exact .refusing on

/-! ### Between two moves -/

/-- The buffer of the channel shows the frame as the delivery does. -/
structure Untorn (x : Channel) (s : Session) (points : List Point) (d : Delivery) : Prop where
  view : d.view = x.view
  data : d.data = x.buffer.bytes
  carries : FrameBuffer.Carries x.buffer.words (points.take d.pointCount)
  shows : d.Shows s points

/-- What a thread at a stage can rely on. -/
def Relies (x : Channel) (s : Session) : Stage → Prop
  | .copying _ points done rest =>
    ∃ n, x.policy.accept? x.buffer.capacity points.length = some n ∧
      points.take n = done ++ rest ∧ FrameBuffer.Carries x.buffer.words done
  | .numbered _ points d => Untorn x s points d ∧ d.sequence + 1 = x.nextSequence
  | .calling _ points d => Untorn x s points d
  | _ => True

/-- A thread that is not at the buffer relies on nothing. -/
theorem relies_of_outside {a : Stage} (h : a.inside = false) (x : Channel) (s : Session) :
    Relies x s a := by
  cases a with
  | idle | arrived _ | waiting _ _ => trivial
  | _ => exact absurd h (by simp [Stage.inside])

/-- A point is copied: there is room for it, since it is one of those that have been admitted. -/
theorem relies_copyPoint {x : Channel} {s : Session} {a : Ticket} {points done rest : List Point}
    {c : Point} (h : Relies x s (.copying a points done (c :: rest))) :
    Relies (x.copyPoint done.length c) s (.copying a points (done ++ [c]) rest) := by
  obtain ⟨n, room, hsplit, hcarries⟩ := h
  have hcapacity := x.capacity_copyPoint done.length c
  refine ⟨n, ?_, ?_, FrameBuffer.carries_setPoint hcarries ?_⟩
  · rw [hcapacity]
    exact room
  · rw [hsplit, List.append_assoc, List.singleton_append]
  · have hn := (OverflowPolicy.of_accept? room).1
    have hlength := congrArg List.length hsplit
    rw [List.length_take, List.length_append, List.length_cons] at hlength
    refine Nat.le_trans (Nat.mul_le_mul_left _ ?_)
      (Nat.mul_div_le x.buffer.words.size Sensor.floatsPerPoint)
    show _ ≤ x.buffer.capacity
    omega

/-- The whole frame has been copied, and gets its number. -/
theorem relies_number {x : Channel} {s : Session} {a : Ticket} {points done : List Point}
    (hfits : x.wiring.Fits s) (h : Relies x s (.copying a points done [])) :
    Relies (x.number done.length) s
      (.numbered a points ⟨x.view, x.buffer.bytes, done.length, x.nextSequence⟩) := by
  obtain ⟨n, room, hsplit, hcarries⟩ := h
  rw [List.append_nil] at hsplit
  have hcount : done.length = n := by
    have hn := (OverflowPolicy.of_accept? room).1
    rw [← hsplit, List.length_take]
    omega
  rw [← hcount] at room hsplit
  rw [← hsplit] at hcarries
  exact ⟨⟨rfl, rfl, hcarries, shows_of_carries hfits room hcarries x.nextSequence⟩, rfl⟩

/-- What holds between any two moves, once handlers have been called `calls` times. -/
structure Sound (k : Nat) (s : Session) (calls : Nat) (p : Drivers) : Prop where
  present : k < p.relay.channels.length
  fits : (p.relay.channel k).wiring.Fits s
  visible : p.relay.visible k = true
  /-- Only the thread that has the buffer is where it needs it. -/
  owned : ∀ t, (p.stage t).inside = true → p.owner = some t
  relies : ∀ t, Relies (p.relay.channel k) s (p.stage t)
  next : (p.relay.channel k).nextSequence = calls + p.pending

/-- The numbers taken are those of the owner. -/
theorem pending_of_owner {p : Drivers} {t : ThreadId} (h : p.owner = some t) :
    p.pending = (p.stage t).pending := by
  unfold pending
  rw [h]
  rfl

/-- A thread goes on that has taken no number. -/
theorem pending_put {p : Drivers} {t : ThreadId} {x : Stage} {w : Relay}
    (h : x.pending = (p.stage t).pending) : (p.put t x w).pending = p.pending := by
  unfold pending put
  cases p.owner with
  | none => rfl
  | some u =>
    by_cases hu : u = t
    · subst hu
      simpa using h
    · simp [Function.update_of_ne hu]

namespace Sound

variable {k calls : Nat} {s : Session} {p q : Drivers} {m : Move} {noted : Noted}

/-- What all moves of a thread have in common: the relay stands as before, and whoever else has the
    buffer keeps it and finds the channel as it was. -/
theorem move {calls' : Nat} {t : ThreadId} {x : Stage} {w : Relay} (h : Sound k s calls p)
    (owner : Option ThreadId) (hstanding : w.standing [] = p.relay.standing [])
    (hothers : ∀ u, u ≠ t → p.owner = some u →
      owner = some u ∧ w.channel k = p.relay.channel k)
    (hinside : x.inside = true → owner = some t) (hrelies : Relies (w.channel k) s x)
    (hnext : (w.channel k).nextSequence =
      calls' + ({ p.put t x w with owner := owner } : Drivers).pending) :
    Sound k s calls' { p.put t x w with owner := owner } where
  present := by
    show k < w.channels.length
    rw [Relay.length_channels_of_standing hstanding]
    exact h.present
  fits := by
    show (w.channel k).wiring.Fits s
    rw [Relay.wiring_of_standing hstanding]
    exact h.fits
  visible := (Relay.visible_of_standing hstanding k).trans h.visible
  owned := by
    intro u hu
    by_cases hut : u = t
    · subst hut
      exact hinside (by simpa [put] using hu)
    · have hu' : (p.stage u).inside = true := by simpa [put, Function.update_of_ne hut] using hu
      exact (hothers u hut (h.owned u hu')).1
  relies := by
    intro u
    by_cases hut : u = t
    · subst hut
      simpa [put] using hrelies
    · show Relies (w.channel k) s (Function.update p.stage t x u)
      rw [Function.update_of_ne hut]
      -- Another thread relies on something only if it has the buffer, and then nothing changes.
      cases hu : (p.stage u).inside with
      | false => exact relies_of_outside hu _ _
      | true =>
        rw [(hothers u hut (h.owned u hu)).2]
        exact h.relies u
  next := hnext

/-- A move that is made with the buffer. -/
theorem ownMove {calls' : Nat} {t : ThreadId} {x : Stage} {w : Relay} (h : Sound k s calls p)
    (hinside : (p.stage t).inside = true) (hstanding : w.standing [] = p.relay.standing [])
    (hrelies : Relies (w.channel k) s x)
    (hnext : (w.channel k).nextSequence = calls' + x.pending) :
    Sound k s calls' (p.put t x w) := by
  have howner := h.owned t hinside
  refine h.move p.owner hstanding ?_ (fun _ => howner) hrelies ?_
  · intro u hut hu
    exact absurd (Option.some.inj (hu.symm.trans howner)) hut
  · have hpending := pending_of_owner (p := p.put t x w) howner
    rw [hnext]
    simpa [put] using hpending.symm

/-- A thread that has the buffer gives it back. -/
theorem freeMove {t : ThreadId} {w : Relay} (h : Sound k s calls p)
    (hinside : (p.stage t).inside = true) (hpending : (p.stage t).pending = 0)
    (hstanding : w.standing [] = p.relay.standing []) (hchannels : w.channels = p.relay.channels) :
    Sound k s calls { p.put t .idle w with owner := none } := by
  have howner := h.owned t hinside
  have hnext := h.next
  rw [pending_of_owner howner, hpending] at hnext
  refine h.move none hstanding ?_ (fun hidle => absurd hidle (by simp [Stage.inside])) trivial ?_
  · intro u hut hu
    exact absurd (Option.some.inj (hu.symm.trans howner)) hut
  · rw [Relay.channel_of_channels hchannels]
    exact hnext

/-- A move of a thread that does not need the buffer. -/
theorem outerMove {t : ThreadId} {x : Stage} {w : Relay} (h : Sound k s calls p)
    (hinside : x.inside = false) (hpending : x.pending = (p.stage t).pending)
    (hstanding : w.standing [] = p.relay.standing []) (hchannels : w.channels = p.relay.channels) :
    Sound k s calls (p.put t x w) := by
  have hchannel := Relay.channel_of_channels hchannels k
  refine h.move p.owner hstanding (fun u _ hu => ⟨hu, hchannel⟩) ?_
    (relies_of_outside hinside _ _) ?_
  · intro hx
    exact absurd (hinside.symm.trans hx) (by simp)
  · rw [hchannel, h.next]
    exact congrArg (calls + ·) (pending_put hpending).symm

/-- The handler can always be called, since the host sees the buffer. -/
theorem enter_ok (h : Sound k s calls p) {d : Delivery}
    (hview : d.view = (p.relay.channel k).view) : (p.relay.enter k d).1 = .ok () := by
  have hvisible := h.visible
  unfold Relay.visible at hvisible
  rw [← hview] at hvisible
  rcases Relay.books_enter p.relay k d with ⟨hhidden, -⟩ | ⟨-, hok, -⟩
  · exact absurd (hhidden.symm.trans hvisible) (by simp)
  · exact hok

/-- What is known at a stage that needs the buffer. -/
theorem of_inside (h : Sound k s calls p) {t : ThreadId} {x : Stage} (hstage : p.stage t = x)
    (hinside : x.inside = true) :
    (p.stage t).inside = true ∧ Relies (p.relay.channel k) s x ∧
      (p.relay.channel k).nextSequence = calls + x.pending := by
  subst hstage
  exact ⟨hinside, h.relies t, pending_of_owner (h.owned t hinside) ▸ h.next⟩

/-- **One move.**  It calls the handler with the next number, or does not call it. -/
theorem made (h : Sound k s calls p) (hmade : Made k p m noted q) :
    noted.number? = none ∧ Sound k s calls q ∨
      noted.number? = some calls ∧ Sound k s (calls + 1) q := by
  cases hmade with
  | arrived t points idle =>
    refine .inl ⟨rfl, h.outerMove rfl ?_ rfl rfl⟩
    rw [idle]
    rfl
  | attached t points arrived =>
    refine .inl ⟨rfl, h.outerMove ?_ ?_ (Relay.standing_begin [] _ t k)
      (Relay.channels_begin t k _)⟩
    · cases (p.relay.begin t k).1 <;> rfl
    · rw [arrived]
      cases (p.relay.begin t k).1 <;> rfl
  | locked t a points waiting free =>
    refine .inl ⟨rfl, h.move (some t) rfl ?_ (fun _ => rfl) trivial ?_⟩
    · intro u _ hu
      exact absurd (free.symm.trans hu) (by simp)
    · have hnext := h.next
      unfold pending at hnext ⊢
      rw [free] at hnext
      simpa [put, Stage.pending] using hnext
  | admitted t a points n locked room =>
    obtain ⟨hinside, -, hnext⟩ := h.of_inside locked rfl
    exact .inl ⟨rfl, h.ownMove hinside rfl ⟨n, room, rfl, FrameBuffer.carries_nil _⟩ hnext⟩
  | refused t a points locked full =>
    obtain ⟨hinside, -, -⟩ := h.of_inside locked rfl
    refine .inl ⟨rfl, h.freeMove hinside ?_ (Relay.standing_count [] _ k _) rfl⟩
    rw [locked]
    rfl
  | copied t a points done c rest copying =>
    obtain ⟨hinside, hrelies, hnext⟩ := h.of_inside copying rfl
    have hchannel := Relay.channel_modifyChannel k (Channel.copyPoint done.length c) _ h.present
    have hstanding := Relay.standing_modifyChannel [] p.relay k
      (f := Channel.copyPoint done.length c) fun x _ => x.wiring_copyPoint done.length c
    refine .inl ⟨rfl, h.ownMove hinside hstanding ?_ ?_⟩
    · rw [hchannel]
      exact relies_copyPoint hrelies
    · rw [hchannel, Channel.nextSequence_copyPoint]
      exact hnext
  | numbered t a points done copying =>
    obtain ⟨hinside, hrelies, hnext⟩ := h.of_inside copying rfl
    have hstanding : ((p.relay.modifyChannel k (Channel.number done.length)).count k
        (Stats.noteWritten (points.length - done.length))).standing [] = p.relay.standing [] :=
      (Relay.standing_count [] _ k _).trans
        (Relay.standing_modifyChannel [] _ k fun x _ => x.wiring_number done.length)
    have hchannel : ((p.relay.modifyChannel k (Channel.number done.length)).count k
        (Stats.noteWritten (points.length - done.length))).channel k =
          Channel.number done.length (p.relay.channel k) :=
      Relay.channel_modifyChannel k _ _ h.present
    refine .inl ⟨rfl, h.ownMove hinside hstanding ?_ ?_⟩
    · rw [hchannel]
      exact relies_number h.fits hrelies
    · rw [hchannel, Channel.nextSequence_number]
      exact congrArg (· + 1) hnext
  | entered t a points d numbered ok =>
    obtain ⟨hinside, ⟨huntorn, hsequence⟩, hnext⟩ := h.of_inside numbered rfl
    have hchannel := Relay.channel_of_channels (Relay.channels_enter k d p.relay) k
    refine .inr ⟨?_, h.ownMove hinside (Relay.standing_enter [] _ k d) ?_ ?_⟩
    · exact congrArg some (Nat.succ.inj (hsequence.trans hnext))
    · rw [hchannel]
      exact huntorn
    · rw [hchannel]
      exact hnext
  | unheard t a points d e numbered error =>
    -- The host sees the buffer, so the call is made.
    obtain ⟨-, ⟨huntorn, -⟩, -⟩ := h.of_inside numbered rfl
    exact absurd ((h.enter_ok huntorn.view).symm.trans error) (by simp)
  | looked t place a points d calling => exact .inl ⟨rfl, h⟩
  | answered t reply elapsed a points d calling =>
    obtain ⟨hinside, -, hnext⟩ := h.of_inside calling rfl
    refine .inl ⟨rfl, h.ownMove hinside ?_ trivial hnext⟩
    exact (Relay.standing_leave [] _ a reply).trans rfl
  | released t a call answered =>
    obtain ⟨hinside, -, -⟩ := h.of_inside answered rfl
    refine .inl ⟨rfl, h.freeMove hinside ?_ (Relay.standing_conclude [] _ a call)
      (Relay.channels_conclude a call _)⟩
    rw [answered]
    rfl
  | refusing on =>
    have hstanding : (p.relay.refuseThreads k on).standing [] = p.relay.standing [] :=
      Relay.standing_modifyRuntime [] _ _ fun _ _ => rfl
    refine .inl ⟨rfl, h.present, h.fits, ?_, h.owned, h.relies, h.next⟩
    exact (Relay.visible_of_standing hstanding k).trans h.visible

/-- Whatever a handler reads is what it was called with. -/
theorem saw (h : Sound k s calls p) {t : ThreadId} {place : Nat} {byte : Option UInt8}
    (hmade : Made k p m (.saw t place byte) q) :
    ∃ a points d, p.stage t = .calling a points d ∧ byte = d.data.data[place]? := by
  cases hmade with
  | looked t place a points d calling =>
    obtain ⟨-, huntorn, -⟩ := h.of_inside calling rfl
    refine ⟨a, points, d, calling, ?_⟩
    rw [Untorn.data huntorn]

/-- **A whole schedule**, by induction on its moves. -/
theorem play {moves : List Move} {turns : List Turn} (h : Sound k s calls p)
    (hplay : p.play? k moves = some (turns, q)) :
    Sound k s (calls + (numbers turns).length) q ∧
      numbers turns = List.range' calls (numbers turns).length ∧
      ∀ u ∈ turns, ∀ t place byte, u.noted = .saw t place byte →
        ∃ a points d, u.before.stage t = .calling a points d ∧ byte = d.data.data[place]? := by
  induction moves generalizing p calls turns with
  | nil =>
    obtain ⟨rfl, rfl⟩ := Prod.mk.inj (Option.some.inj hplay)
    exact ⟨h, rfl, by simp⟩
  | cons m moves ih =>
    unfold play? at hplay
    cases hstep : p.step? k m with
    | none => simp [hstep] at hplay
    | some result =>
      obtain ⟨noted, v⟩ := result
      simp only [hstep] at hplay
      obtain ⟨⟨rest, q'⟩, hrest, heq⟩ := Option.map_eq_some_iff.mp hplay
      obtain ⟨rfl, rfl⟩ := Prod.mk.inj heq
      have hmade := Made.of_step? hstep
      -- Whatever the first step was, the invariant holds after it, and the rest is a schedule
      -- again.
      have hsaw : ∀ u ∈ rest, ∀ t place byte, u.noted = .saw t place byte →
          ∃ a points d, u.before.stage t = .calling a points d ∧ byte = d.data.data[place]? := by
        rcases h.made hmade with ⟨-, hv⟩ | ⟨-, hv⟩ <;> exact (ih hv hrest).2.2
      have hread : ∀ u ∈ ({ before := p, move := m, noted } :: rest : List Turn),
          ∀ t place byte, u.noted = .saw t place byte →
            ∃ a points d, u.before.stage t = .calling a points d ∧
              byte = d.data.data[place]? := by
        intro u hu t place byte hbyte
        rcases List.mem_cons.mp hu with rfl | hu
        · dsimp only at hbyte
          subst hbyte
          exact h.saw hmade
        · exact hsaw u hu t place byte hbyte
      -- A step numbers a frame or none; the numbers go on from what has been called so far.
      rcases h.made hmade with ⟨hnone, hv⟩ | ⟨hsome, hv⟩
      · obtain ⟨hq, hnumbers, -⟩ := ih hv hrest
        have hsame : numbers ({ before := p, move := m, noted } :: rest) = numbers rest :=
          List.filterMap_cons_none hnone
        rw [hsame]
        exact ⟨hq, hnumbers, hread⟩
      · obtain ⟨hq, hnumbers, -⟩ := ih hv hrest
        have hmore : numbers ({ before := p, move := m, noted } :: rest) = calls :: numbers rest :=
          List.filterMap_cons_some hsome
        rw [hmore, List.length_cons, List.range'_succ, ← hnumbers]
        refine ⟨?_, rfl, hread⟩
        rw [← Nat.add_assoc, Nat.add_right_comm]
        exact hq

/-- At most one thread is in a call, since the buffer has one owner. -/
theorem one_call (h : Sound k s calls p) {t u : ThreadId} (ht : (p.stage t).inCall = true)
    (hu : (p.stage u).inCall = true) : t = u := by
  have howner {t : ThreadId} (ht : (p.stage t).inCall = true) : p.owner = some t := by
    refine h.owned t ?_
    cases hstage : p.stage t with
    | calling a points d => rfl
    | _ => rw [hstage] at ht; exact absurd ht (by simp [Stage.inCall])
  exact Option.some.inj ((howner ht).symm.trans (howner hu))

/-- A channel that has just been made, with nobody on it. -/
theorem opened {w v : Relay} {i address : Nat} {d : Descriptor} {key : UInt32}
    (hs : w.sessions[i]? = some s) (hhosted : s.runtime < w.runtimes.length)
    (hopen : w.openSession d key address i = (.ok (), v)) :
    Sound w.channels.length s 0 { relay := v } := by
  have hsession := Relay.session_eq hs
  have hopening := Relay.openSession_cases d key address i w
  rw [hopen] at hopening
  dsimp only at hopening
  cases hopening with
  | done q c rate b r target found closed idle rated room exposed =>
    rw [hsession] at room exposed
    have hchannel : (w.opened i q c rate b r).channel w.channels.length = w.newChannel i b := by
      simp [Relay.channel, Relay.opened, List.getD_eq_getElem?_getD]
    have hfits : (w.newChannel i b).wiring.Fits s := fits_newChannel hs room
    have hruntime : (w.opened i q c rate b r).runtime s.runtime = r := by
      simp [Relay.runtime, Relay.opened, List.getD_eq_getElem?_getD, hsession, hhosted]
    -- The new channel fits the session, its buffer can be seen, and nobody is at it.
    constructor
    · show _ < (w.channels ++ [_]).length
      simp
    · rw [hchannel]
      exact hfits
    · have hseen : b.view ∈ r.exposed := by
        rw [Runtime.exposed_expose exposed]
        exact self_mem_exposing _ _
      have hbinding : (w.newChannel i b).binding.runtime = s.runtime := hfits.runtime
      unfold Relay.visible
      rw [hchannel, hbinding, hruntime]
      show r.exposed.contains b.view = true
      simpa using hseen
    · exact fun t ht => absurd ht (by simp [Stage.inside])
    · exact fun t => trivial
    · rw [hchannel]
      rfl

end Sound

/-! ### A thread that nobody interrupts -/

/-- Some moves lead from one state to the other. -/
def Leads (k : Nat) (p q : Drivers) : Prop := ∃ moves turns, p.play? k moves = some (turns, q)

theorem Leads.refl (k : Nat) (p : Drivers) : Leads k p p := ⟨[], [], rfl⟩

/-- One step more in front. -/
theorem Leads.step {k : Nat} {p q r : Drivers} (m : Move) {noted : Noted}
    (hstep : p.step? k m = some (noted, q)) (h : Leads k q r) : Leads k p r := by
  obtain ⟨moves, turns, hplay⟩ := h
  refine ⟨m :: moves, ⟨p, m, noted⟩ :: turns, ?_⟩
  simp only [play?, hstep, hplay, Option.map_some]

@[simp] theorem stage_put (t : ThreadId) (x : Stage) (w : Relay) (p : Drivers) :
    (p.put t x w).stage t = x := Function.update_self ..

@[simp] theorem relay_put (t : ThreadId) (x : Stage) (w : Relay) (p : Drivers) :
    (p.put t x w).relay = w := rfl

@[simp] theorem owner_put (t : ThreadId) (x : Stage) (w : Relay) (p : Drivers) :
    (p.put t x w).owner = p.owner := rfl

@[simp] theorem put_put (t : ThreadId) (x y : Stage) (v w : Relay) (p : Drivers) :
    (p.put t x v).put t y w = p.put t y w := by
  simp [put]

/-- Nothing changes if a thread is put where it is. -/
theorem put_self {t : ThreadId} {x : Stage} {p : Drivers} (h : p.stage t = x) (w : Relay) :
    p.put t x w = { p with relay := w } := by
  rw [← h]
  simp [put]

/-- The points that are left, one by one. -/
theorem leads_copied {k : Nat} {t : ThreadId} {a : Ticket} {points done rest : List Point}
    {p q : Drivers} (hstage : p.stage t = .copying a points done rest)
    (h : Leads k (p.put t (.copying a points (done ++ rest) [])
      (p.relay.modifyChannel k (Channel.copyPoints done.length rest))) q) : Leads k p q := by
  induction rest generalizing p done with
  | nil =>
    have hnone : p.relay.modifyChannel k (Channel.copyPoints done.length []) = p.relay := by
      show { p.relay with channels := p.relay.channels.modify k fun x => x } = p.relay
      rw [show (fun x : Channel => x) = id from rfl, List.modify_id]
    rw [List.append_nil, hnone, put_self hstage] at h
    exact h
  | cons c rest ih =>
    have hstep : p.step? k (.copy t) = some (.nothing,
        p.put t (.copying a points (done ++ [c]) rest)
          (p.relay.modifyChannel k (Channel.copyPoint done.length c))) := by
      simp only [step?, hstage]
    refine .step _ hstep (ih (stage_put ..) ?_)
    rw [put_put, relay_put, List.append_assoc, List.singleton_append, List.length_append]
    have hfuse : (p.relay.modifyChannel k (Channel.copyPoint done.length c)).modifyChannel k
        (Channel.copyPoints (done.length + [c].length) rest) =
          p.relay.modifyChannel k (Channel.copyPoints done.length (c :: rest)) := by
      simp only [Relay.modifyChannel, List.modify_modify_eq]
      rfl
    rw [hfuse]
    exact h

/-- All steps of publishing are what `Channel.publish` does at once. -/
theorem publish_eq (x : Channel) (points : List Point) :
    x.publish points =
      match x.policy.accept? x.buffer.capacity points.length with
      | none => .error (.bufferOverflow points.length x.buffer.capacity)
      | some n =>
        let y := x.copyPoints 0 (points.take n)
        .ok (⟨y.view, y.buffer.bytes, n, y.nextSequence⟩, ⟨n, points.length - n⟩, y.number n) := by
  have hcopied (i : Nat) (ps : List Point) (x : Channel) :
      x.copyPoints i ps =
        { x with buffer :=
          { x.buffer with words := FrameBuffer.setPoints x.buffer.words i ps } } := by
    induction ps generalizing i x with
    | nil => rfl
    | cons p ps ih =>
      unfold Channel.copyPoints
      rw [ih]
      rfl
  unfold Channel.publish FrameBuffer.write
  cases x.policy.accept? x.buffer.capacity points.length with
  | none => rfl
  | some n =>
    dsimp only
    rw [hcopied]
    simp [Channel.number, Channel.view, FrameBuffer.view, Array.isEmpty]
    rfl

section

variable {σ : Type} {k : Nat} {t : ThreadId} {points : List Point} {p q : Drivers}

/-- A call of the handler, from its beginning until the buffer is given back. -/
theorem leads_handled {a : Ticket} {h : Handler σ} (host : σ) (hreturns : h.Returns)
    (ha : a.channel = k) (d : Delivery) (v : Relay) (p : Drivers) :
    Leads k (p.put t (.numbered a points d) v)
      { p.put t .idle (Live.handle h a d ⟨v, host⟩).2.relay with owner := none } := by
  unfold Live.handle
  rw [ha]
  cases henter : v.enter k d with
  | mk answer w =>
    cases answer with
    -- Nobody sees the buffer: the call fails and the lock is given back.
    | error e =>
      have hstep : (p.put t (.numbered a points d) v).step? k (.enter t) =
          some (.nothing, p.put t (.answered a (.error e)) w) := by
        simp only [step?, stage_put, relay_put, put_put, henter]
      refine .step _ hstep ?_
      have hrelease : (p.put t (.answered a (.error e)) w).step? k (.release t) =
          some (.nothing, { p.put t .idle (w.conclude a (.error e)) with owner := none }) := by
        simp only [step?, stage_put, relay_put, put_put]
      exact .step _ hrelease (.refl k _)
    | ok u =>
      have hstep : (p.put t (.numbered a points d) v).step? k (.enter t) =
          some (.called t d, p.put t (.calling a points d) w) := by
        simp only [step?, stage_put, relay_put, put_put, henter]
      refine .step _ hstep ?_
      have hreply := hreturns (w.channel k).binding.runtime d host
      dsimp only
      -- The handler answers, so that three more steps end the delivery.
      generalize h (w.channel k).binding.runtime d host = answer at hreply ⊢
      obtain ⟨reply, host', elapsed⟩ := answer
      dsimp only at hreply ⊢
      have hanswer : (p.put t (.calling a points d) w).step? k (.answer t reply elapsed) =
          some (.nothing, p.put t (.answered a (.ok ()))
            (Relay.leave a reply { w with now := w.now + elapsed })) := by
        cases reply with
        | aborted reason => exact absurd rfl (hreply reason)
        | accepted | failed text => simp only [step?, stage_put, relay_put, put_put]
      refine .step _ hanswer ?_
      have hrelease : (p.put t (.answered a (.ok ()))
          (Relay.leave a reply { w with now := w.now + elapsed })).step? k (.release t) =
            some (.nothing, { p.put t .idle
              ((Relay.leave a reply { w with now := w.now + elapsed }).conclude a (.ok ())) with
                owner := none }) := by
        simp only [step?, stage_put, relay_put, put_put]
      refine .step _ hrelease ?_
      cases reply with
      | aborted reason => exact absurd rfl (hreply reason)
      | accepted | failed text => exact .refl k _

variable (points) in
/-- A frame from its admission until the buffer is given back. -/
theorem leads_locked {a : Ticket} {h : Handler σ} (host : σ) (hreturns : h.Returns)
    (ha : a.channel = k) {v : Relay} (hk : k < v.channels.length) (p : Drivers) :
    Leads k (p.put t (.locked a points) v)
      { p.put t .idle (match v.publish k points with
        | (none, w) => w
        | (some d, w) => (Live.handle h a d ⟨w, host⟩).2.relay) with owner := none } := by
  unfold Relay.publish
  rw [publish_eq]
  cases hroom : (v.channel k).policy.accept? (v.channel k).buffer.capacity points.length with
  | none =>
    have hrefused : (p.put t (.locked a points) v).step? k (.accept t) = some (.nothing,
        { p.put t .idle (v.count k Stats.noteOverflow) with owner := none }) := by
      simp only [step?, stage_put, relay_put, put_put, hroom]
    exact .step _ hrefused (.refl k _)
  | some n =>
    have hadmitted : (p.put t (.locked a points) v).step? k (.accept t) =
        some (.nothing, p.put t (.copying a points [] (points.take n)) v) := by
      simp only [step?, stage_put, relay_put, put_put, hroom]
    refine .step _ hadmitted (leads_copied (stage_put ..) ?_)
    rw [put_put, relay_put, List.nil_append, List.length_nil]
    dsimp only
    have hn : (points.take n).length = n := by
      have hcount := (OverflowPolicy.of_accept? hroom).1
      rw [List.length_take]
      omega
    generalize points.take n = front at hn ⊢
    subst hn
    -- Copying and numbering are one change of the channel.
    have hcopied := Relay.channel_modifyChannel k (Channel.copyPoints 0 front) v hk
    have hfuse : (v.modifyChannel k (Channel.copyPoints 0 front)).modifyChannel k
        (Channel.number front.length) = v.modifyChannel k fun _ =>
          ((v.channel k).copyPoints 0 front).number front.length := by
      simp only [Relay.modifyChannel, List.modify_modify_eq]
      have hx := List.getElem?_eq_getElem hk
      rw [modify_of_getElem? _ hx, modify_of_getElem? _ hx, Relay.channel_eq hx]
      rfl
    have hnumbered : (p.put t (.copying a points front [])
        (v.modifyChannel k (Channel.copyPoints 0 front))).step? k (.number t) =
          some (.nothing, p.put t (.numbered a points
            ⟨((v.channel k).copyPoints 0 front).view,
              ((v.channel k).copyPoints 0 front).buffer.bytes, front.length,
              ((v.channel k).copyPoints 0 front).nextSequence⟩)
            ((v.modifyChannel k fun _ =>
              ((v.channel k).copyPoints 0 front).number front.length).count k
                (Stats.noteWritten (points.length - front.length)))) := by
      simp only [step?, stage_put, relay_put, put_put, hcopied, hfuse]
    exact .step _ hnumbered (leads_handled host hreturns ha _ _ p)

/-- **A thread that nobody interrupts delivers its frame** as `Live.deliver` does. -/
theorem deliver_uninterrupted {h : Handler σ} (host : σ) (hreturns : h.Returns)
    (hk : k < p.relay.channels.length) (hidle : p.stage t = .idle) (hfree : p.owner = none)
    (points : List Point) :
    Leads k p { p with relay := (Live.deliver h t k points ⟨p.relay, host⟩).2.relay } := by
  -- The thread arrives, attaches and takes the lock; `leads_locked` does the rest.
  have harrive : p.step? k (.arrive t points) =
      some (.nothing, p.put t (.arrived points) p.relay) := by
    simp only [step?, hidle]
  refine .step _ harrive ?_
  have hattach : (p.put t (.arrived points) p.relay).step? k (.attach t) =
      some (.nothing, p.put t ((p.relay.begin t k).1.elim .idle fun a => .waiting a points)
        (p.relay.begin t k).2) := by
    simp only [step?, stage_put, relay_put, put_put]
  refine .step _ hattach ?_
  have hchannels := Relay.channels_begin t k p.relay
  have hticket (a : Ticket) (ha : (p.relay.begin t k).1 = some a) := Relay.channel_begin ha
  unfold Live.deliver
  generalize p.relay.begin t k = result at hchannels hticket ⊢
  obtain ⟨ticket?, w⟩ := result
  dsimp only at hchannels hticket ⊢
  cases ticket? with
  | none =>
    rw [Option.elim_none, put_self hidle]
    exact .refl k _
  | some a =>
    rw [Option.elim_some]
    -- The lock is free, since nobody else has moved in between.
    have hlock : (p.put t (.waiting a points) w).step? k (.lock t) =
        some (.nothing, { p.put t (.locked a points) w with owner := some t }) := by
      simp only [step?, stage_put, owner_put, hfree, put_put, relay_put]
    refine .step _ hlock ?_
    have hdone := leads_locked (t := t) points host hreturns (hticket a rfl)
      (v := w) (by rw [hchannels]; exact hk) { p with owner := some t }
    -- In the end the lock is free again, and the thread is where it was.
    have hend (w : Relay) : ({ ({ p with owner := some t } : Drivers).put t .idle w with
        owner := none } : Drivers) = { p with relay := w } := by
      rw [put_self (p := { p with owner := some t }) hidle, ← hfree]
    rw [hend] at hdone
    dsimp only
    generalize w.publish k points = result at hdone ⊢
    obtain ⟨d, v⟩ := result
    cases d <;> exact hdone

end

end Drivers

/-! ### All threads together -/

/-- **No frame is torn and no number skipped**, whatever threads do at the same time on a channel
    that is not closed.  During a call the buffer shows the frame of the thread that calls, nobody
    else calls, and whatever the handler reads is what it was called with.  The calls are numbered
    0, 1, 2, …; frames that are refused or whose thread cannot attach take no number. -/
theorem concurrent_deliveries {w v : Relay} {s : Session} {i address : Nat} {d : Descriptor}
    {key : UInt32} (hs : w.sessions[i]? = some s) (hhosted : s.runtime < w.runtimes.length)
    (hopen : w.openSession d key address i = (.ok (), v)) (moves : List Drivers.Move)
    (turns : List Drivers.Turn) (p : Drivers)
    (hplay : Drivers.play? w.channels.length moves { relay := v } = some (turns, p)) :
    (∀ t a points d, p.stage t = .calling a points d →
      Drivers.Untorn (p.relay.channel w.channels.length) s points d) ∧
    (∀ t u, (p.stage t).inCall = true → (p.stage u).inCall = true → t = u) ∧
    Drivers.numbers turns = List.range (Drivers.numbers turns).length ∧
    (p.relay.channel w.channels.length).nextSequence =
      (Drivers.numbers turns).length + p.pending ∧
    ∀ u ∈ turns, ∀ t place byte, u.noted = .saw t place byte →
      ∃ a points d, u.before.stage t = .calling a points d ∧ byte = d.data.data[place]? := by
  have hstart := Drivers.Sound.opened hs hhosted hopen
  obtain ⟨hsound, hnumbers, hread⟩ := hstart.play hplay
  rw [Nat.zero_add] at hsound
  refine ⟨?_, fun t u => hsound.one_call, ?_, hsound.next, hread⟩
  · intro t a points d hcalling
    have hrelies := hsound.relies t
    rw [hcalling] at hrelies
    exact hrelies
  · rw [List.range_eq_range']
    exact hnumbers

/-- While one handler is at work, a thread is refused by its host; then a frame that is too long is
    refused, and the next call still gets the number 1. -/
theorem concurrent_deliveries_refused_between :
    let w := (World.fresh [{ serial := "A", fd := 3 }] 1 [(0, { maxPoints := 2 })] () 0).relay
    let a : ThreadId := .worker "A"
    let b : ThreadId := .worker "B"
    let c : ThreadId := .worker "C"
    let moves : List Drivers.Move :=
      [.arrive a [⟨1, 2, 3, 0, 0, 0⟩, ⟨4, 5, 6, 0, 0, 0⟩], .arrive b [⟨7, 8, 9, 0, 0, 0⟩],
        .arrive c [default, default, default], .attach b, .attach a, .lock a, .accept a, .copy a,
        .attach c, .copy a, .number a, .enter a, .look a 0, .refuse true,
        .arrive (.worker "D") [], .attach (.worker "D"), .look a 20, .answer a .accepted 0,
        .release a, .lock c, .accept c, .lock b, .accept b, .copy b, .number b, .enter b, .look b 0]
    ∃ v turns p, w.openSession ⟨3⟩ 5 64 0 = (.ok (), v) ∧
      Drivers.play? 0 moves { relay := v } = some (turns, p) ∧
      (∀ t ticket points d, p.stage t = .calling ticket points d →
        Drivers.Untorn (p.relay.channel 0) { settings := { maxPoints := 2 } } points d) ∧
      (p.stage b).inCall = true ∧ Drivers.numbers turns = [0, 1] ∧
      (p.relay.session 0).stats =
        { delivered := 1, attachFailures := 1, overflowRejects := 1 } := by
  intro w a b c moves
  obtain ⟨v, hopen⟩ : ∃ v, w.openSession ⟨3⟩ 5 64 0 = (.ok (), v) := ⟨_, rfl⟩
  have hshown : ((Drivers.play? 0 moves { relay := (w.openSession ⟨3⟩ 5 64 0).2 }).map fun r =>
      ((r.2.stage b).inCall, Drivers.numbers r.1, (r.2.relay.session 0).stats)) =
        some (true, [0, 1], { delivered := 1, attachFailures := 1, overflowRejects := 1 }) := by
    decide +kernel
  rw [hopen] at hshown
  obtain ⟨⟨turns, p⟩, hplay, hsees⟩ := Option.map_eq_some_iff.mp hshown
  simp only [Prod.mk.injEq] at hsees
  have hsafe := concurrent_deliveries (s := { settings := { maxPoints := 2 } }) (i := 0)
    (by rfl) (by decide) hopen moves turns p hplay
  exact ⟨v, turns, p, hopen, hplay, hsafe.1, hsees⟩

end DepthRelay
