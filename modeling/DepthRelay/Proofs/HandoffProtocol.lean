import DepthRelay.Handoff

namespace DepthRelay

/-!
# The protocol of the hand-off

Submitters, the dispatch thread and a shutdown take steps on one hand-off, in any order.  Whatever
is atomic in a hand-off is one *move* here; a submit is two.

* `Parties` — a hand-off with what each party is at; `Parties.step?` makes one move.
* `Parties.play?` — plays a schedule, and records what each move was answered.
* `Faithful` — what is true of all records.
* `handoff_protocol` — no slot is lost until the hand-off is closed, a submit is dropped for lack of
  a slot only, and the sink is given all frames that were queued, in order.
-/

/-! ### The parties -/

/-- What the dispatch thread is at. -/
inductive Dispatcher
  | idle
  /-- It has taken a frame out of the queue. -/
  | carrying (points : List Point)
  /-- The sink is at work. -/
  | sinking
  /-- The sink has returned, and the slot is on its way back. -/
  | returning
  deriving DecidableEq, Repr

namespace Dispatcher

/-- Whether the thread has a slot. -/
def busy : Dispatcher → Bool
  | idle => false
  | _ => true

/-- What the sink has yet to be given. -/
def load : Dispatcher → List (List Point)
  | carrying points => [points]
  | _ => []

end Dispatcher

/-- How far the shutdown is. -/
inductive Shutdown
  | uncalled
  /-- The queue is closed, and the caller waits for the dispatch thread. -/
  | joining
  | returned
  deriving DecidableEq, Repr

/-- A hand-off between two moves of the parties. -/
structure Parties where
  handoff : Handoff
  /-- Submits that hold a slot, by number, each with its points. -/
  holding : List (Nat × List Point) := []
  /-- Submits that have begun, which is also the number of the next one. -/
  submits : Nat := 0
  dispatcher : Dispatcher := .idle
  shutdown : Shutdown := .uncalled
  deriving DecidableEq, Repr

/-- One move of somebody. -/
inductive Move
  /-- A submit begins: it takes a free slot. -/
  | claim (points : List Point)
  /-- A submit that holds a slot tries to queue its frame. -/
  | send (submit : Nat)
  | take
  /-- The dispatch thread calls the sink. -/
  | give
  | sinkReturns
  | giveBack
  /-- The queue is closed, by the dispatch thread's own sink or from another thread. -/
  | close (own : Bool)
  /-- The shutdown has seen the dispatch thread end. -/
  | join
  deriving DecidableEq, Repr

/-- The move is one of the dispatch thread. -/
def Move.dispatches : Move → Bool
  | take | give | sinkReturns | giveBack => true
  | _ => false

/-- What a move is answered. -/
inductive Answered
  | claimed (submit : Nat)
  /-- A submit with these points has returned. -/
  | returned (submit : Nat) (points : List Point) (status : HandoffStatus)
  /-- The sink was called with these points. -/
  | given (points : List Point)
  | done
  deriving DecidableEq, Repr

namespace Parties

/-- A fresh hand-off. -/
def ofDepth (depth : Nat) : Parties where
  handoff := .ofDepth depth

/-- One move, if it can be made. -/
def step? (m : Move) (p : Parties) : Option (Answered × Parties) :=
  match m with
  | .claim points =>
    match p.handoff.claim? with
    | none => some (.returned p.submits points .dropped, { p with submits := p.submits + 1 })
    | some h => some (.claimed p.submits,
        { p with
          handoff := h
          holding := p.holding ++ [(p.submits, points)]
          submits := p.submits + 1 })
  | .send n =>
    match p.holding.find? (·.1 == n) with
    | none => none
    -- The claim is spent, whether the frame is queued or dropped.
    | some (_, points) => some (.returned n points (p.handoff.enqueue points).1,
        { p with
          handoff := (p.handoff.enqueue points).2
          holding := p.holding.eraseP (·.1 == n) })
  | .take =>
    match p.handoff.take? with
    | none => none
    | some (points, h) => some (.done, { p with handoff := h, dispatcher := .carrying points })
  | .give =>
    match p.dispatcher with
    | .carrying points => some (.given points, { p with dispatcher := .sinking })
    | _ => none
  | .sinkReturns =>
    if p.dispatcher = .sinking then some (.done, { p with dispatcher := .returning }) else none
  | .giveBack =>
    if p.dispatcher = .returning then
      some (.done, { p with handoff := p.handoff.complete, dispatcher := .idle })
    else none
  | .close own =>
    -- A sink may close the queue that it is called from, and then nobody waits for the thread.
    if p.shutdown = .uncalled ∧ (own → p.dispatcher = .sinking) then
      some (.done,
        { p with handoff := p.handoff.close, shutdown := if own then .returned else .joining })
    else none
  | .join =>
    if p.shutdown = .joining ∧ p.handoff.finished then
      some (.done, { p with shutdown := .returned })
    else none

end Parties

/-- A move that has been made. -/
structure Turn where
  before : Parties
  move : Move
  answer : Answered
  deriving DecidableEq, Repr

/-- Plays a schedule, if all its moves can be made. -/
def Parties.play? : List Move → Parties → Option (List Turn × Parties)
  | [], p => some ([], p)
  | m :: ms, p =>
    match p.step? m with
    | none => none
    | some (answer, q) =>
      (play? ms q).map fun (turns, r) => ({ before := p, move := m, answer } :: turns, r)

/-! ### What a record shows -/

/-- The frames that were queued, in the order of their submits' second steps. -/
def accepted (turns : List Turn) : List (List Point) :=
  turns.filterMap fun t =>
    match t.answer with
    | .returned _ points .queued => some points
    | _ => none

/-- The frames that the sink was called with. -/
def given (turns : List Turn) : List (List Point) :=
  turns.filterMap fun t =>
    match t.answer with
    | .given points => some points
    | _ => none

@[simp] theorem accepted_append (turns more : List Turn) :
    accepted (turns ++ more) = accepted turns ++ accepted more := List.filterMap_append

@[simp] theorem given_append (turns more : List Turn) :
    given (turns ++ more) = given turns ++ given more := List.filterMap_append

/-! ### What a move can do -/

/-- Everything that a move can do. -/
inductive Made (p : Parties) : Move → Answered → Parties → Prop
  | refused (points : List Point) (none : p.handoff.free = 0) :
      Made p (.claim points) (.returned p.submits points .dropped)
        { p with submits := p.submits + 1 }
  | claimed (points : List Point) (some : p.handoff.free ≠ 0) :
      Made p (.claim points) (.claimed p.submits)
        { p with
          handoff := { p.handoff with free := p.handoff.free - 1 }
          holding := p.holding ++ [(p.submits, points)]
          submits := p.submits + 1 }
  | queued (n : Nat) (points : List Point) (found : p.holding.find? (·.1 == n) = some (n, points))
      (accepting : p.handoff.accepting = true) (room : p.handoff.queue.length < p.handoff.depth) :
      Made p (.send n) (.returned n points .queued)
        { p with
          handoff := { p.handoff with queue := p.handoff.queue ++ [points] }
          holding := p.holding.eraseP (·.1 == n) }
  | dropped (n : Nat) (points : List Point)
      (found : p.holding.find? (·.1 == n) = some (n, points))
      (refused : ¬(p.handoff.accepting = true ∧ p.handoff.alive = true ∧
        p.handoff.queue.length < p.handoff.depth)) :
      Made p (.send n) (.returned n points .dropped)
        { p with holding := p.holding.eraseP (·.1 == n) }
  | taken (points : List Point) (rest : List (List Point)) (idle : p.handoff.sinking = false)
      (queue : p.handoff.queue = points :: rest) :
      Made p .take .done
        { p with
          handoff := { p.handoff with queue := rest, sinking := true }
          dispatcher := .carrying points }
  | gave (points : List Point) (carrying : p.dispatcher = .carrying points) :
      Made p .give (.given points) { p with dispatcher := .sinking }
  | sunk (sinking : p.dispatcher = .sinking) :
      Made p .sinkReturns .done { p with dispatcher := .returning }
  | gaveBack (returning : p.dispatcher = .returning) :
      Made p .giveBack .done { p with handoff := p.handoff.complete, dispatcher := .idle }
  | closed (own : Bool) (uncalled : p.shutdown = .uncalled) :
      Made p (.close own) .done
        { p with handoff := p.handoff.close, shutdown := if own then .returned else .joining }
  | joined (joining : p.shutdown = .joining) (finished : p.handoff.finished = true) :
      Made p .join .done { p with shutdown := .returned }

/-- **What a step can do**, with the guards of each kind. -/
theorem Made.of_step? {p q : Parties} {m : Move} {answer : Answered}
    (h : p.step? m = some (answer, q)) : Made p m answer q := by
  -- A move is possible in one situation only, and the cases follow the constructors.
  cases m with
  | claim points =>
    unfold Parties.step? Handoff.claim? at h
    by_cases hfree : p.handoff.free = 0
    · simp only [if_pos hfree, Option.some.injEq, Prod.mk.injEq] at h
      obtain ⟨rfl, rfl⟩ := h
      exact .refused points hfree
    · simp only [if_neg hfree, Option.some.injEq, Prod.mk.injEq] at h
      obtain ⟨rfl, rfl⟩ := h
      exact .claimed points hfree
  | send n =>
    unfold Parties.step? at h
    cases hfound : p.holding.find? (·.1 == n) with
    | none => simp [hfound] at h
    | some entry =>
      obtain ⟨k, points⟩ := entry
      obtain rfl : k = n := by simpa using List.find?_some hfound
      simp only [hfound, Option.some.injEq, Prod.mk.injEq] at h
      obtain ⟨rfl, rfl⟩ := h
      unfold Handoff.enqueue
      by_cases hroom : p.handoff.accepting = true ∧ p.handoff.alive = true ∧
          p.handoff.queue.length < p.handoff.depth
      · rw [if_pos (by simpa [and_assoc] using hroom)]
        exact .queued k points hfound hroom.1 hroom.2.2
      · rw [if_neg (by simpa [and_assoc] using hroom)]
        exact .dropped k points hfound hroom
  | take =>
    unfold Parties.step? at h
    cases htake : p.handoff.take? with
    | none => simp [htake] at h
    | some taken =>
      obtain ⟨points, v⟩ := taken
      obtain ⟨hidle, rest, hqueue, rfl⟩ := Handoff.of_take? htake
      simp only [htake, Option.some.injEq, Prod.mk.injEq] at h
      obtain ⟨rfl, rfl⟩ := h
      exact .taken points rest hidle hqueue
  | give =>
    unfold Parties.step? at h
    cases hdispatcher : p.dispatcher with
    | carrying points =>
      simp only [hdispatcher, Option.some.injEq, Prod.mk.injEq] at h
      obtain ⟨rfl, rfl⟩ := h
      exact .gave points hdispatcher
    | idle => simp [hdispatcher] at h
    | sinking => simp [hdispatcher] at h
    | returning => simp [hdispatcher] at h
  | sinkReturns =>
    unfold Parties.step? at h
    by_cases hsinking : p.dispatcher = .sinking
    · simp only [if_pos hsinking, Option.some.injEq, Prod.mk.injEq] at h
      obtain ⟨rfl, rfl⟩ := h
      exact .sunk hsinking
    · simp [hsinking] at h
  | giveBack =>
    unfold Parties.step? at h
    by_cases hreturning : p.dispatcher = .returning
    · simp only [if_pos hreturning, Option.some.injEq, Prod.mk.injEq] at h
      obtain ⟨rfl, rfl⟩ := h
      exact .gaveBack hreturning
    · simp [hreturning] at h
  | close own =>
    unfold Parties.step? at h
    by_cases hcan : p.shutdown = .uncalled ∧ (own → p.dispatcher = .sinking)
    · simp only [if_pos hcan, Option.some.injEq, Prod.mk.injEq] at h
      obtain ⟨rfl, rfl⟩ := h
      exact .closed own hcan.1
    · simp [hcan] at h
  | join =>
    unfold Parties.step? at h
    by_cases hcan : p.shutdown = .joining ∧ p.handoff.finished
    · simp only [if_pos hcan, Option.some.injEq, Prod.mk.injEq] at h
      obtain ⟨rfl, rfl⟩ := h
      exact .joined hcan.1 hcan.2
    · simp [hcan] at h

/-! ### Slots -/

/-- Slots that somebody has, or nobody. -/
def Parties.slots (p : Parties) : Nat :=
  p.handoff.free + p.handoff.queue.length + p.dispatcher.busy.toNat + p.holding.length

/-- The parties and the hand-off fit together; no slot is lost before the queue is closed. -/
structure Sound (depth : Nat) (p : Parties) : Prop where
  alive : p.handoff.alive = true
  length : p.handoff.depth = depth
  sinking : p.handoff.sinking = p.dispatcher.busy
  accepting : p.handoff.accepting = true ↔ p.shutdown = .uncalled
  slots_le : p.slots ≤ depth
  slots_eq : p.shutdown = .uncalled → p.slots = depth

namespace Sound

variable {depth : Nat} {p q : Parties} {m : Move} {answer : Answered}

/-- A hand-off is sound when it is made. -/
theorem ofDepth (depth : Nat) : Sound depth (.ofDepth depth) where
  alive := rfl
  length := rfl
  sinking := rfl
  accepting := by simp [Parties.ofDepth, Handoff.ofDepth]
  slots_le := by simp [Parties.slots, Parties.ofDepth, Handoff.ofDepth, Dispatcher.busy]
  slots_eq := by simp [Parties.slots, Parties.ofDepth, Handoff.ofDepth, Dispatcher.busy]

/-- A submit that holds a slot will find room in the queue. -/
theorem room (h : Sound depth p) {n : Nat} {points : List Point}
    (hfound : p.holding.find? (·.1 == n) = some (n, points)) :
    p.handoff.queue.length < p.handoff.depth := by
  -- Its slot is one of those that are not in the queue.
  have hholding : 0 < p.holding.length :=
    List.length_pos_of_mem (List.mem_of_find?_eq_some hfound)
  have hslots := h.slots_le
  unfold Parties.slots at hslots
  rw [h.length]
  omega

/-- Before the queue is closed a submit that holds a slot is not refused. -/
theorem not_refused (h : Sound depth p) {n : Nat} {points : List Point}
    (hfound : p.holding.find? (·.1 == n) = some (n, points)) (huncalled : p.shutdown = .uncalled) :
    p.handoff.accepting = true ∧ p.handoff.alive = true ∧
      p.handoff.queue.length < p.handoff.depth :=
  ⟨h.accepting.mpr huncalled, h.alive, h.room hfound⟩

/-- A dispatch thread without a slot is at nothing. -/
theorem idle (h : Sound depth p) (hidle : p.handoff.sinking = false) : p.dispatcher = .idle := by
  have hbusy : p.dispatcher.busy = false := h.sinking.symm.trans hidle
  cases hdispatcher : p.dispatcher with
  | idle => rfl
  | _ =>
    rw [hdispatcher] at hbusy
    exact absurd hbusy (by simp [Dispatcher.busy])

/-- The submit that has made its second step holds its slot no longer. -/
theorem length_eraseP {n : Nat} {points : List Point}
    (hfound : p.holding.find? (·.1 == n) = some (n, points)) :
    (p.holding.eraseP (·.1 == n)).length + 1 = p.holding.length := by
  have hmem := List.mem_of_find?_eq_some hfound
  have hholding : 0 < p.holding.length := List.length_pos_of_mem hmem
  rw [List.length_eraseP_of_mem hmem (by simp)]
  omega

/-- Slots that change hands are not lost. -/
theorem kept (h : Sound depth p) (halive : q.handoff.alive = p.handoff.alive)
    (hlength : q.handoff.depth = p.handoff.depth)
    (haccepting : q.handoff.accepting = p.handoff.accepting) (hshutdown : q.shutdown = p.shutdown)
    (hsinking : q.handoff.sinking = q.dispatcher.busy) (hslots : q.slots = p.slots) :
    Sound depth q where
  alive := halive.trans h.alive
  length := hlength.trans h.length
  sinking := hsinking
  accepting := by
    rw [haccepting, hshutdown]
    exact h.accepting
  slots_le := by
    rw [hslots]
    exact h.slots_le
  slots_eq := by
    intro huncalled
    rw [hslots]
    exact h.slots_eq (hshutdown.symm.trans huncalled)

/-- **Every move keeps account of the slots.** -/
theorem made (h : Sound depth p) (hmade : Made p m answer q) : Sound depth q := by
  cases hmade with
  | refused points hnone => exact h.kept rfl rfl rfl rfl h.sinking rfl
  | claimed points hsome =>
    -- The slot passes from the pool to the submit.
    refine h.kept rfl rfl rfl rfl h.sinking ?_
    show p.handoff.free - 1 + p.handoff.queue.length + p.dispatcher.busy.toNat +
      (p.holding ++ [(p.submits, points)]).length = p.slots
    unfold Parties.slots
    rw [List.length_append, List.length_singleton]
    omega
  | queued n points hfound haccepting hroom =>
    -- The slot goes on with the frame.
    have herased := length_eraseP hfound
    refine h.kept rfl rfl rfl rfl h.sinking ?_
    show p.handoff.free + (p.handoff.queue ++ [points]).length + p.dispatcher.busy.toNat +
      (p.holding.eraseP (·.1 == n)).length = p.slots
    unfold Parties.slots
    rw [List.length_append, List.length_singleton]
    omega
  | dropped n points hfound hrefused =>
    -- The slot is lost, which takes a closed queue.
    have herased := length_eraseP hfound
    have hslots := h.slots_le
    refine ⟨h.alive, h.length, h.sinking, h.accepting, ?_, ?_⟩
    · show p.handoff.free + p.handoff.queue.length + p.dispatcher.busy.toNat +
        (p.holding.eraseP (·.1 == n)).length ≤ depth
      unfold Parties.slots at hslots
      omega
    · exact fun huncalled => absurd (h.not_refused hfound huncalled) hrefused
  | taken points rest hidle hqueue =>
    refine h.kept rfl rfl rfl rfl rfl ?_
    show p.handoff.free + rest.length + 1 + p.holding.length = p.slots
    unfold Parties.slots
    rw [← h.sinking, hidle, hqueue, List.length_cons, Bool.toNat_false]
    omega
  | gave points hcarrying =>
    have hsinking := h.sinking
    rw [hcarrying] at hsinking
    refine h.kept rfl rfl rfl rfl hsinking ?_
    unfold Parties.slots
    rw [hcarrying]
    rfl
  | sunk hsunk =>
    have hsinking := h.sinking
    rw [hsunk] at hsinking
    refine h.kept rfl rfl rfl rfl hsinking ?_
    unfold Parties.slots
    rw [hsunk]
    rfl
  | gaveBack hreturning =>
    -- The slot passes from the thread back to the pool.
    refine h.kept rfl rfl rfl rfl rfl ?_
    show p.handoff.free + 1 + p.handoff.queue.length + 0 + p.holding.length = p.slots
    unfold Parties.slots
    rw [hreturning]
    show _ = p.handoff.free + p.handoff.queue.length + 1 + p.holding.length
    omega
  | closed own huncalled =>
    refine ⟨h.alive, h.length, h.sinking, ?_, h.slots_le, ?_⟩
    · cases own <;> simp [Handoff.close]
    · cases own <;> simp
  | joined hjoining hfinished =>
    refine ⟨h.alive, h.length, h.sinking, ?_, h.slots_le, ?_⟩
    · simp [h.accepting, hjoining]
    · simp

end Sound

/-! ### Records -/

namespace Made

variable {depth : Nat} {p q : Parties} {m : Move} {answer : Answered}

/-- A submit returns at its first step for lack of a slot, or else at its second one. -/
theorem returned (h : Made p m answer q) (hsound : Sound depth p) {n : Nat} {points : List Point}
    {s : HandoffStatus} (hanswer : answer = .returned n points s) :
    m = .claim points ∧ p.submits = n ∧ p.handoff.free = 0 ∧ s = .dropped ∨
      (n, points) ∈ p.holding ∧ (p.shutdown = .uncalled → s = .queued) := by
  cases h with
  | refused points' hnone =>
    obtain ⟨rfl, rfl, rfl⟩ := Answered.returned.inj hanswer
    exact .inl ⟨rfl, rfl, hnone, rfl⟩
  | queued n' points' hfound =>
    obtain ⟨rfl, rfl, rfl⟩ := Answered.returned.inj hanswer
    exact .inr ⟨List.mem_of_find?_eq_some hfound, fun _ => rfl⟩
  | dropped n' points' hfound hrefused =>
    obtain ⟨rfl, rfl, rfl⟩ := Answered.returned.inj hanswer
    refine .inr ⟨List.mem_of_find?_eq_some hfound, ?_⟩
    exact fun huncalled => absurd (hsound.not_refused hfound huncalled) hrefused
  | _ => exact absurd hanswer (by simp)

/-- The second step of a submit. -/
theorem sent (h : Made p m answer q) (hsound : Sound depth p) {n : Nat} (hm : m = .send n) :
    p.handoff.queue.length < p.handoff.depth ∧
      (p.shutdown ≠ .uncalled → ∃ points, answer = .returned n points .dropped) := by
  cases h with
  | queued n' points hfound haccepting hroom =>
    exact ⟨hroom, fun hclosed => absurd (hsound.accepting.mp haccepting) hclosed⟩
  | dropped n' points hfound =>
    obtain rfl := Move.send.inj hm
    exact ⟨hsound.room hfound, fun _ => ⟨points, rfl⟩⟩
  | _ => exact absurd hm (by simp)

/-- Frames go from submits through the queue to the sink. -/
theorem order (h : Made p m answer q) (hsound : Sound depth p) :
    p.dispatcher.load ++ p.handoff.queue ++ accepted [⟨p, m, answer⟩] =
      given [⟨p, m, answer⟩] ++ (q.dispatcher.load ++ q.handoff.queue) := by
  cases h with
  | refused points => simp [accepted, given]
  | claimed points => simp [accepted, given]
  | queued n points => simp [accepted, given]
  | dropped n points => simp [accepted, given]
  | taken points rest hidle hqueue =>
    simp [accepted, given, hsound.idle hidle, hqueue, Dispatcher.load]
  | gave points hcarrying => simp [accepted, given, hcarrying, Dispatcher.load]
  | sunk hsinking => simp [accepted, given, hsinking, Dispatcher.load]
  | gaveBack hreturning => simp [accepted, given, hreturning, Dispatcher.load, Handoff.complete]
  | closed own => simp [accepted, given, Handoff.close]
  | joined => simp [accepted, given]

/-- After a shutdown nothing is accepted any more. -/
theorem accepted_of_closed (h : Made p m answer q) (hsound : Sound depth p)
    (hclosed : p.shutdown ≠ .uncalled) : accepted [⟨p, m, answer⟩] = [] := by
  cases h with
  | queued n points hfound haccepting =>
    exact absurd (hsound.accepting.mp haccepting) hclosed
  | _ => rfl

/-- A shutdown that has returned stays so. -/
theorem returned_of_returned (h : Made p m answer q) (hreturned : p.shutdown = .returned) :
    q.shutdown = .returned := by
  cases h with
  | closed own huncalled => exact absurd (huncalled.symm.trans hreturned) (by simp)
  | joined => rfl
  | _ => exact hreturned

/-- A shutdown that has waited returns only once nothing is left to be given. -/
theorem joined_idle (h : Made p m answer q) (hsound : Sound depth p) (hm : m = .join) :
    p.dispatcher = .idle ∧ p.handoff.queue = [] ∧ p.shutdown ≠ .uncalled ∧
      q.shutdown = .returned := by
  cases h with
  | joined hjoining hfinished =>
    have hended : p.handoff.sinking = false ∧ p.handoff.queue = [] := by
      have halive := hsound.alive
      simp_all [Handoff.finished]
    exact ⟨hsound.idle hended.1, hended.2, by simp [hjoining], rfl⟩
  | _ => exact absurd hm (by simp)

end Made

/-- Submits have numbers of their own, and each that holds a slot has found one free. -/
structure Numbered (turns : List Turn) (p : Parties) : Prop where
  below : ∀ c ∈ turns, ∀ points, c.move = .claim points → c.before.submits < p.submits
  distinct : ∀ c ∈ turns, ∀ d ∈ turns, ∀ points points', c.move = .claim points →
    d.move = .claim points' → c.before.submits = d.before.submits → c = d
  held : ∀ n points, (n, points) ∈ p.holding →
    ∃ c ∈ turns, c.move = .claim points ∧ c.before.submits = n ∧ 0 < c.before.handoff.free

namespace Numbered

variable {turns : List Turn} {p q : Parties} {m : Move} {answer : Answered}

/-- **A step** keeps the numbers of the frames in order. -/
theorem made (h : Numbered turns p) (hmade : Made p m answer q) :
    Numbered (turns ++ [⟨p, m, answer⟩]) q := by
  have hgrows : p.submits ≤ q.submits ∧
      ∀ points, m = .claim points → q.submits = p.submits + 1 := by
    cases hmade <;> simp
  refine ⟨?_, ?_, ?_⟩
  · intro c hc points hclaim
    rcases List.mem_append.mp hc with hc | hc
    · have hbelow := h.below c hc points hclaim
      omega
    · obtain rfl := List.mem_singleton.mp hc
      have hnext := hgrows.2 points hclaim
      show p.submits < q.submits
      omega
  · -- A new claim has a number above all that were given out.
    intro c hc d hd points points' hclaim hclaim' hsame
    rcases List.mem_append.mp hc with hc | hc <;> rcases List.mem_append.mp hd with hd | hd
    · exact h.distinct c hc d hd points points' hclaim hclaim' hsame
    · obtain rfl := List.mem_singleton.mp hd
      have hbelow := h.below c hc points hclaim
      exact absurd hsame (Nat.ne_of_lt hbelow)
    · obtain rfl := List.mem_singleton.mp hc
      have hbelow := h.below d hd points' hclaim'
      exact absurd hsame.symm (Nat.ne_of_lt hbelow)
    · rw [List.mem_singleton.mp hc, List.mem_singleton.mp hd]
  · intro n points hn
    have hbefore : (n, points) ∈ p.holding ∨
        m = .claim points ∧ p.submits = n ∧ 0 < p.handoff.free := by
      cases hmade with
      | claimed points' hsome =>
        rcases List.mem_append.mp hn with hn | hn
        · exact .inl hn
        · obtain ⟨rfl, rfl⟩ := Prod.mk.inj (List.mem_singleton.mp hn)
          exact .inr ⟨rfl, rfl, Nat.pos_of_ne_zero hsome⟩
      | queued => exact .inl (List.mem_of_mem_eraseP hn)
      | dropped => exact .inl (List.mem_of_mem_eraseP hn)
      | _ => exact .inl hn
    rcases hbefore with hn | ⟨hclaim, hnumber, hfree⟩
    · obtain ⟨c, hc, hclaim⟩ := h.held n points hn
      exact ⟨c, List.mem_append_left _ hc, hclaim⟩
    · exact ⟨⟨p, m, answer⟩, by simp, hclaim, hnumber, hfree⟩

end Numbered

/-- The record shows that the hand-off does what it promises. -/
structure Faithful (turns : List Turn) (p : Parties) : Prop where
  /-- The queue is never full when a submit reaches its second step. -/
  room : ∀ t ∈ turns, ∀ n, t.move = .send n →
    t.before.handoff.queue.length < t.before.handoff.depth
  /-- A submit that returns has begun, with the same points, and as long as the queue is not closed
      it returns what the free slots at its beginning allow. -/
  returned : ∀ t ∈ turns, ∀ n points s, t.answer = .returned n points s →
    ∃ c ∈ turns, c.move = .claim points ∧ c.before.submits = n ∧
      (t.before.shutdown = .uncalled → s = if 0 < c.before.handoff.free then .queued else .dropped)
  /-- Once the queue is closed, nothing is queued. -/
  closed : ∀ t ∈ turns, ∀ n, t.move = .send n → t.before.shutdown ≠ .uncalled →
    ∃ points, t.answer = .returned n points .dropped
  /-- The sink is given what was queued, in order; the rest is on its way. -/
  order : accepted turns = given turns ++ (p.dispatcher.load ++ p.handoff.queue)
  /-- A shutdown that waits for the dispatch thread returns only after the sink has done all. -/
  joined : ∀ before t after, turns = before ++ t :: after → t.move = .join →
    given before = accepted turns ∧ t.before.dispatcher = .idle ∧ p.shutdown = .returned

namespace Faithful

variable {depth : Nat} {turns : List Turn} {p q : Parties} {m : Move} {answer : Answered}

/-- **Every move keeps the record faithful.** -/
theorem made (h : Faithful turns p) (hsound : Sound depth p) (hnumbered : Numbered turns p)
    (hmade : Made p m answer q) : Faithful (turns ++ [⟨p, m, answer⟩]) q where
  room := by
    intro t ht n hsend
    rcases List.mem_append.mp ht with ht | ht
    · exact h.room t ht n hsend
    · obtain rfl := List.mem_singleton.mp ht
      exact (hmade.sent hsound hsend).1
  returned := by
    intro t ht n points s hanswer
    rcases List.mem_append.mp ht with ht | ht
    · obtain ⟨c, hc, hreturned⟩ := h.returned t ht n points s hanswer
      exact ⟨c, List.mem_append_left _ hc, hreturned⟩
    · obtain rfl := List.mem_singleton.mp ht
      rcases hmade.returned hsound hanswer with ⟨hclaim, hnumber, hnone, hs⟩ | ⟨hheld, hs⟩
      · refine ⟨⟨p, m, answer⟩, by simp, hclaim, hnumber, fun _ => ?_⟩
        rw [hs, if_neg (by simp [hnone])]
      · obtain ⟨c, hc, hclaim, hnumber, hfree⟩ := hnumbered.held n points hheld
        refine ⟨c, List.mem_append_left _ hc, hclaim, hnumber, fun huncalled => ?_⟩
        rw [if_pos hfree]
        exact hs huncalled
  closed := by
    intro t ht n hsend
    rcases List.mem_append.mp ht with ht | ht
    · exact h.closed t ht n hsend
    · obtain rfl := List.mem_singleton.mp ht
      exact (hmade.sent hsound hsend).2
  order := by
    have horder := hmade.order hsound
    rw [accepted_append, given_append, h.order, List.append_assoc, horder, List.append_assoc]
  joined := by
    intro before t after hturns hjoin
    rcases List.eq_nil_or_concat after with rfl | ⟨after', u, rfl⟩
    · -- The move that was just made is the join.
      obtain ⟨rfl, hlast⟩ := List.append_inj' hturns rfl
      obtain rfl : ⟨p, m, answer⟩ = t := by simpa using hlast
      obtain ⟨hidle, hempty, hclosed, hreturned⟩ := hmade.joined_idle hsound hjoin
      refine ⟨?_, hidle, hreturned⟩
      rw [accepted_append, hmade.accepted_of_closed hsound hclosed, h.order, hidle, hempty]
      simp [Dispatcher.load]
    · -- The join was earlier, and nothing was accepted since.
      have hsplit : turns ++ [⟨p, m, answer⟩] = (before ++ t :: after') ++ [u] := by
        rw [hturns]
        simp
      obtain ⟨hbefore, -⟩ := List.append_inj' hsplit rfl
      obtain ⟨hgiven, hidle, hreturned⟩ := h.joined before t after' hbefore hjoin
      have hclosed : p.shutdown ≠ .uncalled := by simp [hreturned]
      refine ⟨?_, hidle, hmade.returned_of_returned hreturned⟩
      rw [accepted_append, hmade.accepted_of_closed hsound hclosed, List.append_nil]
      exact hgiven

end Faithful

/-- What a schedule leaves behind. -/
structure Recorded (depth : Nat) (turns : List Turn) (p : Parties) : Prop where
  sound : Sound depth p
  numbered : Numbered turns p
  faithful : Faithful turns p

namespace Recorded

variable {depth : Nat} {turns more : List Turn} {p q : Parties}

/-- A hand-off that has been made has no record yet. -/
theorem ofDepth (depth : Nat) : Recorded depth [] (.ofDepth depth) where
  sound := .ofDepth depth
  numbered := by
    refine ⟨?_, ?_, ?_⟩
    · simp
    · simp
    · simp [Parties.ofDepth]
  faithful := by
    refine ⟨?_, ?_, ?_, ?_, ?_⟩
    · simp
    · simp
    · simp
    · rfl
    · simp

/-- **A schedule** is recorded, by induction on its steps. -/
theorem play (h : Recorded depth turns p) (ms : List Move) (hplay : p.play? ms = some (more, q)) :
    Recorded depth (turns ++ more) q := by
  induction ms generalizing turns more p with
  | nil =>
    obtain ⟨rfl, rfl⟩ := Prod.mk.inj (Option.some.inj hplay)
    rw [List.append_nil]
    exact h
  | cons m ms ih =>
    -- By induction on the schedule: each turn is appended to the record.
    unfold Parties.play? at hplay
    cases hstep : p.step? m with
    | none => simp [hstep] at hplay
    | some made =>
      obtain ⟨answer, p'⟩ := made
      simp only [hstep] at hplay
      obtain ⟨⟨rest, q'⟩, hrest, heq⟩ := Option.map_eq_some_iff.mp hplay
      obtain ⟨rfl, rfl⟩ := Prod.mk.inj heq
      have hmade := Made.of_step? hstep
      have hnext : Recorded depth (turns ++ [⟨p, m, answer⟩]) p' :=
        ⟨h.sound.made hmade, h.numbered.made hmade, h.faithful.made h.sound h.numbered hmade⟩
      have hwhole := ih hnext hrest
      rw [List.append_assoc] at hwhole
      exact hwhole

end Recorded

/-- A submit that nobody interrupts is `Handoff.submit`. -/
theorem Parties.submit_uninterrupted (p : Parties) (points : List Point)
    (hbelow : ∀ e ∈ p.holding, e.1 ≠ p.submits) :
    let q : Parties :=
      { p with handoff := (p.handoff.submit points).2, submits := p.submits + 1 }
    let answer : Answered := .returned p.submits points (p.handoff.submit points).1
    p.step? (.claim points) = some (answer, q) ∨
      ∃ v, p.step? (.claim points) = some (.claimed p.submits, v) ∧
        v.step? (.send p.submits) = some (answer, q) := by
  unfold Handoff.submit
  cases hclaim : p.handoff.claim? with
  | none =>
    refine .inl ?_
    simp only [step?, hclaim]
  | some v =>
    -- The number of the frame is new, so that the frame that is sent is the one just claimed.
    have hnone : p.holding.find? (·.1 == p.submits) = none := by
      rw [List.find?_eq_none]
      intro e he
      simpa using hbelow e he
    have hfound : (p.holding ++ [(p.submits, points)]).find? (·.1 == p.submits) =
        some (p.submits, points) := by
      rw [List.find?_append, hnone]
      simp
    have herased : (p.holding ++ [(p.submits, points)]).eraseP (·.1 == p.submits) = p.holding := by
      rw [List.eraseP_append_right _ (by simpa using hbelow)]
      simp
    refine .inr ⟨{ p with
      handoff := v
      holding := p.holding ++ [(p.submits, points)]
      submits := p.submits + 1 }, ?_, ?_⟩
    · simp only [step?, hclaim]
    · simp only [step?, hfound, herased]

/-! ### The dispatch thread goes on -/

/-- Moves that the dispatch thread has to make until nothing is left. -/
def Parties.work (p : Parties) : Nat :=
  4 * p.handoff.queue.length +
    match p.dispatcher with
    | .idle => 0
    | .carrying _ => 3
    | .sinking => 2
    | .returning => 1

namespace Sound

variable {depth : Nat} {p : Parties}

/-- As long as there is work, the dispatch thread can make a move, whatever the others are at, and
    has one move less to make then. -/
theorem progress (h : Sound depth p) (hwork : p.work ≠ 0) :
    ∃ m answer q, m.dispatches = true ∧ p.step? m = some (answer, q) ∧ q.work + 1 = p.work ∧
      q.shutdown = p.shutdown ∧ accepted [⟨p, m, answer⟩] = [] := by
  unfold Parties.work at hwork ⊢
  -- Whatever the dispatcher is at, its next step brings it closer to the end.
  cases hdispatcher : p.dispatcher with
  | idle =>
    cases hqueue : p.handoff.queue with
    | nil => simp [hdispatcher, hqueue] at hwork
    | cons points rest =>
      have hidle : p.handoff.sinking = false := by
        rw [h.sinking, hdispatcher]
        rfl
      have htake : p.handoff.take? =
          some (points, { p.handoff with queue := rest, sinking := true }) := by
        simp [Handoff.take?, h.alive, hidle, hqueue]
      refine ⟨.take, .done,
        { p with
          handoff := { p.handoff with queue := rest, sinking := true }
          dispatcher := .carrying points }, rfl, ?_, ?_, rfl, rfl⟩
      · simp only [Parties.step?, htake]
      · show 4 * rest.length + 3 + 1 = 4 * (rest.length + 1) + 0
        omega
  | carrying points =>
    refine ⟨.give, .given points, { p with dispatcher := .sinking }, rfl, ?_, ?_, rfl, rfl⟩
    · simp only [Parties.step?, hdispatcher]
    · show 4 * p.handoff.queue.length + 2 + 1 = 4 * p.handoff.queue.length + 3
      omega
  | sinking =>
    refine ⟨.sinkReturns, .done, { p with dispatcher := .returning }, rfl, ?_, ?_, rfl, rfl⟩
    · simp only [Parties.step?, if_pos hdispatcher]
    · show 4 * p.handoff.queue.length + 1 + 1 = 4 * p.handoff.queue.length + 2
      omega
  | returning =>
    refine ⟨.giveBack, .done, { p with handoff := p.handoff.complete, dispatcher := .idle }, rfl,
      ?_, ?_, rfl, rfl⟩
    · simp only [Parties.step?, if_pos hdispatcher]
    · show 4 * p.handoff.queue.length + 0 + 1 = 4 * p.handoff.queue.length + 1
      omega

/-- **The dispatch thread gets to the end of its work** by its own moves. -/
theorem drains (h : Sound depth p) : ∃ ms more q, (∀ m ∈ ms, m.dispatches = true) ∧
    p.play? ms = some (more, q) ∧ q.work = 0 ∧ q.shutdown = p.shutdown ∧ accepted more = [] := by
  -- By induction on the moves that are left to make.
  induction hwork : p.work generalizing p with
  | zero => exact ⟨[], [], p, by simp, rfl, hwork, rfl, rfl⟩
  | succ n ih =>
    obtain ⟨m, answer, q, hm, hstep, hless, hshutdown, hnone⟩ :=
      h.progress (by rw [hwork]; exact Nat.succ_ne_zero n)
    have hq : q.work = n := by omega
    obtain ⟨ms, more, r, hms, hplay, hr, hkept, hnone'⟩ := ih (h.made (.of_step? hstep)) hq
    refine ⟨m :: ms, ⟨p, m, answer⟩ :: more, r, ?_, ?_, hr, hkept.trans hshutdown, ?_⟩
    · intro m' hm'
      rcases List.mem_cons.mp hm' with rfl | hm'
      · exact hm
      · exact hms m' hm'
    · simp only [Parties.play?, hstep, hplay, Option.map_some]
    · have hsplit := accepted_append [⟨p, m, answer⟩] more
      rw [hnone, hnone'] at hsplit
      exact hsplit

/-- Without work the dispatch thread is idle and the queue empty. -/
theorem idle_of_work (hwork : p.work = 0) : p.dispatcher = .idle ∧ p.handoff.queue = [] := by
  unfold Parties.work at hwork
  cases hdispatcher : p.dispatcher with
  | idle =>
    rw [hdispatcher] at hwork
    exact ⟨rfl, List.eq_nil_of_length_eq_zero (by omega)⟩
  | carrying points => rw [hdispatcher] at hwork; exact absurd hwork (by simp)
  | sinking => rw [hdispatcher] at hwork; exact absurd hwork (by simp)
  | returning => rw [hdispatcher] at hwork; exact absurd hwork (by simp)

/-- A shutdown that waits returns once there is no work left. -/
theorem can_join (h : Sound depth p) (hwork : p.work = 0) (hjoining : p.shutdown = .joining) :
    (p.step? .join).isSome = true := by
  obtain ⟨hidle, hempty⟩ := idle_of_work hwork
  have hclosed : p.handoff.accepting = false := by
    have hopen : ¬p.handoff.accepting = true := by simp [h.accepting, hjoining]
    simpa using hopen
  have hsinking : p.handoff.sinking = false := by
    rw [h.sinking, hidle]
    rfl
  have hfinished : p.handoff.finished = true := by
    simp [Handoff.finished, hclosed, hsinking, hempty]
  simp only [Parties.step?, if_pos (And.intro hjoining hfinished), Option.isSome_some]

end Sound

/-! ### The protocol -/

/-- **The hand-off keeps its promises** on every schedule of submitters, dispatch thread and
    shutdown.  Until the shutdown closes the queue no slot is lost, and a submit is dropped if and
    only if it has found no free slot; whatever is queued is given to the sink, in order, and the
    dispatch thread can always bring that to its end. -/
theorem handoff_protocol (depth : Nat) (moves : List Move) (turns : List Turn) (p : Parties)
    (hplay : (Parties.ofDepth depth).play? moves = some (turns, p)) :
    (p.shutdown = .uncalled →
      p.handoff.free + p.handoff.queue.length + p.dispatcher.busy.toNat + p.holding.length =
        depth) ∧
    (∀ c ∈ turns, ∀ t ∈ turns, ∀ points points' s, c.move = .claim points →
      t.answer = .returned c.before.submits points' s →
        points' = points ∧ (t.before.shutdown = .uncalled →
          s = if 0 < c.before.handoff.free then .queued else .dropped)) ∧
    Faithful turns p ∧
    ∃ ms more q, (∀ m ∈ ms, m.dispatches = true) ∧ p.play? ms = some (more, q) ∧
      given (turns ++ more) = accepted turns ∧ q.dispatcher = .idle ∧
      (p.shutdown = .joining → (q.step? .join).isSome = true) := by
  have hrecorded : Recorded depth turns p := by
    have hwhole := (Recorded.ofDepth depth).play moves hplay
    rw [List.nil_append] at hwhole
    exact hwhole
  obtain ⟨hsound, hnumbered, hfaithful⟩ := hrecorded
  refine ⟨hsound.slots_eq, ?_, hfaithful, ?_⟩
  · intro c hc t ht points points' s hclaim hanswer
    obtain ⟨d, hd, hclaim', hnumber, hresult⟩ := hfaithful.returned t ht _ points' s hanswer
    obtain rfl := hnumbered.distinct d hd c hc points' points hclaim' hclaim hnumber
    exact ⟨Move.claim.inj (hclaim'.symm.trans hclaim), hresult⟩
  · -- The dispatch thread empties the queue, and then everything that was queued has been given.
    obtain ⟨ms, more, q, hms, hdrain, hwork, hshutdown, hnone⟩ := hsound.drains
    have hdrained : Recorded depth (turns ++ more) q :=
      Recorded.play ⟨hsound, hnumbered, hfaithful⟩ ms hdrain
    obtain ⟨hidle, hempty⟩ := Sound.idle_of_work hwork
    refine ⟨ms, more, q, hms, hdrain, ?_, hidle, ?_⟩
    · have horder := hdrained.faithful.order
      rw [accepted_append, hnone, List.append_nil, hidle, hempty] at horder
      simpa [Dispatcher.load] using horder.symm
    · exact fun hjoining => hdrained.sound.can_join hwork (hshutdown.trans hjoining)

/-- The queue is closed while one submit is between its steps: its frame is dropped and its slot
    lost, but the frame before it still reaches the sink. -/
theorem handoff_protocol_closed_amid_submit :
    let moves : List Move :=
      [.claim [default], .claim [], .send 0, .close false, .send 1, .take, .give, .sinkReturns,
        .giveBack, .join]
    ∃ turns p, (Parties.ofDepth 2).play? moves = some (turns, p) ∧ Faithful turns p ∧
      accepted turns = [[default]] ∧ given turns = [[default]] ∧ p.handoff.free = 1 := by
  intro moves
  obtain ⟨turns, p, hplay⟩ : ∃ turns p, (Parties.ofDepth 2).play? moves = some (turns, p) :=
    ⟨_, _, rfl⟩
  obtain ⟨-, -, hfaithful, -⟩ := handoff_protocol 2 moves turns p hplay
  have hshown : ((Parties.ofDepth 2).play? moves).map
      (fun r => (accepted r.1, given r.1, r.2.handoff.free)) =
        some ([[default]], [[default]], 1) := by
    decide
  rw [hplay] at hshown
  simp only [Option.map_some, Option.some.injEq, Prod.mk.injEq] at hshown
  exact ⟨turns, p, hplay, hfaithful, hshown⟩

end DepthRelay
