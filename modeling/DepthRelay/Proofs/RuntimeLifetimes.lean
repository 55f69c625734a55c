import DepthRelay.Proofs.ThreadAttachment

namespace DepthRelay

/-!
# Runtimes whose memory is used again

A runtime lives in a cell of memory that counts the references to it: those outside, those of
bindings and those of entries.  With the last one the cell is freed, and from then on another
runtime may be made at the same address.  Entries are looked up by that address.

* `Heap` — a roster with the memory of its runtimes; `Heap.step` makes one *move*.  A runtime may be
  made wherever no living one is, and a count changes where a reference is made or dropped.
* `Heap.Sound` — the counts are right, and a reference has the address of its runtime
  (`Heap.Sound.step`).
* `Heap.Sound.unique` — hence no two living runtimes share an address.
* `Heap.onRecord` — the handle under which a runtime has a thread, as its own counters tell.
* `attachments_own_runtime` — what a binding answers is on record with its own runtime, and entries
  refer to the runtime that lives at their address.
-/

/-! ### Moves -/

/-- The memory of a runtime. -/
structure Cell where
  address : Nat
  /-- How many references to the runtime there are; it is freed with the last one. -/
  strong : Nat
  deriving DecidableEq, Repr

/-- Runtimes, bindings and threads, with the memory of the runtimes. -/
structure Heap where
  /-- The references from outside are the makers' here, as often as there are. -/
  roster : Roster := {}
  cells : List Cell := []

namespace Heap

/-- What may happen to runtimes, bindings and threads. -/
inductive Move
  /-- A runtime is made at an address, with one reference to it. -/
  | create (address : Nat)
  /-- Whoever refers to a runtime from outside makes another such reference. -/
  | share (runtime : Nat)
  /-- A reference from outside is dropped. -/
  | release (runtime : Nat)
  | disable (runtime : Nat) (on : Bool)
  | bind (runtime : Nat) (threadName : String)
  | drop (binding : Nat)
  | attach (t : ThreadId) (binding : Nat)
  | exit (t : ThreadId)
  deriving DecidableEq

/-- The thread that makes a move, if runtimes get to see it. -/
def Move.thread? : Move → Option ThreadId
  | .attach t _ | .exit t => some t
  | _ => none

/-- One reference to a runtime more. -/
def retain (i : Nat) (cells : List Cell) : List Cell :=
  cells.modify i fun c => { c with strong := c.strong + 1 }

/-- References are dropped. -/
def dropped (ps : List Reference) (cells : List Cell) : List Cell :=
  ps.foldl (fun cells p => cells.modify p.runtime fun c => { c with strong := c.strong - 1 }) cells

/-- A living runtime is at an address. -/
def Occupied (address : Nat) (s : Heap) : Prop :=
  ∃ c ∈ s.cells, c.address = address ∧ 0 < c.strong

instance (address : Nat) (s : Heap) : Decidable (s.Occupied address) :=
  inferInstanceAs (Decidable (∃ c ∈ s.cells, c.address = address ∧ 0 < c.strong))

/-- A reference from outside to a runtime. -/
def outside? (i : Nat) (s : Heap) : Option Reference := s.roster.makers.find? (·.runtime == i)

/-- A thread asks for its handle.  A new entry has a reference of its own. -/
def attach (t : ThreadId) (b : Binding) (s : Heap) : Option Handle × Heap :=
  let (h, roster) := s.roster.attach t b
  let isNew := h.isSome && (s.roster.attachments.handle? t b.address).isNone
  (h, { roster, cells := if isNew then retain b.runtime s.cells else s.cells })

/-- A thread exits, and drops its entries. -/
def exit (t : ThreadId) (s : Heap) : Heap :=
  { roster := s.roster.exit t
    cells := dropped
      ((Attachments.ofThread t s.roster.attachments).map Attachment.reference) s.cells }

/-- Makes a move; what nobody can do leaves everything as it is. -/
def step (move : Move) (s : Heap) : Heap :=
  match move with
  | .create address =>
    -- The address is taken as long as anybody refers to the runtime there.
    if s.Occupied address then s
    else
      { roster := { s.roster with
          runtimes := s.roster.runtimes ++ [{}]
          makers := ⟨address, s.roster.runtimes.length⟩ :: s.roster.makers }
        cells := s.cells ++ [⟨address, 1⟩] }
  | .share i =>
    match s.outside? i with
    | some p =>
      { roster := { s.roster with makers := p :: s.roster.makers }, cells := retain i s.cells }
    | none => s
  | .release i =>
    match s.outside? i with
    | some p =>
      { roster := { s.roster with makers := s.roster.makers.erase p }
        cells := dropped [p] s.cells }
    | none => s
  | .disable i on => { s with roster := s.roster.step (.disable i on) }
  | .bind i name =>
    match s.outside? i, s.cells[i]? with
    | some _, some c =>
      { roster := { s.roster with bindings := s.roster.bindings ++ [some ⟨c.address, i, name⟩] }
        cells := retain i s.cells }
    | _, _ => s
  | .drop j =>
    match s.roster.bindings[j]? with
    | some (some b) =>
      { roster := { s.roster with bindings := s.roster.bindings.set j none }
        cells := dropped [b.reference] s.cells }
    | _ => s
  | .attach t j =>
    match s.roster.bindings[j]? with
    | some (some b) => (s.attach t b).2
    | _ => s
  | .exit t => s.exit t

/-- Makes moves. -/
def run (moves : List Move) (s : Heap) : Heap := moves.foldl (fun s move => s.step move) s

/-- A runtime lives at an address. -/
def Alive (i address : Nat) (s : Heap) : Prop :=
  ∃ c, s.cells[i]? = some c ∧ c.address = address ∧ 0 < c.strong

/-! ### Counts -/

/-- One reference more, at its place. -/
theorem getElem?_retain (i j : Nat) (cells : List Cell) :
    (retain i cells)[j]? =
      cells[j]?.map fun c => { c with strong := c.strong + if i = j then 1 else 0 } := by
  rw [retain, List.getElem?_modify]
  by_cases hij : i = j
  · simp [hij]
  · cases cells[j]? <;> simp [hij]

/-- References that are dropped, counted by their places. -/
theorem getElem?_dropped (ps : List Reference) (cells : List Cell) (i : Nat) :
    (dropped ps cells)[i]? =
      cells[i]?.map fun c => { c with strong := c.strong - ps.countP (·.runtime == i) } := by
  induction ps generalizing cells with
  | nil => simp [dropped]
  | cons p ps ih =>
    rw [dropped, List.foldl_cons, ← dropped, ih, List.getElem?_modify, List.countP_cons]
    cases cells[i]? with
    | none => rfl
    | some c =>
      by_cases hi : p.runtime = i
      · simp [hi, Nat.sub_sub, Nat.add_comm]
      · simp [hi]

/-- Dropping references takes no cell away. -/
theorem length_dropped (ps : List Reference) (cells : List Cell) :
    (dropped ps cells).length = cells.length := by
  induction ps generalizing cells with
  | nil => rfl
  | cons p ps ih =>
    rw [dropped, List.foldl_cons, ← dropped, ih, List.length_modify]

/-- Dropping a binding takes one reference away. -/
theorem reduceOption_set_none {bs : List (Option Binding)} {j : Nat} {b : Binding}
    (h : bs[j]? = some (some b)) : bs.reduceOption.Perm (b :: (bs.set j none).reduceOption) := by
  induction bs generalizing j with
  | nil => exact absurd h (by simp)
  | cons x bs ih =>
    cases j with
    | zero =>
      obtain rfl : x = some b := by simpa using h
      simp
    | succ j =>
      have htail := ih (j := j) (by simpa using h)
      cases x with
      | none => simpa using htail
      | some x => simpa using (htail.cons x).trans (.swap b x _)

/-- What is true of runtimes and their memory after any moves. -/
structure Sound (s : Heap) : Prop where
  roster : s.roster.Sound
  length_eq : s.cells.length = s.roster.runtimes.length
  addressed : ∀ p ∈ s.roster.references, ∃ c, s.cells[p.runtime]? = some c ∧ c.address = p.address
  counted : ∀ (i : Nat) (c : Cell), s.cells[i]? = some c →
    c.strong = s.roster.references.countP (·.runtime == i)

variable {s : Heap} {r' : Roster} {t u : ThreadId} {b : Binding} {i j : Nat} {p : Reference}

theorem mem_of_outside? (hp : s.outside? i = some p) :
    p ∈ s.roster.makers ∧ p.runtime = i :=
  ⟨List.mem_of_find?_eq_some hp, by simpa using List.find?_some hp⟩

namespace Sound

theorem empty : Sound {} where
  roster := .empty
  length_eq := rfl
  addressed := by simp [Roster.references]
  counted := by simp

variable (hs : s.Sound)

include hs

/-- What is referred to lives. -/
theorem alive (hp : p ∈ s.roster.references) : s.Alive p.runtime p.address := by
  obtain ⟨c, hc, haddress⟩ := hs.addressed p hp
  refine ⟨c, hc, haddress, ?_⟩
  rw [hs.counted _ c hc, List.countP_pos_iff]
  exact ⟨p, hp, by simp⟩

/-- What lives is referred to. -/
theorem reference_of_alive {address : Nat} (h : s.Alive i address) :
    ⟨address, i⟩ ∈ s.roster.references := by
  obtain ⟨c, hc, rfl, hpos⟩ := h
  rw [hs.counted i c hc, List.countP_pos_iff] at hpos
  obtain ⟨p, hp, hi⟩ := hpos
  obtain rfl : p.runtime = i := by simpa using hi
  obtain ⟨c', hc', haddress⟩ := hs.addressed p hp
  obtain rfl : c' = c := by simpa [hc] using hc'.symm
  rwa [haddress]

/-- An address means one living runtime. -/
theorem unique {address : Nat} (hi : s.Alive i address) (hj : s.Alive j address) : i = j :=
  (hs.roster.unique _ (hs.reference_of_alive hi) _ (hs.reference_of_alive hj)).mp rfl

/-! ### Moves keep the counts -/

/-- References are dropped. -/
theorem drops (ps : List Reference) (hr : r'.Sound)
    (hlength : r'.runtimes.length = s.roster.runtimes.length)
    (hperm : s.roster.references.Perm (ps ++ r'.references)) :
    Sound { roster := r', cells := dropped ps s.cells } where
  roster := hr
  length_eq := by rw [length_dropped, hs.length_eq, hlength]
  addressed p hp := by
    obtain ⟨c, hc, haddress⟩ := hs.addressed p (hperm.mem_iff.mpr (List.mem_append_right ps hp))
    have hget := getElem?_dropped ps s.cells p.runtime
    rw [hc] at hget
    exact ⟨_, hget, haddress⟩
  counted i c' hc' := by
    rw [getElem?_dropped] at hc'
    obtain ⟨c, hc, rfl⟩ := Option.map_eq_some_iff.mp hc'
    show c.strong - _ = _
    rw [hs.counted i c hc, hperm.countP_eq, List.countP_append, Nat.add_sub_cancel_left]

/-- A reference is made to what is referred to already. -/
theorem gains (hp : p ∈ s.roster.references) (hr : r'.Sound)
    (hlength : r'.runtimes.length = s.roster.runtimes.length)
    (hperm : r'.references.Perm (p :: s.roster.references)) :
    Sound { roster := r', cells := retain p.runtime s.cells } where
  roster := hr
  length_eq := by rw [retain, List.length_modify, hs.length_eq, hlength]
  addressed q hq := by
    have hq : q ∈ s.roster.references := by
      rcases List.mem_cons.mp (hperm.mem_iff.mp hq) with rfl | hq
      · exact hp
      · exact hq
    obtain ⟨c, hc, haddress⟩ := hs.addressed q hq
    have hget := getElem?_retain p.runtime q.runtime s.cells
    rw [hc] at hget
    exact ⟨_, hget, haddress⟩
  counted i c' hc' := by
    rw [getElem?_retain] at hc'
    obtain ⟨c, hc, rfl⟩ := Option.map_eq_some_iff.mp hc'
    show c.strong + _ = _
    rw [hs.counted i c hc, hperm.countP_eq, List.countP_cons]
    simp

/-- Nothing is made or dropped. -/
theorem keeps (hr : r'.Sound) (hlength : r'.runtimes.length = s.roster.runtimes.length)
    (hrefs : r'.references = s.roster.references) : Sound { roster := r', cells := s.cells } :=
  hs.drops [] hr hlength (by rw [hrefs]; exact .refl _)

/-- A runtime is made where none lives. -/
theorem create {address : Nat} (hfree : ¬ s.Occupied address) :
    Sound (s.step (.create address)) := by
  have hnone : address ∉ s.roster.references.map Reference.address := by
    intro hmem
    obtain ⟨p, hp, rfl⟩ := List.mem_map.mp hmem
    obtain ⟨c, hc, halive⟩ := hs.alive hp
    exact hfree ⟨c, List.mem_of_getElem? hc, halive⟩
  rw [Heap.step, if_neg hfree]
  refine ⟨hs.roster.create hnone, ?length, fun p hp => ?addressed, fun i c hc => ?counted⟩
  case length => rw [List.length_append, List.length_append, hs.length_eq]; rfl
  case addressed =>
    rcases List.mem_cons.mp hp with rfl | hp
    · exact ⟨⟨address, 1⟩, by rw [← hs.length_eq]; exact List.getElem?_concat_length, rfl⟩
    · obtain ⟨c, hc, haddress⟩ := hs.addressed p hp
      exact ⟨c, by rw [List.getElem?_append_left (List.getElem?_eq_some_iff.mp hc).1, hc],
        haddress⟩
  case counted =>
    show c.strong = List.countP _ (⟨address, s.roster.runtimes.length⟩ :: s.roster.references)
    rw [List.countP_cons]
    by_cases hi : i < s.cells.length
    · rw [List.getElem?_append_left hi] at hc
      have hne : s.roster.runtimes.length ≠ i := by rw [← hs.length_eq]; exact Nat.ne_of_gt hi
      simpa [hne] using hs.counted i c hc
    · -- Nobody has referred to the new place before.
      have hzero : s.roster.references.countP (·.runtime == i) = 0 := by
        rw [List.countP_eq_zero]
        intro p hp
        have := hs.roster.placed p hp
        have := hs.length_eq
        simp only [beq_iff_eq]
        omega
      obtain rfl : i = s.cells.length := by
        have := (List.getElem?_eq_some_iff.mp hc).1
        rw [List.length_append, List.length_singleton] at this
        omega
      obtain rfl : c = ⟨address, 1⟩ := by simpa using hc.symm
      rw [hzero]
      simp [hs.length_eq]

/-- A thread asks for its handle: only a granted one is a reference more. -/
theorem attach (hb : some b ∈ s.roster.bindings) (t : ThreadId) : (s.attach t b).2.Sound := by
  have hsound := hs.roster.attach hb t
  have hlook := hs.roster.handle?_eq hb t
  have hattempt := hs.roster.attempt hb t
  unfold Heap.attach
  generalize s.roster.attach t b = result at hattempt hsound ⊢
  cases hattempt with
  | held here held =>
    simp only [hlook, held, Option.isNone_some, Bool.and_false]
    exact hs
  | refused here unheld found off => exact hs.keeps hsound List.length_set rfl
  | late gone found steady => exact hs.keeps hsound List.length_set rfl
  | granted here unheld found on =>
    simp only [hlook, unheld, Option.isSome_some, Option.isNone_none, Bool.and_self, if_true]
    refine hs.gains (p := b.reference) (Roster.reference_of_binding hb) hsound List.length_set ?_
    unfold Roster.references
    rw [← List.append_assoc, ← List.append_assoc]
    exact List.perm_middle

/-- A thread exits, and drops what it has attached to. -/
theorem exit (t : ThreadId) : (s.exit t).Sound := by
  refine hs.drops _ (hs.roster.exit t) ?length ?perm
  case length =>
    -- Detaches change runtimes in their places.
    have hsame (i : Nat) :
        (s.roster.exit t).runtimes[i]? = none ↔ s.roster.runtimes[i]? = none := by
      rw [Roster.exit_runtimes, Option.map_eq_none_iff]
    simp only [List.getElem?_eq_none_iff] at hsame
    exact Nat.le_antisymm ((hsame _).mpr (Nat.le_refl _)) ((hsame _).mp (Nat.le_refl _))
  case perm =>
    have hsplit : s.roster.attachments.Perm
        (Attachments.ofThread t s.roster.attachments ++ (s.roster.exit t).attachments) :=
      (List.filter_append_perm _ _).symm
    have hentries := hsplit.map Attachment.reference
    rw [List.map_append] at hentries
    calc s.roster.references
        = (s.roster.makers ++ s.roster.bindings.reduceOption.map Binding.reference) ++
            s.roster.attachments.map Attachment.reference := (List.append_assoc ..).symm
      List.Perm _ _ := hentries.append_left _
      List.Perm _ _ := List.perm_append_comm_assoc _ _ _
      _ = _ := by rw [List.append_assoc]; rfl

/-- A reference is made from one outside. -/
theorem share (i : Nat) : (s.step (.share i)).Sound := by
  simp only [Heap.step]
  split
  next p hp =>
    obtain ⟨hmem, rfl⟩ := mem_of_outside? hp
    have hold : p ∈ s.roster.references := Roster.reference_of_maker hmem
    have hsubset : p :: s.roster.references ⊆ s.roster.references :=
      List.cons_subset.mpr ⟨hold, fun _ hq => hq⟩
    exact hs.gains hold (hs.roster.of_references hsubset rfl rfl rfl) rfl (.refl _)
  next => exact hs

/-- A reference outside is given up. -/
theorem release (i : Nat) : (s.step (.release i)).Sound := by
  simp only [Heap.step]
  split
  next p hp =>
    obtain ⟨hmem, -⟩ := mem_of_outside? hp
    have hperm : s.roster.references.Perm
        (p :: Roster.references { s.roster with makers := s.roster.makers.erase p }) :=
      (List.perm_cons_erase hmem).append_right _
    have hsubset := List.subset_of_cons_subset hperm.symm.subset
    exact hs.drops [p] (hs.roster.of_references hsubset rfl rfl rfl) rfl hperm
  next => exact hs

/-- A binding is made, with the address that the memory has for its runtime. -/
theorem bind (i : Nat) (name : String) : (s.step (.bind i name)).Sound := by
  simp only [Heap.step]
  split
  next p c hp hc =>
    obtain ⟨hmem, rfl⟩ := mem_of_outside? hp
    have hold : p ∈ s.roster.references := Roster.reference_of_maker hmem
    -- The binding takes the address from the memory, where the reference has its own from too.
    obtain ⟨c', hc', haddress⟩ := hs.addressed p hold
    obtain rfl : c' = c := by simpa [hc] using hc'.symm
    have hperm : (Roster.references { s.roster with
        bindings := s.roster.bindings ++ [some ⟨c'.address, p.runtime, name⟩] }).Perm
          (p :: s.roster.references) := by
      have hp : Binding.reference ⟨c'.address, p.runtime, name⟩ = p := by
        rw [Binding.reference, haddress]
      simp only [Roster.references, List.reduceOption_append, List.map_append,
        List.reduceOption_singleton, Option.toList_some, List.map_singleton, hp,
        List.append_assoc, List.singleton_append]
      rw [← List.append_assoc, ← List.append_assoc]
      exact List.perm_middle
    refine hs.gains hold (hs.roster.of_references (fun q hq => ?_) rfl rfl rfl) rfl hperm
    rcases List.mem_cons.mp (hperm.mem_iff.mp hq) with rfl | hq
    · exact hold
    · exact hq
  next => exact hs

/-- A binding is dropped. -/
theorem drop (j : Nat) : (s.step (.drop j)).Sound := by
  simp only [Heap.step]
  split
  next b hb =>
    have hperm : s.roster.references.Perm (b.reference ::
        Roster.references { s.roster with bindings := s.roster.bindings.set j none }) := by
      have hbindings := (reduceOption_set_none hb).map Binding.reference
      exact ((hbindings.append_right _).append_left _).trans List.perm_middle
    have hsubset := List.subset_of_cons_subset hperm.symm.subset
    exact hs.drops [b.reference] (hs.roster.of_references hsubset rfl rfl rfl) rfl hperm
  next => exact hs

/-- Each move keeps the counts right. -/
theorem step (move : Move) : (s.step move).Sound := by
  cases move with
  | create address =>
    by_cases hfree : s.Occupied address
    · rw [Heap.step, if_pos hfree]
      exact hs
    · exact hs.create hfree
  | share i => exact hs.share i
  | release i => exact hs.release i
  | disable i on => exact hs.keeps (hs.roster.step (.disable i on)) (List.length_modify ..) rfl
  | bind i name => exact hs.bind i name
  | drop j => exact hs.drop j
  | attach t j =>
    simp only [Heap.step]
    split
    next b hb => exact hs.attach (List.mem_of_getElem? hb) t
    next => exact hs
  | exit t => exact hs.exit t

/-- **A run** keeps the heap sound. -/
theorem run (moves : List Move) : (s.run moves).Sound := by
  induction moves generalizing s with
  | nil => exact hs
  | cons move moves ih => exact ih (hs.step move)

end Sound

/-! ### Threads on record -/

/-- The handle under which a runtime has a thread on record once the thread has done something, from
    the one before: a detach ends it, and an attach issues the next handle. -/
def recorded (before after : Runtime) (h : Option Handle) : Option Handle :=
  if before.detaches < after.detaches then none
  else if before.attaches < after.attaches then some before.nextHandle
  else h

/-- The record of a thread at the runtime at a place, after a move. -/
def recordAfter (t : ThreadId) (i : Nat) (move : Move) (s : Heap) (h : Option Handle) :
    Option Handle :=
  match s.roster.runtimes[i]?, (s.step move).roster.runtimes[i]? with
  | some before, some after => if move.thread? = some t then recorded before after h else h
  | _, _ => h

/-- The same after moves in sequence. -/
def recordFrom (t : ThreadId) (i : Nat) : List Move → Heap → Option Handle → Option Handle
  | [], _, h => h
  | move :: moves, s, h => recordFrom t i moves (s.step move) (s.recordAfter t i move h)

/-- The handle that a runtime has issued to a thread without detaching it since. -/
def onRecord (t : ThreadId) (i : Nat) (moves : List Move) : Option Handle :=
  recordFrom t i moves {} none

/-- What a thread has recorded stays while others move. -/
theorem recordAfter_of_ne {move : Move} (hne : move.thread? ≠ some t) (h : Option Handle) :
    s.recordAfter t i move h = h := by
  unfold recordAfter
  split
  · rw [if_neg hne]
  · rfl

/-- What a thread has recorded after its own move. -/
theorem recordAfter_of_eq {move : Move} {before after : Runtime} (ht : move.thread? = some t)
    (hbefore : s.roster.runtimes[i]? = some before)
    (hafter : (s.step move).roster.runtimes[i]? = some after) (h : Option Handle) :
    s.recordAfter t i move h = recorded before after h := by
  simp only [recordAfter, hbefore, hafter, ht, if_true]

/-- What a move is not about stays on record. -/
theorem recordAfter_of_same {move : Move} (hsame : (s.step move).roster.runtimes[i]? =
    s.roster.runtimes[i]?) (h : Option Handle) : s.recordAfter t i move h = h := by
  unfold recordAfter
  rw [hsame]
  split
  next before after hbefore hafter =>
    obtain rfl : before = after := by simpa [hbefore] using hafter
    simp [recorded]
  next => rfl

theorem recorded_admitted (r : Runtime) (name : String) (h : Option Handle) :
    recorded r (r.admitted name) h = some r.nextHandle := by
  simp [recorded, Runtime.admitted]

/-- Nothing is on record after a detach that makes up for an attach, or after neither. -/
theorem recorded_of_steady {before after : Runtime} (h : before.Steady after) :
    recorded before after none = none := by
  have hbalance := h.balance
  simp only [Runtime.balance] at hbalance
  unfold recorded
  split
  · rfl
  · rw [if_neg (by omega)]

namespace Sound

variable (hs : s.Sound)

include hs

/-- An attach leaves on record what the thread has then. -/
theorem recordAfter_attach (hb : s.roster.bindings[j]? = some (some b)) :
    s.recordAfter t i (.attach t j) (s.roster.held t i) =
      (s.step (.attach t j)).roster.held t i := by
  have hstep : s.step (.attach t j) = (s.attach t b).2 := by simp only [Heap.step, hb]
  have hattempt := hs.roster.attempt (List.mem_of_getElem? hb) t
  by_cases hi : b.runtime = i
  · subst hi
    have hafter : (s.step (.attach t j)).roster = (s.roster.attach t b).2 := by rw [hstep]; rfl
    rw [hafter]
    generalize hr : s.roster.attach t b = result at hattempt hafter ⊢
    cases hattempt with
    | held here held =>
      exact recordAfter_of_same (by rw [hafter]) _
    | @refused r here unheld found off =>
      rw [recordAfter_of_eq rfl found (by rw [hafter]; exact getElem?_set_of_some found), unheld,
        recorded_of_steady (Runtime.steady_asked _ r)]
      exact unheld.symm
    | @granted r here unheld found on =>
      rw [recordAfter_of_eq rfl found (by rw [hafter]; exact getElem?_set_of_some found),
        recorded_admitted, Roster.held, Roster.entries_of_cons (s := s.roster) rfl, if_pos rfl]
      simp
    | @late r x gone found steady =>
      -- A thread that is gone has no entries.
      have hnone : s.roster.held t b.runtime = none := by
        rw [Roster.held_eq_none_iff]
        intro hmem
        obtain ⟨a, ha, rfl⟩ := List.mem_map.mp hmem
        exact hs.roster.present a (List.mem_of_mem_filter ha) gone
      rw [recordAfter_of_eq rfl found (by rw [hafter]; exact getElem?_set_of_some found), hnone,
        recorded_of_steady steady]
      exact hnone.symm
  · have hheld := hs.roster.held_attach (t := t) (u := t) (i := i) (List.mem_of_getElem? hb)
      fun _ heq => absurd heq hi
    rw [hstep]
    show _ = (s.roster.attach t b).2.held t i
    rw [hheld]
    refine recordAfter_of_same ?_ _
    rw [hstep]
    show (s.roster.attach t b).2.runtimes[i]? = _
    generalize s.roster.attach t b = result at hattempt
    cases hattempt with
    | held here held => rfl
    | refused | granted | late => exact List.getElem?_set_ne hi

/-- What a thread has recorded goes with its exit. -/
theorem recordAfter_exit :
    s.recordAfter t i (.exit t) (s.roster.held t i) = (s.step (.exit t)).roster.held t i := by
  have hafter : (s.step (.exit t)).roster.held t i = none := Roster.held_exit_self t i s.roster
  rw [hafter]
  cases hr : s.roster.runtimes[i]? with
  | none =>
    -- Entries are for runtimes that exist.
    have hnone : s.roster.held t i = none := by
      rw [Roster.held_eq_none_iff]
      intro hmem
      obtain ⟨a, ha, -⟩ := List.mem_map.mp hmem
      obtain ⟨ha, hi⟩ := List.mem_filter.mp ha
      have hplaced := hs.roster.placed _ (Roster.reference_of_attachment ha)
      rw [List.getElem?_eq_none_iff] at hr
      obtain rfl : a.runtime = i := by simpa using hi
      exact absurd hplaced (Nat.not_lt.mpr hr)
    rw [hnone, recordAfter, hr]
  | some r =>
    have hleft : (s.step (.exit t)).roster.runtimes[i]? = some _ := hs.roster.detaches_exit hr t
    rw [recordAfter_of_eq rfl hr hleft, recorded]
    by_cases hmem : t ∈ s.roster.holders i
    · rw [if_pos (by simp [hmem])]
    · rw [if_neg (by simp [hmem]), if_neg (Nat.lt_irrefl _), Roster.held_eq_none_iff]
      exact hmem

/-- A thread's entries change with its own moves only. -/
theorem held_step_of_ne {move : Move} (hne : move.thread? ≠ some t) :
    (s.step move).roster.held t i = s.roster.held t i := by
  have hsame (h : (s.step move).roster.attachments = s.roster.attachments) :
      (s.step move).roster.held t i = s.roster.held t i := Roster.held_of_attachments h t i
  cases move with
  | create address =>
    refine hsame ?_
    simp only [Heap.step]
    split <;> rfl
  | share i | release i | bind i | drop j =>
    refine hsame ?_
    simp only [Heap.step]
    split <;> rfl
  | disable i on => exact hsame rfl
  | attach u j =>
    simp only [Heap.step]
    split
    next b hb =>
      refine hs.roster.held_attach (List.mem_of_getElem? hb) fun hut _ => ?_
      exact absurd (congrArg some hut) hne
    next => rfl
  | exit u => exact Roster.held_exit_of_ne (fun htu => hne (congrArg some htu.symm)) i s.roster

/-- What a runtime has on record is what the thread's entry says. -/
theorem recordAfter_step (move : Move) :
    s.recordAfter t i move (s.roster.held t i) = (s.step move).roster.held t i := by
  by_cases ht : move.thread? = some t
  · cases move with
    | attach u j =>
      obtain rfl : u = t := by simpa [Move.thread?] using ht
      by_cases hb : ∃ b, s.roster.bindings[j]? = some (some b)
      · obtain ⟨b, hb⟩ := hb
        exact hs.recordAfter_attach hb
      · have hstep : s.step (.attach u j) = s := by
          simp only [Heap.step]
          split
          next b hb' => exact absurd ⟨b, hb'⟩ hb
          next => rfl
        rw [recordAfter_of_same (by rw [hstep]), hstep]
    | exit u =>
      obtain rfl : u = t := by simpa [Move.thread?] using ht
      exact hs.recordAfter_exit
    | create | share | release | disable | bind | drop => exact absurd ht (by simp [Move.thread?])
  · rw [recordAfter_of_ne ht]
    exact (hs.held_step_of_ne ht).symm

/-- The same after any moves. -/
theorem recordFrom_run (moves : List Move) :
    recordFrom t i moves s (s.roster.held t i) = (s.run moves).roster.held t i := by
  induction moves generalizing s with
  | nil => rfl
  | cons move moves ih =>
    rw [recordFrom, hs.recordAfter_step move]
    exact ih (hs.step move)

/-- An entry holds what its runtime has on record. -/
theorem held_of_mem {a : Attachment} (ha : a ∈ s.roster.attachments) :
    s.roster.held a.thread a.runtime = some a.handle := by
  have hentry : a ∈ s.roster.entries a.runtime := List.mem_filter.mpr ⟨ha, by simp⟩
  cases hheld : s.roster.held a.thread a.runtime with
  | none =>
    rw [Roster.held_eq_none_iff] at hheld
    exact absurd (List.mem_map_of_mem hentry) hheld
  | some h =>
    obtain ⟨a', ha', hthread, rfl⟩ := Roster.mem_of_held hheld
    rw [List.inj_on_of_nodup_map (hs.roster.single a.runtime) ha' hentry hthread]

end Sound

theorem onRecord_eq (t : ThreadId) (i : Nat) (moves : List Move) :
    onRecord t i moves = (run moves {}).roster.held t i := Sound.empty.recordFrom_run moves

end Heap

/-- **An attachment is never taken for another runtime's.**  Whatever has happened to runtimes,
    bindings and threads, and wherever memory has been used again: a handle that a binding answers
    is on record for the calling thread with the binding's own runtime, and for no other thread.
    What an entry or a binding has as its address is where its runtime lives, and no other runtime
    lives there; the entry's handle is on record.  A runtime lives exactly as long as it is referred
    to. -/
theorem attachments_own_runtime (moves : List Heap.Move) :
    let s := Heap.run moves {}
    (∀ (t : ThreadId) (j : Nat) (b : Binding) (h : Handle),
      s.roster.bindings[j]? = some (some b) → (s.attach t b).1 = some h →
        Heap.onRecord t b.runtime (moves ++ [.attach t j]) = some h ∧
          ∀ u, u ≠ t → Heap.onRecord u b.runtime (moves ++ [.attach t j]) ≠ some h) ∧
    (∀ a ∈ s.roster.attachments,
      s.Alive a.runtime a.address ∧ (∀ i, s.Alive i a.address → i = a.runtime) ∧
        Heap.onRecord a.thread a.runtime moves = some a.handle) ∧
    (∀ b, some b ∈ s.roster.bindings →
      s.Alive b.runtime b.address ∧ ∀ i, s.Alive i b.address → i = b.runtime) ∧
    (∀ i address, s.Alive i address ↔ ⟨address, i⟩ ∈ s.roster.references) := by
  intro s
  have hs : s.Sound := Heap.Sound.empty.run moves
  refine ⟨fun t j b h hj hh => ?answered, fun a ha => ?entry, fun b hb => ?binding,
    fun i address => ⟨hs.reference_of_alive, fun h => hs.alive h⟩⟩
  case answered =>
    have hb : some b ∈ s.roster.bindings := List.mem_of_getElem? hj
    -- To attach is the last move of a run, so that the invariant speaks of what is on record then.
    have hrun : Heap.run (moves ++ [.attach t j]) {} = (s.attach t b).2 := by
      show List.foldl _ _ _ = _
      rw [List.foldl_append]
      show s.step (.attach t j) = _
      simp only [Heap.step, hj]
    have hheld : (s.attach t b).2.roster.held t b.runtime = some h :=
      hs.roster.held_of_attach hb hh
    simp only [Heap.onRecord_eq, hrun]
    -- No other thread has this handle at the runtime.
    refine ⟨hheld, fun u hne hu => ?_⟩
    exact (hs.attach hb t).roster.handle_ne hne hu hheld rfl
  case entry =>
    have halive := hs.alive (Roster.reference_of_attachment ha)
    refine ⟨halive, fun i hi => hs.unique hi halive, ?_⟩
    rw [Heap.onRecord_eq]
    exact hs.held_of_mem ha
  case binding =>
    have halive := hs.alive (Roster.reference_of_binding hb)
    exact ⟨halive, fun i hi => hs.unique hi halive⟩

/-- A runtime at address 7 is freed once its last thread exits, and another one is made there.  The
    thread that has stayed is attached to the new runtime as to a stranger; the runtime at address 9
    is still alive, so that nothing is made there. -/
theorem attachments_own_runtime_reused :
    let moves : List Heap.Move :=
      [.create 7, .bind 0 "A", .create 9, .bind 1 "B", .attach .control 1, .attach (.worker "W") 0,
       .release 0, .drop 0, .create 7, .exit (.worker "W"), .create 7, .create 9, .bind 2 "C",
       .attach .control 1]
    let s := Heap.run moves {}
    s.cells = [⟨7, 0⟩, ⟨9, 3⟩, ⟨7, 2⟩] ∧
    s.roster.bindings[2]? = some (some ⟨7, 2, "C"⟩) ∧
    (s.attach .control ⟨7, 2, "C"⟩).1 = some 1 ∧
    Heap.onRecord .control 2 (moves ++ [.attach .control 2]) = some 1 ∧
    Heap.onRecord (.worker "W") 0 moves = none ∧
    Heap.onRecord .control 1 moves = some 1 := by
  intro moves s
  have hj : s.roster.bindings[2]? = some (some ⟨7, 2, "C"⟩) := by decide +kernel
  have hh : (s.attach .control ⟨7, 2, "C"⟩).1 = some 1 := by decide +kernel
  obtain ⟨hanswered, -⟩ := attachments_own_runtime moves
  exact ⟨by decide +kernel, hj, hh, (hanswered .control 2 _ 1 hj hh).1, by decide +kernel,
    by decide +kernel⟩

end DepthRelay
