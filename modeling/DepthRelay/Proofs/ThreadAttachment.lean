import DepthRelay.Host.Attachment
import DepthRelay.Proofs.Places
import Mathlib.Data.List.Find
import Mathlib.Data.List.Nodup
import Mathlib.Data.List.ReduceOption

namespace DepthRelay

/-!
# Threads that attach and exit

Runtimes and bindings to them are made and dropped, and threads attach through the bindings and
exit, in any order.  A runtime stays where it is for as long as anything refers to it, and its
address is free for another one after that.

* `Roster` — runtimes, bindings, threads and what they refer to; `Roster.step` makes one *change*.
  All that an attach shares with other threads are the numbers of the runtime, so that it is one
  change.
* `Attempt` — everything that an attach can do; `Roster.Sound.attempt` says that it does.
* `Roster.Sound` — what is true after every change (`Roster.Sound.step`): an address means one
  runtime, a thread has at most one entry for it, each with a handle of its own, and the entries
  make up the balance of attaches and detaches.
* `held_step` — a thread's entry changes with its own attaches and its exit only.
* `thread_attachment` — attachments are balanced, kept, told apart, asked for again after a refusal,
  and ended with the thread.
-/

/-! ### Counters of a runtime -/

namespace Runtime

/-- Attaches that no detach has followed yet. -/
def balance (r : Runtime) : Int := r.attaches - r.detaches

/-- A runtime that has been asked to attach a thread. -/
def asked (name : String) (r : Runtime) : Runtime := { r with attempts := r.attempts ++ [name] }

/-- A runtime that has attached a thread. -/
def admitted (name : String) (r : Runtime) : Runtime :=
  { r with
    attempts := r.attempts ++ [name]
    nextHandle := r.nextHandle + 1
    attaches := r.attaches + 1 }

theorem balance_admitted (name : String) (r : Runtime) :
    (r.admitted name).balance = r.balance + 1 := by
  simp only [balance, admitted]
  omega

theorem balance_detach (r : Runtime) : r.detach.balance = r.balance - 1 := by
  simp only [balance, detach]
  omega

theorem attach_refused {r : Runtime} (name : String) (h : r.attachDisabled = true) :
    r.attach name = (.error (.attachFailed "attach disabled"), r.asked name) := by
  simp [attach, asked, h]

theorem attach_granted {r : Runtime} (name : String) (h : r.attachDisabled = false) :
    r.attach name = (.ok r.nextHandle, r.admitted name) := by
  simp [attach, admitted, h]

/-- Runtimes between which threads may have come and gone again. -/
structure Steady (r r' : Runtime) : Prop where
  issued : r.nextHandle ≤ r'.nextHandle
  balance : r'.balance = r.balance

theorem Steady.refl (r : Runtime) : Steady r r := ⟨Nat.le_refl _, rfl⟩

theorem steady_asked (name : String) (r : Runtime) : Steady r (r.asked name) := ⟨Nat.le_refl _, rfl⟩

/-- An attachment that is taken back at once leaves the balance as it was. -/
theorem steady_admitted_detach (name : String) (r : Runtime) :
    Steady r (r.admitted name).detach where
  issued := Nat.le_succ _
  balance := by
    rw [balance_detach, balance_admitted]
    omega

end Runtime

namespace Attachments

variable {t : ThreadId} {b : Binding} {as : Attachments} {runtimes : List Runtime} {r : Runtime}
  {h : Handle}

theorem attach_held (hheld : as.handle? t b.address = some h) :
    as.attach t b runtimes = (some h, as, runtimes) := by
  simp [attach, hheld]

/-- A host that refuses has been asked, and no more. -/
theorem attach_refused (hnone : as.handle? t b.address = none) (hr : runtimes[b.runtime]? = some r)
    (hoff : r.attachDisabled = true) :
    as.attach t b runtimes = (none, as, runtimes.set b.runtime (r.asked b.threadName)) := by
  simp [attach, hnone, hr, Runtime.attach_refused _ hoff]

/-- A host that agrees hands out its next handle. -/
theorem attach_granted (hnone : as.handle? t b.address = none) (hr : runtimes[b.runtime]? = some r)
    (hon : r.attachDisabled = false) :
    as.attach t b runtimes = (some r.nextHandle, ⟨t, b.address, b.runtime, r.nextHandle⟩ :: as,
      runtimes.set b.runtime (r.admitted b.threadName)) := by
  simp [attach, hnone, hr, Runtime.attach_granted _ hon]

/-- A late attachment changes a runtime to a steady one, and is refused. -/
theorem attachLate_cases (hr : runtimes[b.runtime]? = some r) :
    ∃ r', r.Steady r' ∧ attachLate b runtimes = (none, runtimes.set b.runtime r') := by
  cases hoff : r.attachDisabled with
  | true =>
    refine ⟨r.asked b.threadName, Runtime.steady_asked _ r, ?_⟩
    simp [attachLate, hr, Runtime.attach_refused _ hoff]
  | false =>
    refine ⟨(r.admitted b.threadName).detach, Runtime.steady_admitted_detach _ r, ?_⟩
    simp [attachLate, hr, Runtime.attach_granted _ hoff]

/-- The detaches that a runtime sees when entries are dropped. -/
theorem getElem?_foldl_detach (entries : Attachments) (runtimes : List Runtime) (i : Nat) :
    (entries.foldl (fun rs a => rs.modify a.runtime Runtime.detach) runtimes)[i]?
      = runtimes[i]?.map fun r =>
          { r with detaches := r.detaches + entries.countP (·.runtime == i) } := by
  induction entries generalizing runtimes with
  | nil => simp
  | cons a entries ih =>
    rw [List.foldl_cons, ih, List.getElem?_modify, List.countP_cons]
    cases runtimes[i]? with
    | none => rfl
    | some r =>
      by_cases hi : a.runtime = i
      · simp [hi, Runtime.detach]
        omega
      · simp [hi]

end Attachments

/-! ### The roster -/

/-- A reference to a runtime. -/
structure Reference where
  address : Nat
  runtime : Nat
  deriving DecidableEq, Repr

/-- What a binding refers to. -/
def Binding.reference (b : Binding) : Reference := ⟨b.address, b.runtime⟩

/-- What an entry refers to. -/
def Attachment.reference (a : Attachment) : Reference := ⟨a.address, a.runtime⟩

/-- Runtimes, bindings and threads. -/
structure Roster where
  runtimes : List Runtime := []
  /-- References of those who have made the runtimes. -/
  makers : List Reference := []
  /-- The bindings that have been made; a dropped one leaves its place empty. -/
  bindings : List (Option Binding) := []
  attachments : Attachments := []
  /-- Threads that have torn down their entries. -/
  gone : List ThreadId := []

/-- What may happen to a roster. -/
inductive Change
  /-- A runtime is made at an address. -/
  | create (address : Nat)
  /-- The maker of a runtime lets go of it. -/
  | release (runtime : Nat)
  /-- A runtime is told to refuse threads, or to accept them again. -/
  | disable (runtime : Nat) (on : Bool)
  | bind (runtime : Nat) (threadName : String)
  | drop (binding : Nat)
  | attach (t : ThreadId) (binding : Nat)
  | exit (t : ThreadId)
  deriving DecidableEq

namespace Roster

/-- Everything that refers to a runtime. -/
def references (s : Roster) : List Reference :=
  s.makers ++ (s.bindings.reduceOption.map Binding.reference ++
    s.attachments.map Attachment.reference)

/-- The entries for a runtime. -/
def entries (i : Nat) (s : Roster) : Attachments := s.attachments.filter (·.runtime == i)

/-- The threads that have an entry for a runtime. -/
def holders (i : Nat) (s : Roster) : List ThreadId := (s.entries i).map Attachment.thread

/-- The handle that a thread has for a runtime. -/
def held (t : ThreadId) (i : Nat) (s : Roster) : Option Handle :=
  ((s.entries i).find? (·.thread == t)).map Attachment.handle

/-- A thread asks for its handle. -/
def attach (t : ThreadId) (b : Binding) (s : Roster) : Option Handle × Roster :=
  if t ∈ s.gone then
    let (h, runtimes) := Attachments.attachLate b s.runtimes
    (h, { s with runtimes := runtimes })
  else
    let (h, attachments, runtimes) := s.attachments.attach t b s.runtimes
    (h, { s with attachments := attachments, runtimes := runtimes })

/-- A thread exits. -/
def exit (t : ThreadId) (s : Roster) : Roster :=
  let (attachments, runtimes) := s.attachments.exit t s.runtimes
  { s with attachments := attachments, runtimes := runtimes, gone := t :: s.gone }

/-- Makes a change.  A runtime is made where no other one is, and bound by those who refer to it;
    what nobody can do leaves everything as it is. -/
def step (change : Change) (s : Roster) : Roster :=
  match change with
  | .create address =>
    if address ∈ s.references.map Reference.address then s
    else { s with
      runtimes := s.runtimes ++ [{}]
      makers := ⟨address, s.runtimes.length⟩ :: s.makers }
  | .release i => { s with makers := s.makers.filter (·.runtime != i) }
  | .disable i on =>
    { s with runtimes := s.runtimes.modify i fun r => { r with attachDisabled := on } }
  | .bind i name =>
    match s.makers.find? (·.runtime == i) with
    | some maker =>
      { s with bindings := s.bindings ++ [some ⟨maker.address, maker.runtime, name⟩] }
    | none => s
  | .drop j => { s with bindings := s.bindings.set j none }
  | .attach t j =>
    match s.bindings[j]? with
    | some (some b) => (s.attach t b).2
    | _ => s
  | .exit t => s.exit t

/-- Makes changes. -/
def run (changes : List Change) (s : Roster) : Roster :=
  changes.foldl (fun s change => s.step change) s

variable {s s' : Roster} {t u : ThreadId} {b : Binding} {i : Nat} {h : Handle}

/-- References are those of makers, of bindings and of attachments. -/
theorem mem_references {p : Reference} :
    p ∈ s.references ↔ p ∈ s.makers ∨ (∃ b, some b ∈ s.bindings ∧ b.reference = p) ∨
      ∃ a ∈ s.attachments, a.reference = p := by
  simp [references, List.reduceOption_mem_iff]

theorem reference_of_binding (hb : some b ∈ s.bindings) : b.reference ∈ s.references :=
  mem_references.mpr (.inr (.inl ⟨b, hb, rfl⟩))

theorem reference_of_attachment {a : Attachment} (ha : a ∈ s.attachments) :
    a.reference ∈ s.references :=
  mem_references.mpr (.inr (.inr ⟨a, ha, rfl⟩))

theorem reference_of_maker {p : Reference} (hp : p ∈ s.makers) : p ∈ s.references :=
  mem_references.mpr (.inl hp)

/-- Nothing new is referred to if runtimes, bindings and entries refer to nothing new. -/
theorem references_subset (hmakers : ∀ p ∈ s'.makers, p ∈ s.references)
    (hbindings : ∀ b, some b ∈ s'.bindings → b.reference ∈ s.references)
    (hattachments : ∀ a ∈ s'.attachments, a.reference ∈ s.references) :
    s'.references ⊆ s.references := by
  intro p hp
  rcases mem_references.mp hp with hp | ⟨b, hb, rfl⟩ | ⟨a, ha, rfl⟩
  · exact hmakers p hp
  · exact hbindings b hb
  · exact hattachments a ha

theorem held_eq_none_iff : s.held t i = none ↔ t ∉ s.holders i := by
  simp [held, holders]

/-- A handle that is held is one of the entries. -/
theorem mem_of_held (hheld : s.held t i = some h) :
    ∃ a ∈ s.entries i, a.thread = t ∧ a.handle = h := by
  obtain ⟨a, ha, rfl⟩ := Option.map_eq_some_iff.mp hheld
  exact ⟨a, List.mem_of_find?_eq_some ha, by simpa using List.find?_some ha, rfl⟩

theorem entries_of_attachments (hatt : s'.attachments = s.attachments) (i : Nat) :
    s'.entries i = s.entries i := by
  rw [entries, entries, hatt]

theorem held_of_attachments (hatt : s'.attachments = s.attachments) (t : ThreadId) (i : Nat) :
    s'.held t i = s.held t i := by
  rw [held, held, entries_of_attachments hatt]

theorem entries_of_cons {a : Attachment} (hatt : s'.attachments = a :: s.attachments) (i : Nat) :
    s'.entries i = if a.runtime = i then a :: s.entries i else s.entries i := by
  simp [entries, hatt, List.filter_cons]

/-- One entry more for a runtime, of which something is not found with the others. -/
theorem nodup_of_cons {β : Type} {f : Attachment → β} {a : Attachment}
    (hatt : s'.attachments = a :: s.attachments)
    (hnodup : ∀ i, ((s.entries i).map f).Nodup)
    (hnew : ∀ x ∈ s.entries a.runtime, f x ≠ f a) (i : Nat) : ((s'.entries i).map f).Nodup := by
  rw [entries_of_cons hatt]
  by_cases hi : a.runtime = i
  · subst hi
    rw [if_pos rfl, List.map_cons, List.nodup_cons]
    refine ⟨fun hmem => ?_, hnodup _⟩
    obtain ⟨x, hx, heq⟩ := List.mem_map.mp hmem
    exact hnew x hx heq
  · rw [if_neg hi]
    exact hnodup i

theorem exit_attachments (t : ThreadId) (s : Roster) :
    (s.exit t).attachments = s.attachments.filter (·.thread != t) := rfl

theorem entries_exit (t : ThreadId) (i : Nat) (s : Roster) :
    (s.exit t).entries i = (s.entries i).filter (·.thread != t) := by
  rw [entries, entries, exit_attachments, List.filter_comm]

theorem held_exit_self (t : ThreadId) (i : Nat) (s : Roster) : (s.exit t).held t i = none := by
  rw [held_eq_none_iff, holders, entries_exit]
  simp

/-- The exit of another thread takes no entry away. -/
theorem held_exit_of_ne (hne : u ≠ t) (i : Nat) (s : Roster) :
    (s.exit t).held u i = s.held u i := by
  rw [held, held, entries_exit, List.find?_filter]
  congr 1
  apply List.find?_congr
  intro a _
  by_cases ha : a.thread = u
  · simp [ha, hne]
  · simp [ha]

/-- The detaches of a thread that exits are its entries. -/
theorem exit_runtimes (t : ThreadId) (s : Roster) (i : Nat) :
    (s.exit t).runtimes[i]? = s.runtimes[i]?.map fun r =>
      { r with detaches := r.detaches + (s.entries i).countP (·.thread == t) } := by
  have hcount : (Attachments.ofThread t s.attachments).countP (·.runtime == i)
      = (s.entries i).countP (·.thread == t) := by
    rw [Attachments.ofThread, entries, List.countP_filter, List.countP_filter]
    simp only [Bool.and_comm]
  rw [← hcount]
  exact Attachments.getElem?_foldl_detach _ _ i

end Roster

/-! ### What an attach can do -/

open Roster

/-- What an attach through a binding answers, and what it leaves. -/
inductive Attempt (t : ThreadId) (b : Binding) (s : Roster) : Option Handle × Roster → Prop
  | held {h : Handle} (here : t ∉ s.gone) (held : s.held t b.runtime = some h) :
      Attempt t b s (some h, s)
  | refused {r : Runtime} (here : t ∉ s.gone) (unheld : s.held t b.runtime = none)
      (found : s.runtimes[b.runtime]? = some r) (off : r.attachDisabled = true) :
      Attempt t b s (none,
        { s with runtimes := s.runtimes.set b.runtime (r.asked b.threadName) })
  | granted {r : Runtime} (here : t ∉ s.gone) (unheld : s.held t b.runtime = none)
      (found : s.runtimes[b.runtime]? = some r) (on : r.attachDisabled = false) :
      Attempt t b s (some r.nextHandle,
        { s with
          attachments := ⟨t, b.address, b.runtime, r.nextHandle⟩ :: s.attachments
          runtimes := s.runtimes.set b.runtime (r.admitted b.threadName) })
  | late {r r' : Runtime} (gone : t ∈ s.gone) (found : s.runtimes[b.runtime]? = some r)
      (steady : r.Steady r') :
      Attempt t b s (none, { s with runtimes := s.runtimes.set b.runtime r' })

namespace Roster

variable {s s' : Roster} {t u : ThreadId} {b : Binding} {i : Nat} {h k : Handle}
  {change : Change}

/-- What is true of a roster after any changes. -/
structure Sound (s : Roster) : Prop where
  placed : ∀ p ∈ s.references, p.runtime < s.runtimes.length
  /-- An address means one runtime for as long as there are references to it. -/
  unique : ∀ p ∈ s.references, ∀ q ∈ s.references, p.address = q.address ↔ p.runtime = q.runtime
  present : ∀ a ∈ s.attachments, a.thread ∉ s.gone
  /-- A thread has one entry for a runtime at most. -/
  single : ∀ i, (s.holders i).Nodup
  distinct : ∀ i, ((s.entries i).map Attachment.handle).Nodup
  /-- Handles are below the next one. -/
  issued : ∀ i r, s.runtimes[i]? = some r → ∀ a ∈ s.entries i, a.handle < r.nextHandle
  balanced : ∀ i (r : Runtime), s.runtimes[i]? = some r → r.balance = (s.holders i).length

namespace Sound

/-- Nothing has happened yet. -/
theorem empty : Sound {} where
  placed := by simp [references]
  unique := by simp [references]
  present := by simp
  single := by simp [holders, entries]
  distinct := by simp [entries]
  issued := by simp
  balanced := by simp

variable (hs : s.Sound)

include hs

theorem found (hb : some b ∈ s.bindings) : ∃ r, s.runtimes[b.runtime]? = some r :=
  ⟨_, List.getElem?_eq_getElem (hs.placed _ (reference_of_binding hb))⟩

/-- A new runtime has no entries. -/
theorem runtime_cases {r new : Runtime} (hr : (s.runtimes ++ [new])[i]? = some r) :
    s.runtimes[i]? = some r ∨ s.entries i = [] ∧ r = new := by
  by_cases hi : i < s.runtimes.length
  · rw [List.getElem?_append_left hi] at hr
    exact .inl hr
  · rw [List.getElem?_append_right (Nat.le_of_not_lt hi)] at hr
    refine .inr ⟨List.filter_eq_nil_iff.mpr fun a ha => ?_,
      List.mem_singleton.mp (List.mem_of_getElem? hr)⟩
    have : a.runtime < s.runtimes.length := hs.placed _ (reference_of_attachment ha)
    simp only [beq_iff_eq]
    omega

/-- An entry is found by the address of its runtime. -/
theorem handle?_eq (hb : some b ∈ s.bindings) (t : ThreadId) :
    s.attachments.handle? t b.address = s.held t b.runtime := by
  rw [Attachments.handle?, held, entries, List.find?_filter]
  congr 1
  apply List.find?_congr
  intro a ha
  have hiff : a.address = b.address ↔ a.runtime = b.runtime :=
    hs.unique _ (reference_of_attachment ha) _ (reference_of_binding hb)
  by_cases hat : a.thread = t <;> by_cases hab : a.runtime = b.runtime <;> simp [hat, hab, hiff]

/-- An attach does one of four things. -/
theorem attempt (hb : some b ∈ s.bindings) (t : ThreadId) : Attempt t b s (s.attach t b) := by
  obtain ⟨r, hr⟩ := hs.found hb
  unfold attach
  by_cases hgone : t ∈ s.gone
  · obtain ⟨r', hsteady, heq⟩ := Attachments.attachLate_cases hr
    rw [if_pos hgone, heq]
    exact .late hgone hr hsteady
  rw [if_neg hgone]
  have hlook := hs.handle?_eq hb t
  cases hheld : s.held t b.runtime with
  | some h =>
    rw [Attachments.attach_held (hlook.trans hheld)]
    exact .held hgone hheld
  | none =>
    cases hoff : r.attachDisabled with
    | true =>
      rw [Attachments.attach_refused (hlook.trans hheld) hr hoff]
      exact .refused hgone hheld hr hoff
    | false =>
      rw [Attachments.attach_granted (hlook.trans hheld) hr hoff]
      exact .granted hgone hheld hr hoff

/-! ### The invariant is kept -/

/-- Changes that leave the entries and the balances alone. -/
theorem of_steady (hrefs : s'.references ⊆ s.references) (hatt : s'.attachments = s.attachments)
    (hgone : s'.gone = s.gone) (hlength : s'.runtimes.length = s.runtimes.length)
    (hsteady : ∀ (i : Nat) (r' : Runtime), s'.runtimes[i]? = some r' →
      ∃ r : Runtime, s.runtimes[i]? = some r ∧ r.Steady r') : s'.Sound where
  placed p hp := hlength ▸ hs.placed p (hrefs hp)
  unique p hp q hq := hs.unique p (hrefs hp) q (hrefs hq)
  present a ha := hgone ▸ hs.present a (hatt ▸ ha)
  single i := by
    rw [holders, entries_of_attachments hatt]
    exact hs.single i
  distinct i := by
    rw [entries_of_attachments hatt]
    exact hs.distinct i
  issued i r' hr' a ha := by
    obtain ⟨r, hr, hsteady⟩ := hsteady i r' hr'
    rw [entries_of_attachments hatt] at ha
    exact Nat.lt_of_lt_of_le (hs.issued i r hr a ha) hsteady.issued
  balanced i r' hr' := by
    obtain ⟨r, hr, hsteady⟩ := hsteady i r' hr'
    rw [holders, entries_of_attachments hatt, hsteady.balance]
    exact hs.balanced i r hr

/-- A change of references only. -/
theorem of_references (hrefs : s'.references ⊆ s.references) (hatt : s'.attachments = s.attachments)
    (hgone : s'.gone = s.gone) (hruntimes : s'.runtimes = s.runtimes) : s'.Sound :=
  hs.of_steady hrefs hatt hgone (by rw [hruntimes])
    fun i r hr => ⟨r, hruntimes ▸ hr, Runtime.Steady.refl r⟩

/-- A steady change of one runtime. -/
theorem of_set {r r' : Runtime} (found : s.runtimes[i]? = some r) (hsteady : r.Steady r') :
    Sound { s with runtimes := s.runtimes.set i r' } := by
  refine hs.of_steady (fun p hp => hp) rfl rfl List.length_set fun j x hx => ?_
  rcases getElem?_set_cases hx with ⟨rfl, rfl⟩ | ⟨-, hx⟩
  · exact ⟨r, found, hsteady⟩
  · exact ⟨x, hx, Runtime.Steady.refl x⟩

/-- A runtime is made where no other one is. -/
theorem create {address : Nat} (hfree : address ∉ s.references.map Reference.address) :
    Sound { s with
      runtimes := s.runtimes ++ [{}]
      makers := ⟨address, s.runtimes.length⟩ :: s.makers } where
  placed p hp := by
    rw [List.length_append]
    rcases List.mem_cons.mp hp with rfl | hp
    · exact Nat.lt_succ_self _
    · exact Nat.lt_succ_of_lt (hs.placed p hp)
  unique p hp q hq := by
    -- The new reference differs from all others in both respects.
    have hnew : ∀ p ∈ s.references, p.address ≠ address ∧ p.runtime ≠ s.runtimes.length :=
      fun p hp => ⟨fun heq => hfree (heq ▸ List.mem_map_of_mem hp), Nat.ne_of_lt (hs.placed p hp)⟩
    rcases List.mem_cons.mp hp with rfl | hp <;> rcases List.mem_cons.mp hq with rfl | hq
    · simp
    · have hq := hnew q hq
      simp [hq.1.symm, hq.2.symm]
    · simp [hnew p hp]
    · exact hs.unique p hp q hq
  present := hs.present
  single := hs.single
  distinct := hs.distinct
  issued i r hr a ha := by
    rcases hs.runtime_cases hr with hr | ⟨hnil, -⟩
    · exact hs.issued i r hr a ha
    · exact absurd (hnil ▸ ha) List.not_mem_nil
  balanced i r hr := by
    rcases hs.runtime_cases hr with hr | ⟨hnil, rfl⟩
    · exact hs.balanced i r hr
    · change _ = ((((s.entries i).map Attachment.thread).length : Nat) : Int)
      rw [hnil]
      rfl

/-- A thread that has no entry for a runtime gets one. -/
theorem grant {r : Runtime} (hb : some b ∈ s.bindings) (here : t ∉ s.gone)
    (unheld : s.held t b.runtime = none) (found : s.runtimes[b.runtime]? = some r) :
    Sound { s with
      attachments := ⟨t, b.address, b.runtime, r.nextHandle⟩ :: s.attachments
      runtimes := s.runtimes.set b.runtime (r.admitted b.threadName) } := by
  let a : Attachment := ⟨t, b.address, b.runtime, r.nextHandle⟩
  let s' : Roster := { s with
    attachments := a :: s.attachments
    runtimes := s.runtimes.set b.runtime (r.admitted b.threadName) }
  have hcons : ∀ i, s'.entries i = if a.runtime = i then a :: s.entries i else s.entries i :=
    entries_of_cons rfl
  -- The entry refers to what the binding refers to.
  have hrefs : s'.references ⊆ s.references :=
    references_subset (fun _ hp => reference_of_maker hp) (fun _ hb => reference_of_binding hb)
      fun a' ha' => by
        rcases List.mem_cons.mp ha' with rfl | ha'
        · exact reference_of_binding hb
        · exact reference_of_attachment ha'
  refine Sound.mk (fun p hp => ?placed) (fun p hp q hq => ?unique) (fun a' ha' => ?present)
    (fun i => ?single) (fun i => ?distinct) (fun i x hx a' ha' => ?issued) (fun i x hx => ?balanced)
  case placed =>
    rw [List.length_set]
    exact hs.placed p (hrefs hp)
  case unique => exact hs.unique p (hrefs hp) q (hrefs hq)
  case present =>
    rcases List.mem_cons.mp ha' with rfl | ha'
    · exact here
    · exact hs.present a' ha'
  case single =>
    refine nodup_of_cons (f := Attachment.thread) rfl hs.single (fun x hx heq => ?_) i
    exact held_eq_none_iff.mp unheld (List.mem_map.mpr ⟨x, hx, heq⟩)
  case distinct =>
    -- The handle is above all that have been issued.
    exact nodup_of_cons rfl hs.distinct
      (fun x hx => Nat.ne_of_lt (hs.issued _ r found x hx)) i
  case issued =>
    rw [hcons] at ha'
    rcases getElem?_set_cases hx with ⟨rfl, rfl⟩ | ⟨hi, hx⟩
    · rw [if_pos rfl] at ha'
      rcases List.mem_cons.mp ha' with rfl | ha'
      · exact Nat.lt_succ_self _
      · exact Nat.lt_succ_of_lt (hs.issued _ r found a' ha')
    · rw [if_neg (Ne.symm hi)] at ha'
      exact hs.issued i x hx a' ha'
  case balanced =>
    rw [holders, hcons]
    rcases getElem?_set_cases hx with ⟨rfl, rfl⟩ | ⟨hi, hx⟩
    · rw [if_pos rfl, List.map_cons, List.length_cons, Runtime.balance_admitted,
        hs.balanced _ r found]
      rfl
    · rw [if_neg (Ne.symm hi)]
      exact hs.balanced i x hx

/-- A thread exits. -/
theorem exit (t : ThreadId) : (s.exit t).Sound := by
  have hrefs : (s.exit t).references ⊆ s.references :=
    references_subset (fun _ hp => reference_of_maker hp) (fun _ hb => reference_of_binding hb)
      fun a ha => reference_of_attachment (List.mem_of_mem_filter ha)
  refine Sound.mk (fun p hp => ?placed) (fun p hp q hq => ?unique) (fun a ha => ?present)
    (fun i => ?single) (fun i => ?distinct) (fun i r hr a ha => ?issued) (fun i r hr => ?balanced)
  case placed =>
    have hr := exit_runtimes t s p.runtime
    rw [List.getElem?_eq_getElem (hs.placed p (hrefs hp))] at hr
    exact (List.getElem?_eq_some_iff.mp hr).1
  case unique => exact hs.unique p (hrefs hp) q (hrefs hq)
  case present =>
    obtain ⟨ha, hne⟩ := List.mem_filter.mp (exit_attachments t s ▸ ha)
    intro hgone
    rcases List.mem_cons.mp hgone with heq | hgone
    · exact absurd heq (by simpa using hne)
    · exact hs.present a ha hgone
  case single =>
    rw [holders, entries_exit]
    exact (hs.single i).sublist (List.filter_sublist.map _)
  case distinct =>
    rw [entries_exit]
    exact (hs.distinct i).sublist (List.filter_sublist.map _)
  case issued =>
    rw [exit_runtimes] at hr
    obtain ⟨x, hx, rfl⟩ := Option.map_eq_some_iff.mp hr
    rw [entries_exit] at ha
    exact hs.issued i x hx a (List.mem_of_mem_filter ha)
  case balanced =>
    rw [exit_runtimes] at hr
    obtain ⟨x, hx, rfl⟩ := Option.map_eq_some_iff.mp hr
    -- What the balance loses is what the entries lose.
    have hbalance := hs.balanced i x hx
    have hsplit := List.length_eq_countP_add_countP (·.thread == t) (l := s.entries i)
    rw [holders, List.length_map] at hbalance ⊢
    rw [entries_exit, ← List.countP_eq_length_filter]
    simp only [Runtime.balance] at hbalance ⊢
    simp only [bne, Bool.not_eq_true, Bool.decide_eq_false] at hsplit ⊢
    omega

/-- A thread asks for its handle. -/
theorem attach (hb : some b ∈ s.bindings) (t : ThreadId) : (s.attach t b).2.Sound := by
  have hattempt := hs.attempt hb t
  generalize s.attach t b = result at hattempt
  cases hattempt with
  | held here held => exact hs
  | refused here unheld found off => exact hs.of_set found (Runtime.steady_asked _ _)
  | granted here unheld found on => exact hs.grant hb here unheld found
  | late gone found steady => exact hs.of_set found steady

/-- What is true of all rosters is kept by each change. -/
theorem step (change : Change) : (s.step change).Sound := by
  cases change with
  | create address =>
    simp only [Roster.step]
    split
    · exact hs
    · exact hs.create ‹_›
  | release i =>
    -- To release a maker takes references away, and nothing else.
    refine hs.of_references (references_subset (fun p hp => ?_)
      (fun _ hb => reference_of_binding hb) fun _ ha => reference_of_attachment ha) rfl rfl rfl
    exact reference_of_maker (List.mem_of_mem_filter hp)
  | disable i on =>
    refine hs.of_steady (fun _ hp => hp) rfl rfl (List.length_modify ..) fun j r' hr' => ?_
    simp only [Roster.step, List.getElem?_modify] at hr'
    obtain ⟨r, hr, rfl⟩ := Option.map_eq_some_iff.mp hr'
    refine ⟨r, hr, ?_⟩
    split <;> exact ⟨Nat.le_refl _, rfl⟩
  | bind i name =>
    simp only [Roster.step]
    split
    next maker hmaker =>
      -- A binding takes over the reference of its maker.
      refine hs.of_references (references_subset (fun _ hp => reference_of_maker hp)
        (fun b hb => ?_) fun _ ha => reference_of_attachment ha) rfl rfl rfl
      rcases List.mem_append.mp hb with hb | hb
      · exact reference_of_binding hb
      · obtain rfl : b = _ := Option.some.inj (List.mem_singleton.mp hb)
        exact reference_of_maker (List.mem_of_find?_eq_some hmaker)
    next => exact hs
  | drop j =>
    -- A binding that is dropped leaves fewer references.
    refine hs.of_references (references_subset (fun _ hp => reference_of_maker hp)
      (fun b hb => ?_) fun _ ha => reference_of_attachment ha) rfl rfl rfl
    rcases List.mem_or_eq_of_mem_set hb with hb | hb
    · exact reference_of_binding hb
    · exact absurd hb (by simp)
  | attach t j =>
    simp only [Roster.step]
    split
    next b hb => exact hs.attach (List.mem_of_getElem? hb) t
    next => exact hs
  | exit t => exact hs.exit t

/-- **A run** keeps the roster sound. -/
theorem run (changes : List Change) : (s.run changes).Sound := by
  induction changes generalizing s with
  | nil => exact hs
  | cons change changes ih => exact ih (hs.step change)

/-! ### The entry of one thread -/

/-- An attach changes what the thread has for the runtime only, and only if that was nothing. -/
theorem held_attach (hb : some b ∈ s.bindings)
    (hother : t = u → b.runtime = i → s.held u i ≠ none) :
    (s.attach t b).2.held u i = s.held u i := by
  have hattempt := hs.attempt hb t
  generalize s.attach t b = result at hattempt
  cases hattempt with
  | held here held => rfl
  | refused here unheld found off => exact held_of_attachments (s := s) rfl u i
  | late gone found steady => exact held_of_attachments (s := s) rfl u i
  | granted here unheld found on =>
    rw [held, entries_of_cons (s := s) rfl]
    by_cases hi : b.runtime = i
    · -- The new entry stands in front, but it is another thread's.
      have hne : t ≠ u := by
        rintro rfl
        subst hi
        exact hother rfl rfl unheld
      simp [hi, hne, held]
    · rw [if_neg hi, held]

/-- The handle that an attach answers is kept. -/
theorem held_of_attach (hb : some b ∈ s.bindings) (h₁ : (s.attach t b).1 = some h) :
    (s.attach t b).2.held t b.runtime = some h := by
  have hattempt := hs.attempt hb t
  generalize s.attach t b = result at hattempt h₁
  cases hattempt with
  | held here held => rw [held, ← h₁]
  | refused here unheld found off => exact absurd h₁ (by simp)
  | late gone found steady => exact absurd h₁ (by simp)
  | granted here unheld found on =>
    rw [held, entries_of_cons (s := s) rfl, if_pos rfl]
    simpa using h₁

/-- What a thread has for a runtime changes with its own attaches and its exit only. -/
theorem held_step (hattach : ∀ j, change = .attach u j → s.held u i ≠ none)
    (hexit : change ≠ .exit u) : (s.step change).held u i = s.held u i := by
  cases change with
  | create address =>
    simp only [Roster.step]
    split <;> rfl
  | release i => rfl
  | disable i on => rfl
  | bind i name =>
    simp only [Roster.step]
    split <;> rfl
  | drop j => rfl
  | attach t j =>
    simp only [Roster.step]
    split
    next b hb =>
      refine hs.held_attach (List.mem_of_getElem? hb) fun htu _ => ?_
      subst htu
      exact hattach j rfl
    next => rfl
  | exit t => exact held_exit_of_ne (fun hut => hexit (congrArg Change.exit hut.symm)) i s

/-- An entry stays until its thread exits. -/
theorem held_run {changes : List Change} (hheld : s.held u i = some h) (hexit : .exit u ∉ changes) :
    (s.run changes).held u i = some h := by
  induction changes generalizing s with
  | nil => exact hheld
  | cons change changes ih =>
    refine ih (hs.step change) ?_ fun hmem => hexit (List.mem_cons_of_mem change hmem)
    rw [hs.held_step (fun _ _ => by simp [hheld]) fun heq => hexit (heq ▸ List.mem_cons_self ..)]
    exact hheld

/-- A thread without an entry has none until it asks for one. -/
theorem unheld_run {changes : List Change} (hnone : s.held u i = none)
    (hattach : ∀ j, .attach u j ∉ changes) : (s.run changes).held u i = none := by
  induction changes generalizing s with
  | nil => exact hnone
  | cons change changes ih =>
    refine ih (hs.step change) ?_ fun j hmem => hattach j (List.mem_cons_of_mem change hmem)
    by_cases hexit : change = .exit u
    · subst hexit
      exact held_exit_self u i s
    · rw [hs.held_step (fun j heq => absurd (heq ▸ List.mem_cons_self ..) (hattach j)) hexit]
      exact hnone

/-- Entries are of threads that have asked for them. -/
theorem asked_step {a : Attachment} (ha : a ∈ (s.step change).attachments) :
    a ∈ s.attachments ∨ ∃ j, change = .attach a.thread j := by
  cases change with
  | create address =>
    simp only [Roster.step] at ha
    split at ha <;> exact .inl ha
  | release i => exact .inl ha
  | disable i on => exact .inl ha
  | bind i name =>
    simp only [Roster.step] at ha
    split at ha <;> exact .inl ha
  | drop j => exact .inl ha
  | attach t j =>
    simp only [Roster.step] at ha
    split at ha
    next b hb =>
      have hattempt := hs.attempt (List.mem_of_getElem? hb) t
      generalize s.attach t b = result at hattempt ha
      cases hattempt with
      | held here held => exact .inl ha
      | refused here unheld found off => exact .inl ha
      | late gone found steady => exact .inl ha
      | granted here unheld found on =>
        rcases List.mem_cons.mp ha with rfl | ha
        · exact .inr ⟨j, rfl⟩
        · exact .inl ha
    next => exact .inl ha
  | exit t => exact .inl (List.mem_of_mem_filter ha)

/-- Who is attached at the end was so at the start, or has asked to be. -/
theorem asked_run {changes : List Change} {a : Attachment} (ha : a ∈ (s.run changes).attachments) :
    a ∈ s.attachments ∨ ∃ j, .attach a.thread j ∈ changes := by
  induction changes generalizing s with
  | nil => exact .inl ha
  | cons change changes ih =>
    rcases ih (hs.step change) ha with ha | ⟨j, hj⟩
    · rcases hs.asked_step ha with ha | ⟨j, rfl⟩
      · exact .inl ha
      · exact .inr ⟨j, List.mem_cons_self ..⟩
    · exact .inr ⟨j, List.mem_cons_of_mem change hj⟩

/-! ### Attaching again -/

/-- With an entry, a thread is answered from it, and nothing else happens. -/
theorem attach_of_held (hb : some b ∈ s.bindings) (hheld : s.held t b.runtime = some h) :
    s.attach t b = (some h, s) := by
  have hattempt := hs.attempt hb t
  generalize s.attach t b = result at hattempt ⊢
  cases hattempt with
  | held here held => rw [Option.some.inj (held.symm.trans hheld)]
  | refused here unheld found off => exact absurd (unheld.symm.trans hheld) (by simp)
  | granted here unheld found on => exact absurd (unheld.symm.trans hheld) (by simp)
  | late gone found steady =>
    -- A thread that is gone has no entries.
    obtain ⟨a, ha, rfl, -⟩ := mem_of_held hheld
    exact absurd gone (hs.present a (List.mem_of_mem_filter ha))

/-- Without an entry, a thread asks the runtime. -/
theorem attach_of_unheld (hb : some b ∈ s.bindings) (here : t ∉ s.gone)
    (hnone : s.held t b.runtime = none) :
    ∃ r r' : Runtime, s.runtimes[b.runtime]? = some r ∧
      (s.attach t b).2.runtimes[b.runtime]? = some r' ∧
      r'.attempts = r.attempts ++ [b.threadName] ∧
      (s.attach t b).1 = if r.attachDisabled then none else some r.nextHandle := by
  have hattempt := hs.attempt hb t
  generalize s.attach t b = result at hattempt ⊢
  cases hattempt with
  | held _ held => exact absurd (held.symm.trans hnone) (by simp)
  | late gone found steady => exact absurd gone here
  | @refused r _ unheld found off =>
    exact ⟨r, _, found, getElem?_set_of_some found, rfl, by rw [off]; rfl⟩
  | @granted r _ unheld found on =>
    exact ⟨r, _, found, getElem?_set_of_some found, rfl, by rw [on]; rfl⟩

/-- A refusal leaves all but the runtime's list of attempts as it was. -/
theorem attach_of_refused (hb : some b ∈ s.bindings) (here : t ∉ s.gone)
    (hnone : (s.attach t b).1 = none) :
    s.held t b.runtime = none ∧ ∃ r : Runtime, s.runtimes[b.runtime]? = some r ∧
      r.attachDisabled = true ∧
      (s.attach t b).2
        = { s with runtimes := s.runtimes.set b.runtime (r.asked b.threadName) } := by
  have hattempt := hs.attempt hb t
  generalize s.attach t b = result at hattempt hnone ⊢
  cases hattempt with
  | held here held => exact absurd hnone (by simp)
  | granted here unheld found on => exact absurd hnone (by simp)
  | late gone found steady => exact absurd gone here
  | @refused r _ unheld found off => exact ⟨unheld, r, found, off, rfl⟩

/-- Once its entries are torn down, a thread is detached as soon as it is attached. -/
theorem attach_of_gone (hb : some b ∈ s.bindings) (hgone : t ∈ s.gone) :
    (s.attach t b).1 = none ∧ (s.attach t b).2.attachments = s.attachments ∧
      ∀ (i : Nat) (r : Runtime), s.runtimes[i]? = some r →
        ∃ r' : Runtime, (s.attach t b).2.runtimes[i]? = some r' ∧ r'.balance = r.balance := by
  have hattempt := hs.attempt hb t
  generalize s.attach t b = result at hattempt ⊢
  cases hattempt with
  | held here held => exact absurd hgone here
  | refused here unheld found off => exact absurd hgone here
  | granted here unheld found on => exact absurd hgone here
  | @late x x' gone found steady =>
    refine ⟨rfl, rfl, fun i r hr => ?_⟩
    by_cases hi : i = b.runtime
    · subst hi
      obtain rfl : r = x := Option.some.inj (hr.symm.trans found)
      exact ⟨x', getElem?_set_of_some found, steady.balance⟩
    · exact ⟨r, by rw [List.getElem?_set_ne (Ne.symm hi), hr], rfl⟩

/-- Threads have handles of their own. -/
theorem handle_ne (hne : t ≠ u) (ht : s.held t i = some h) (hu : s.held u i = some k) : h ≠ k := by
  rintro rfl
  obtain ⟨a, ha, rfl, hah⟩ := mem_of_held ht
  obtain ⟨a', ha', rfl, ha'h⟩ := mem_of_held hu
  exact hne (congrArg Attachment.thread
    (List.inj_on_of_nodup_map (hs.distinct i) ha ha' (hah.trans ha'h.symm)))

/-- A thread that exits is detached once from each runtime that it has an entry for. -/
theorem detaches_exit {r : Runtime} (hr : s.runtimes[i]? = some r) (t : ThreadId) :
    (s.exit t).runtimes[i]?
      = some { r with detaches := r.detaches + if t ∈ s.holders i then 1 else 0 } := by
  have hcount : (s.entries i).countP (·.thread == t) = if t ∈ s.holders i then 1 else 0 := by
    rw [← (hs.single i).count, holders, List.count, List.countP_map]
    rfl
  rw [exit_runtimes, hr, Option.map_some, hcount]

end Sound

end Roster

/-! ### Any changes -/

/-- After any changes, the threads that hold an entry for a runtime make up its balance; what a
    binding looks up is the entry for its runtime.  A thread that has been answered a handle is
    answered the same one through all bindings to the runtime, which sees nothing of that, until
    the thread exits, and no other thread has that handle.  A refusal is seen in the runtime's
    attempts only, and the thread's next attach is another attempt.  An exit is one detach for each
    runtime that the thread has an entry for, so that nothing is left once all threads that have
    attached are gone; a thread that is gone gets no handle and leaves all balances. -/
theorem thread_attachment (changes : List Change) :
    let s := Roster.run changes {}
    (∀ i (r : Runtime), s.runtimes[i]? = some r →
      r.balance = (s.holders i).length ∧ (s.holders i).Nodup ∧ ∀ t ∈ s.holders i, t ∉ s.gone) ∧
    (∀ t b, some b ∈ s.bindings →
      s.attachments.handle? t b.address = s.held t b.runtime) ∧
    (∀ t b h, some b ∈ s.bindings → (s.attach t b).1 = some h →
      ∀ later, .exit t ∉ later → let s' := Roster.run later (s.attach t b).2
        ∀ c, some c ∈ s'.bindings → c.runtime = b.runtime → s'.attach t c = (some h, s')) ∧
    (∀ t u i h k, t ≠ u → s.held t i = some h → s.held u i = some k → h ≠ k) ∧
    (∀ t b, some b ∈ s.bindings → t ∉ s.gone → (s.attach t b).1 = none →
      (∃ r : Runtime, s.runtimes[b.runtime]? = some r ∧ r.attachDisabled = true ∧
        (s.attach t b).2
          = { s with runtimes := s.runtimes.set b.runtime (r.asked b.threadName) }) ∧
      ∀ later, (∀ j, .attach t j ∉ later) → let s' := Roster.run later (s.attach t b).2
        t ∉ s'.gone → ∀ c, some c ∈ s'.bindings → c.runtime = b.runtime →
          ∃ r r' : Runtime, s'.runtimes[c.runtime]? = some r ∧
            (s'.attach t c).2.runtimes[c.runtime]? = some r' ∧
            r'.attempts = r.attempts ++ [c.threadName] ∧
            (s'.attach t c).1 = if r.attachDisabled then none else some r.nextHandle) ∧
    (∀ t i, (s.exit t).held t i = none ∧ (∀ u, u ≠ t → (s.exit t).held u i = s.held u i) ∧
      ∀ r : Runtime, s.runtimes[i]? = some r → (s.exit t).runtimes[i]?
        = some { r with detaches := r.detaches + if t ∈ s.holders i then 1 else 0 }) ∧
    ((∀ t j, .attach t j ∈ changes → t ∈ s.gone) →
      ∀ r ∈ s.runtimes, r.attaches = r.detaches) ∧
    (∀ t b, some b ∈ s.bindings → t ∈ s.gone →
      (s.attach t b).1 = none ∧ (s.attach t b).2.attachments = s.attachments ∧
        ∀ (i : Nat) (r : Runtime), s.runtimes[i]? = some r →
          ∃ r' : Runtime, (s.attach t b).2.runtimes[i]? = some r' ∧ r'.balance = r.balance) := by
  intro s
  have hs : s.Sound := Roster.Sound.empty.run changes
  refine ⟨fun i r hr => ⟨hs.balanced i r hr, hs.single i, fun t ht => ?present⟩,
    fun t b hb => hs.handle?_eq hb t, fun t b h hb hh later hexit => ?kept,
    fun t u i h k hne ht hu => hs.handle_ne hne ht hu,
    fun t b hb here hnone => ?again,
    fun t i => ⟨held_exit_self t i s, fun u hne => held_exit_of_ne hne i s,
      fun r hr => hs.detaches_exit hr t⟩,
    fun hgone r hr => ?settled,
    fun t b hb hgone => hs.attach_of_gone hb hgone⟩
  case present =>
    obtain ⟨a, ha, rfl⟩ := List.mem_map.mp ht
    exact hs.present a (List.mem_of_mem_filter ha)
  case kept =>
    intro s' c hc hcb
    have hs₁ := hs.attach hb t
    have hheld : s'.held t c.runtime = some h :=
      hcb ▸ hs₁.held_run (hs.held_of_attach hb hh) hexit
    exact (hs₁.run later).attach_of_held hc hheld
  case again =>
    have hs₁ := hs.attach hb t
    obtain ⟨hunheld, r, hr, hoff, hleft⟩ := hs.attach_of_refused hb here hnone
    refine ⟨⟨r, hr, hoff, hleft⟩, fun later hattach => ?_⟩
    intro s' here' c hc hcb
    -- The refusal has left no entry, and others' changes leave none either.
    have hunheld' : s'.held t c.runtime = none := by
      refine hcb ▸ hs₁.unheld_run ?_ hattach
      rw [hleft]
      exact (held_of_attachments (s := s) rfl t b.runtime).trans hunheld
    exact (hs₁.run later).attach_of_unheld hc here' hunheld'
  case settled =>
    -- Whoever has an entry has attached, and is still there.
    obtain ⟨i, hi⟩ := List.mem_iff_getElem?.mp hr
    have hnil : s.holders i = [] := by
      rw [List.eq_nil_iff_forall_not_mem]
      intro t ht
      obtain ⟨a, ha, rfl⟩ := List.mem_map.mp ht
      have ha := List.mem_of_mem_filter ha
      rcases Roster.Sound.empty.asked_run ha with ha | ⟨j, hj⟩
      · exact List.not_mem_nil ha
      · exact hs.present a ha (hgone _ j hj)
    have hbalance := hs.balanced i r hi
    rw [hnil, Runtime.balance] at hbalance
    simp only [List.length_nil] at hbalance
    omega

/-- Two threads are attached, and a third one is refused until the runtime accepts threads again. -/
theorem thread_attachment_after_refusal :
    let changes : List Change := [.create 7, .bind 0 "A", .bind 0 "B", .attach .control 0,
      .attach (.worker "L") 1, .drop 0, .disable 0 true]
    let s := Roster.run changes {}
    let b : Binding := ⟨7, 0, "B"⟩
    let s' := Roster.run [.disable 0 false, .attach (.worker "W") 1] (s.attach .control b).2
    (s.attach .control b).1 = some 1 ∧ (s.attach (.worker "W") b).1 = none ∧
    s'.attach .control b = (some 1, s') ∧
    ((Roster.run [.disable 0 false] (s.attach (.worker "W") b).2).attach (.worker "W") b).1
      = some 3 ∧
    ∀ r ∈ (Roster.run (changes ++ [.exit .control, .exit (.worker "L")]) {}).runtimes,
      r.attaches = r.detaches := by
  intro changes s b s'
  obtain ⟨-, -, hkept, -, hagain, -⟩ := thread_attachment changes
  obtain ⟨-, -, -, -, -, -, hsettled, -⟩ :=
    thread_attachment (changes ++ [.exit .control, .exit (.worker "L")])
  refine ⟨by decide +kernel, by decide +kernel,
    hkept .control b 1 (by decide +kernel) (by decide +kernel) _ (by decide +kernel) b
      (by decide +kernel) rfl, ?again, hsettled ?gone⟩
  case again =>
    obtain ⟨r, r', hr, -, -, hanswer⟩ := (hagain (.worker "W") b (by decide +kernel)
      (by decide +kernel) (by decide +kernel)).2 [.disable 0 false] (by simp) (by decide +kernel) b
      (by decide +kernel) rfl
    have hnext : some (r.attachDisabled, r.nextHandle) = some (false, 3) := by
      rw [← Option.map_some (f := fun r : Runtime => (r.attachDisabled, r.nextHandle)), ← hr]
      decide +kernel
    obtain ⟨hoff, hhandle⟩ := Prod.mk.inj (Option.some.inj hnext)
    rw [hanswer, hoff, hhandle]
    rfl
  case gone =>
    intro t j hj
    simp only [changes, List.cons_append, List.nil_append, List.mem_cons, Change.attach.injEq,
      reduceCtorEq, List.not_mem_nil, or_false, false_or] at hj
    rcases hj with ⟨rfl, -⟩ | ⟨rfl, -⟩ <;> decide +kernel

end DepthRelay
