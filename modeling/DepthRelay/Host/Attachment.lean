import DepthRelay.Host.Runtime

namespace DepthRelay

/-!
# Attachments of threads

A thread attaches to a runtime when it first needs to and stays attached until it ends.

* `Binding` — attaches threads to one runtime under one name.
* `Attachments` — which threads hold which attachments; entries are looked up by thread and by the
  address of the runtime, which no other runtime can have while an entry holds on to it.
* `Attachments.attach` — the handle of a thread, from its entry or by attaching it now.  A refused
  attempt leaves no entry, so that the next one asks again.
* `Attachments.attachLate` — the same on a thread that has torn down its entries: there is no place
  for a new one, so that the thread is detached at once.
* `Attachments.exit` — the end of a thread, with one detach for each of its entries.
-/

/-- The threads that deliver frames. -/
inductive ThreadId
  /-- The thread that controls the sessions. -/
  | control
  /-- A thread that injects frames. -/
  | worker (name : String)
  /-- The dispatch thread of a channel. -/
  | dispatch (channel : Nat)
  /-- The frame source of a camera. -/
  | source (run : Nat)
  deriving DecidableEq, Repr

/-- Attaches threads to a runtime. -/
structure Binding where
  /-- Address of the runtime. -/
  address : Nat
  /-- Place of the runtime. -/
  runtime : Nat
  /-- Name that threads get inside the runtime. -/
  threadName : String
  deriving DecidableEq, Repr, Inhabited

/-- The attachment of one thread to one runtime. -/
structure Attachment where
  thread : ThreadId
  address : Nat
  runtime : Nat
  handle : Handle
  deriving DecidableEq, Repr

/-- The attachments that threads hold. -/
abbrev Attachments := List Attachment

namespace Attachments

/-- The handle that a thread holds for the runtime at an address. -/
def handle? (t : ThreadId) (address : Nat) (as : Attachments) : Option Handle :=
  (as.find? fun a => a.thread == t && a.address == address).map Attachment.handle

/-- The handle of a thread, attaching it if it is not attached yet. -/
def attach (t : ThreadId) (b : Binding) (as : Attachments) (runtimes : List Runtime) :
    Option Handle × Attachments × List Runtime :=
  match as.handle? t b.address with
  | some h => (some h, as, runtimes)
  | none =>
    match runtimes[b.runtime]? with
    | none => (none, as, runtimes)
    | some r =>
      match r.attach b.threadName with
      | (.error _, r) => (none, as, runtimes.set b.runtime r)
      | (.ok h, r) => (some h, ⟨t, b.address, b.runtime, h⟩ :: as, runtimes.set b.runtime r)

/-- The handle of a thread that has no place for entries any more: an attachment that is granted
    ends at once. -/
def attachLate (b : Binding) (runtimes : List Runtime) : Option Handle × List Runtime :=
  match runtimes[b.runtime]? with
  | none => (none, runtimes)
  | some r =>
    match r.attach b.threadName with
    | (.error _, r) => (none, runtimes.set b.runtime r)
    | (.ok _, r) => (none, runtimes.set b.runtime r.detach)

/-- The entries of a thread. -/
def ofThread (t : ThreadId) (as : Attachments) : Attachments := as.filter (·.thread == t)

/-- Ends a thread: its entries are gone, and each runtime among them sees one detach. -/
def exit (t : ThreadId) (as : Attachments) (runtimes : List Runtime) :
    Attachments × List Runtime :=
  (as.filter (·.thread != t),
    (ofThread t as).foldl (fun rs a => rs.modify a.runtime Runtime.detach) runtimes)

end Attachments

end DepthRelay
