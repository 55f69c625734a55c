import DepthRelay.Host.Attachment

namespace DepthRelay.Bench

/-!
# Bindings on the bench

Named bindings to a few runtimes, used from the controlling thread and from named workers, which
start when they are first used.

* `BindingBench.attach`, `BindingBench.isAttached` — one use of a binding by a thread.
* `BindingBench.exit` — the end of a worker; `BindingBench.exitAll` — the end of all threads.
-/

/-- Bindings, threads and runtimes. -/
structure BindingBench where
  runtimes : List Runtime
  bindings : List (String × Binding) := []
  workers : List String := []
  attachments : Attachments := []

namespace BindingBench

/-- The thread with a name; no name means the controlling thread. -/
def thread (name : Option String) : ThreadId := name.elim .control .worker

/-- Starts a worker unless it runs. -/
def startWorker (name : Option String) (b : BindingBench) : BindingBench :=
  match name with
  | some n => if n ∈ b.workers then b else { b with workers := n :: b.workers }
  | none => b

/-- Makes a binding, in place of one of the same name. -/
def bind (name : String) (runtime : Nat) (threadName : String) (b : BindingBench) : BindingBench :=
  { b with bindings := (name, ⟨runtime, runtime, threadName⟩) :: b.bindings.filter (·.1 ≠ name) }

/-- Drops a binding; the answer tells whether there was one. -/
def drop (name : String) (b : BindingBench) : Bool × BindingBench :=
  ((b.bindings.lookup name).isSome, { b with bindings := b.bindings.filter (·.1 ≠ name) })

/-- Attaches a thread through a binding. -/
def attach (name : String) (worker : Option String) (b : BindingBench) :
    Option Handle × BindingBench :=
  match b.bindings.lookup name with
  | none => (none, b)
  | some binding =>
    let b := b.startWorker worker
    let (h, as, rs) := b.attachments.attach (thread worker) binding b.runtimes
    (h, { b with attachments := as, runtimes := rs })

/-- Whether a thread is attached through a binding. -/
def isAttached (name : String) (worker : Option String) (b : BindingBench) : Bool × BindingBench :=
  match b.bindings.lookup name with
  | none => (false, b)
  | some binding =>
    ((b.attachments.handle? (thread worker) binding.address).isSome, b.startWorker worker)

/-- Ends a thread. -/
def exitThread (t : ThreadId) (b : BindingBench) : BindingBench :=
  let (as, rs) := b.attachments.exit t b.runtimes
  { b with attachments := as, runtimes := rs }

/-- Ends a worker; the answer tells whether it ran. -/
def exit (name : String) (b : BindingBench) : Bool × BindingBench :=
  if name ∈ b.workers then
    (true, { b.exitThread (.worker name) with workers := b.workers.filter (· ≠ name) })
  else (false, b)

/-- Ends all threads. -/
def exitAll (b : BindingBench) : BindingBench :=
  (b.workers.foldl (fun b w => b.exitThread (.worker w)) b).exitThread .control

end BindingBench

end DepthRelay.Bench
