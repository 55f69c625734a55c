import DepthRelay.Relay.Delivery

namespace DepthRelay

/-!
# A relay with its hosts

The relay together with frame handlers that return without waiting for anybody, so that each
delivery is one step.

* `Handler` — what the handlers of all hosts do; they may remember things in a state `σ`.
* `Live.deliver` — all stages of one delivery.
* `Live.emit`, `Live.dispatch`, `Live.wake` — the threads that deliver: a thread that injects a
  frame, the dispatch thread of a channel, and the frame source that is due first.
* `Live.close` — closing a session, with everything in its hand-off dispatched.
* `Live.runTo` — lets time pass.
-/

/-- What a handler makes of a delivery. -/
structure Answer (σ : Type) where
  reply : Reply
  /-- What the handler remembers. -/
  host : σ
  /-- Nanoseconds that the call took. -/
  elapsed : Nat := 0

/-- The handlers of all hosts, by the places of their runtimes. -/
abbrev Handler (σ : Type) := Nat → Delivery → σ → Answer σ

/-- A relay and what its handlers remember. -/
structure Live (σ : Type) where
  relay : Relay
  host : σ

namespace Live

variable {σ : Type}

/-- Changes the relay. -/
def withRelay (w : Relay) (l : Live σ) : Live σ := { l with relay := w }

/-- The call of the handler for a frame in the buffer, up to its outcome. -/
def handle (h : Handler σ) (t : Ticket) (d : Delivery) (l : Live σ) : Except Abort Unit × Live σ :=
  match l.relay.enter t.channel d with
  | (.error e, w) => (.ok (), l.withRelay (w.conclude t (.error e)))
  | (.ok (), w) =>
    let a := h (w.channel t.channel).binding.runtime d l.host
    let w := { w with now := w.now + a.elapsed }
    match a.reply with
    | .aborted reason => (.error reason, ⟨w, a.host⟩)
    | reply => (.ok (), ⟨(w.leave t reply).conclude t (.ok ()), a.host⟩)

/-- Delivers a frame on a thread. -/
def deliver (h : Handler σ) (t : ThreadId) (k : Nat) (points : List Point) (l : Live σ) :
    Except Abort Unit × Live σ :=
  match l.relay.begin t k with
  | (none, w) => (.ok (), l.withRelay w)
  | (some ticket, w) =>
    match w.publish k points with
    | (none, w) => (.ok (), l.withRelay w)
    | (some d, w) => (l.withRelay w).handle h ticket d

/-- Injects a frame into the camera at a place; the answer tells whether it has found a listener. -/
def emit (h : Handler σ) (t : ThreadId) (camera : Nat) (points : List Point) (l : Live σ) :
    Except Abort Bool × Live σ :=
  match l.relay.offer camera points with
  | (none, w) => (.ok false, l.withRelay w)
  | (some k, w) =>
    match (w.channel k).handoff with
    | some q => (.ok true, l.withRelay (w.submit k q points))
    | none =>
      match (l.withRelay w).deliver h t k points with
      | (.ok (), l) => (.ok true, l)
      | (.error a, l) => (.error a, l)

/-- The dispatch thread of a channel delivers the next frame in the hand-off, if there is one. -/
def dispatch (h : Handler σ) (k : Nat) (l : Live σ) : Live σ :=
  match l.relay.takeQueued? k with
  | none => l
  | some (points, w) =>
    match (l.withRelay w).deliver h (.dispatch k) k points with
    | (.ok (), l) => l.withRelay (l.relay.completeQueued k)
    | (.error _, l) => l.withRelay (l.relay.crashQueued k)

/-- The dispatch thread of a channel delivers up to `n` frames. -/
def dispatchMany (h : Handler σ) (k : Nat) : Nat → Live σ → Live σ
  | 0, l => l
  | n + 1, l => dispatchMany h k n (l.dispatch h k)

/-- The dispatch thread of a channel delivers everything in the hand-off. -/
def drain (h : Handler σ) (k : Nat) (l : Live σ) : Live σ :=
  l.dispatchMany h k (((l.relay.channel k).handoff.map fun q => q.queue.length).getD 0)

/-- Closes a session. -/
def close (h : Handler σ) (i : Nat) (l : Live σ) : Live σ :=
  match (l.relay.session i).camera with
  | none => l
  | some o =>
    let l := (l.withRelay (l.relay.beginClose i)).drain h o.channel
    l.withRelay (l.relay.endClose i)

/-! ### Time -/

/-- The frame source of a session does its work. -/
def wake (h : Handler σ) (i : Nat) (source : Source) (l : Live σ) : Live σ :=
  match l.relay.wakeSource i source with
  | (none, w) => l.withRelay w
  | (some (camera, points), w) =>
    match (l.withRelay w).emit h (.source source.run) camera points with
    | (.ok _, l) => l
    | (.error _, l) => l.withRelay (l.relay.crashSource source.run)

/-- Dispatches everything in the hand-offs of all channels. -/
def drainAll (h : Handler σ) (l : Live σ) : Live σ :=
  (List.range l.relay.channels.length).foldl (fun l k => l.drain h k) l

/-- Lets time pass until `stop`, exclusive, for at most `fuel` frames of the sources.  Dispatch
    threads are quick: they have nothing left to do when the next frame comes. -/
def runTo (h : Handler σ) (stop : Nat) : Nat → Live σ → Live σ
  | 0, l => l
  | fuel + 1, l =>
    match l.relay.nextSource? with
    | none => l.withRelay { l.relay with now := max l.relay.now stop }
    | some (i, source) =>
      if source.due < stop then runTo h stop fuel ((l.wake h i source).drainAll h)
      else l.withRelay { l.relay with now := max l.relay.now stop }

end Live

end DepthRelay
