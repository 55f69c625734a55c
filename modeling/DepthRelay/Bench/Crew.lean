import DepthRelay.Bench.Script
import DepthRelay.Relay.Delivery

namespace DepthRelay.Bench

/-!
# Threads on the bench

The threads of a relay whose hosts are scripted, each run until it is done or waits for a gate or
for a buffer.

* `Activity` — one frame that a thread is delivering.  A handler may inject a frame itself, so a
  thread has a stack of activities, the innermost first.
* `Crew` — the relay, the scripts and the threads.
* `Crew.advance?` — one step of one thread, if it can do one.
* `Crew.unwind` — the end of all activities of a thread whose handler gives up.
* `Crew.settle` — steps until no thread can do one.
-/

/-- How far a thread is with a frame. -/
inductive Stage
  /-- In the line for the buffer. -/
  | waiting (points : List Point)
  /-- In the handler, which has noted the delivery; the call will end as told. -/
  | handling (delivery : Delivery) (note : Nat) (callEnd : Except HostError Unit)
  /-- The handler returns; it may have injected a frame, and then the flag tells whether that frame
      has found a listener. -/
  | returning (note : Nat) (callEnd : Except HostError Unit) (reply : Reply)
      (emitted : Option Bool)

/-- A frame that a thread is delivering. -/
structure Activity where
  ticket : Ticket
  stage : Stage

/-- A relay, its scripted hosts and its threads. -/
structure Crew where
  relay : Relay
  /-- The scripts of the runtimes, by place. -/
  scripts : List Script
  /-- Threads that are delivering. -/
  threads : List (ThreadId × List Activity) := []
  /-- Who waits for the buffer of a channel, in the order of arrival; the first one has it. -/
  line : List (Nat × ThreadId) := []
  /-- Calls of workers that have ended and that nobody has collected yet. -/
  returned : List (String × Except Abort Bool) := []

namespace Crew

/-- The activities of a thread. -/
def stack (t : ThreadId) (c : Crew) : List Activity := (c.threads.lookup t).getD []

/-- Replaces the activities of a thread. -/
def setStack (t : ThreadId) (as : List Activity) (c : Crew) : Crew :=
  let others := c.threads.filter (·.1 ≠ t)
  { c with threads := if as.isEmpty then others else others ++ [(t, as)] }

/-- Whether a thread is delivering. -/
def isBusy (t : ThreadId) (c : Crew) : Bool := !(c.stack t).isEmpty

/-- The script of a runtime. -/
def script (r : Nat) (c : Crew) : Script := c.scripts.getD r {}

/-- Changes the script of a runtime. -/
def modifyScript (r : Nat) (f : Script → Script) (c : Crew) : Crew :=
  { c with scripts := c.scripts.modify r f }

/-- Whether it is a thread's turn to have the buffer of a channel.  A thread that has it already
    from an outer activity waits for itself. -/
def hasBuffer (k : Nat) (t : ThreadId) (c : Crew) : Bool :=
  c.line.find? (·.1 == k) == some (k, t) && c.line.count (k, t) == 1

/-! ### Beginning and ending -/

/-- A thread begins to deliver a frame, and takes its place in the line unless the frame is dropped
    at once. -/
def beginDelivery (t : ThreadId) (k : Nat) (points : List Point) (c : Crew) : Crew :=
  match c.relay.begin t k with
  | (none, w) => { c with relay := w }
  | (some ticket, w) =>
    let c := { c with relay := w, line := c.line ++ [(k, t)] }
    c.setStack t (⟨ticket, .waiting points⟩ :: c.stack t)

/-- A thread injects a frame into a camera; the answer tells whether it has found a listener. -/
def inject (t : ThreadId) (camera : Nat) (points : List Point) (c : Crew) : Bool × Crew :=
  match c.relay.offer camera points with
  | (none, w) => (false, { c with relay := w })
  | (some k, w) =>
    match (w.channel k).handoff with
    | some q => (true, { c with relay := w.submit k q points })
    | none => (true, { c with relay := w }.beginDelivery t k points)

/-- A thread has come to the end of its activities. -/
def finish (t : ThreadId) (c : Crew) : Crew :=
  match t with
  | .dispatch k => { c with relay := c.relay.completeQueued k }
  | .worker name => { c with returned := c.returned ++ [(name, .ok true)] }
  | _ => c

/-- Ends the innermost activity of a thread, which frees the buffer. -/
def pop (t : ThreadId) (k : Nat) (c : Crew) : Crew :=
  let rest := (c.stack t).drop 1
  let c := { c with line := c.line.erase (k, t) }.setStack t rest
  if rest.isEmpty then c.finish t else c

/-- Ends all activities of a thread whose handler gives up.  Buffers are free again; nothing is
    counted. -/
def unwind (t : ThreadId) (reason : Abort) (c : Crew) : Crew :=
  let c := { c with line := c.line.filter (·.2 ≠ t) }.setStack t []
  match t with
  | .dispatch k => { c with relay := c.relay.crashQueued k }
  | .worker name => { c with returned := c.returned ++ [(name, .error reason)] }
  | .source run => { c with relay := c.relay.crashSource run }
  | .control => c

/-! ### Steps -/

/-- The call for a frame is over. -/
def conclude (t : ThreadId) (ticket : Ticket) (call : Except HostError Unit) (c : Crew) : Crew :=
  { c with relay := c.relay.conclude ticket call }.pop t ticket.channel

/-- Begins the call of the handler, which notes the delivery and arrives at its gate. -/
def enter (t : ThreadId) (ticket : Ticket) (d : Delivery) (c : Crew) : Crew :=
  let r := (c.relay.channel ticket.channel).binding.runtime
  let script := c.script r
  match script.callFault with
  | some (e, false) => c.conclude t ticket (.error e)
  | _ =>
    match c.relay.enter ticket.channel d with
    | (.error e, w) => { c with relay := w }.conclude t ticket (.error e)
    | (.ok (), w) =>
      let c := { c with relay := w }
      match script.note ticket.handle d (w.runtime r) with
      | .error reason => c.unwind t reason
      | .ok noted =>
        let c := c.modifyScript r fun _ => { noted with gate := noted.gate.arrive t }
        c.setStack t (⟨ticket, .handling d script.nextNote script.callEnd⟩ :: (c.stack t).drop 1)

/-- A thread in the handler that has passed the gate does what the script says.  A frame for a
    camera that does not exist is not injected. -/
def obey (t : ThreadId) (ticket : Ticket) (d : Delivery) (note : Nat)
    (callEnd : Except HostError Unit) (c : Crew) : Crew :=
  let rule := (c.script (c.relay.channel ticket.channel).binding.runtime).rule d
  let returning (emitted : Option Bool) (c : Crew) : Crew :=
    c.setStack t (⟨ticket, .returning note callEnd rule.reply emitted⟩ :: (c.stack t).drop 1)
  match rule.reply, rule.emission with
  | .aborted reason, _ => c.unwind t reason
  | _, none => returning none c
  | _, some (serial, points) =>
    match place? c.relay.cameras serial with
    | none => returning none c
    | some camera =>
      -- The outcome is noted only once the handler goes on.
      let found := (c.relay.offer camera points).1.isSome
      ((returning (some found) c).inject t camera points).2

/-- One step of a thread, if it can do one. -/
def advance? (t : ThreadId) (c : Crew) : Option Crew :=
  match c.stack t with
  | [] =>
    match t with
    | .dispatch k =>
      (c.relay.takeQueued? k).map fun (points, w) =>
        let c := { c with relay := w }.beginDelivery t k points
        if c.isBusy t then c else c.finish t
    | _ => none
  | ⟨ticket, stage⟩ :: _ =>
    match stage with
    | .waiting points =>
      if c.hasBuffer ticket.channel t then
        match c.relay.publish ticket.channel points with
        | (none, w) => some ({ c with relay := w }.pop t ticket.channel)
        | (some d, w) => some ({ c with relay := w }.enter t ticket d)
      else none
    | .handling d note callEnd =>
      let r := (c.relay.channel ticket.channel).binding.runtime
      if (c.script r).gate.holds t then none else some (c.obey t ticket d note callEnd)
    | .returning note callEnd reply emitted =>
      let r := (c.relay.channel ticket.channel).binding.runtime
      let c := match emitted with
        | none => c
        | some found => c.modifyScript r (Script.noteEmission note found)
      some ({ c with relay := c.relay.leave ticket reply }.conclude t ticket callEnd)

/-- One step of some thread. -/
def step? (c : Crew) : Option Crew :=
  (c.threads.map Prod.fst ++ (List.range c.relay.channels.length).map ThreadId.dispatch).findSome?
    fun t => c.advance? t

/-- At most `n` steps. -/
def run : Nat → Crew → Crew
  | 0, c => c
  | n + 1, c =>
    match c.step? with
    | none => c
    | some c => run n c

/-- Steps within which a crew is expected to settle. -/
def patience : Nat := 1000000

/-- Lets all threads run until each one is done or waits. -/
def settle (c : Crew) : Crew := c.run patience

end Crew

end DepthRelay.Bench
