import DepthRelay.Bench.Gate
import DepthRelay.Host.Attachment

namespace DepthRelay.Bench

/-!
# Scripted frame handlers

On the bench a host's handler notes every delivery, waits at a gate, and then does what the first
matching rule says.

* `Rule` — conditions on a delivery, and what to do if they hold.
* `Script` — the rules, the gate and the notes of one host.
* `Script.note` — notes a delivery; that looks at the bytes of the frame.
* `Script.call` — a call of the handler from a thread that need not wait at the gate.
-/

/-- What a handler does with some of the deliveries. -/
structure Rule where
  sequence : Option Nat := none
  points : Option Nat := none
  /-- A modulus and the remainder of the sequence number by it. -/
  modulo : Option (Nat × Nat) := none
  /-- Give up with this text. -/
  abort : Option String := none
  /-- Inject a frame into the camera with this serial. -/
  emission : Option (String × List Point) := none
  /-- Return this failure. -/
  failure : Option String := none
  deriving Repr

/-- Whether all conditions of a rule hold. -/
def Rule.applies (d : Delivery) (r : Rule) : Bool :=
  r.sequence.all (· == d.sequence) && r.points.all (· == d.pointCount) &&
    r.modulo.all fun (m, k) => d.sequence % m == k

/-- What the handler answers in the end. -/
def Rule.reply (r : Rule) : Reply :=
  match r.abort, r.failure with
  | some text, _ => .aborted (.handler text)
  | none, some text => .failed text
  | none, none => .accepted

/-- A delivery as the handler notes it. -/
structure Note where
  /-- Number of the view, if it was ever exposed. -/
  view : Option Nat
  handle : Handle
  delivery : Delivery
  /-- Bytes of the frame. -/
  frame : ByteArray
  /-- Whether the frame that the handler injected has found a listener. -/
  emitted : Option Bool := none

/-- The script of a host. -/
structure Script where
  rules : List Rule := []
  gate : Gate ThreadId := {}
  /-- Notes that nobody has collected yet, by number. -/
  notes : List (Nat × Note) := []
  /-- Number of the next note. -/
  nextNote : Nat := 0
  /-- An error that all calls end with; the flag tells whether the handler is called before. -/
  callFault : Option (HostError × Bool) := none

namespace Script

/-- Notes a delivery. -/
def note (h : Handle) (d : Delivery) (r : Runtime) (s : Script) : Except Abort Script :=
  match d.frameBytes with
  | .error a => .error a
  | .ok frame =>
    .ok { s with
      notes := s.notes ++ [(s.nextNote, ⟨r.viewNumber? d.view, h, d, frame, none⟩)]
      nextNote := s.nextNote + 1 }

/-- Adds to a note whether the injected frame has found a listener. -/
def noteEmission (number : Nat) (emitted : Bool) (s : Script) : Script :=
  { s with notes := s.notes.map fun (k, n) =>
      if k = number then (k, { n with emitted := some emitted }) else (k, n) }

/-- Hands the notes over. -/
def collect (s : Script) : List Note × Script := (s.notes.map Prod.snd, { s with notes := [] })

/-- What the script says about a delivery; without a matching rule it is accepted. -/
def rule (d : Delivery) (s : Script) : Rule := (s.rules.find? (·.applies d)).getD {}

/-- How a call that reached the handler ends. -/
def callEnd (s : Script) : Except HostError Unit :=
  match s.callFault with
  | some (e, _) => .error e
  | none => .ok ()

/-- A call of the handler that does not wait at the gate. -/
def call (h : Handle) (d : Delivery) (r : Runtime) (s : Script) :
    Except Abort (Except HostError Unit) × Runtime × Script :=
  match s.callFault with
  | some (e, false) => (.ok (.error e), r, s)
  | _ =>
    match r.enter d.view with
    | .error e => (.ok (.error e), r, s)
    | .ok r =>
      match s.note h d r with
      | .error a => (.error a, r, s)
      | .ok s =>
        match (s.rule d).reply with
        | .aborted a => (.error a, r, s)
        | reply => (.ok s.callEnd, r.leave h reply, s)

end Script

end DepthRelay.Bench
