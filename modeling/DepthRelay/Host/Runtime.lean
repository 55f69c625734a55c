import DepthRelay.Host.Delivery

namespace DepthRelay

/-!
# Host runtimes

A host runtime runs the frame handler.  Threads must attach to it before they call the handler, and
buffers must be exposed to it before frames in them can be handled.

* `Runtime.attach`, `Runtime.detach` — threads; each attachment has a handle of its own.
* `Runtime.expose`, `Runtime.retract` — buffers, by their views.
* `Runtime.enter`, `Runtime.leave` — the two ends of a call of the handler.  A failure that the
  handler returns stays *pending* on the calling thread's handle until it is taken.
* `Outcome`, `Runtime.conclude` — how a call ended, once its pending failure has been taken;
  `Runtime.conclude_eq` is its closed form.
-/

/-- Token of an attached thread; 0 is none. -/
abbrev Handle := Nat

/-- A handle from a raw token. -/
def Handle.ofRaw? (raw : Nat) : Option Handle := if raw = 0 then none else some raw

/-- The state of a host runtime. -/
structure Runtime where
  nextHandle : Handle := 1
  attaches : Nat := 0
  detaches : Nat := 0
  /-- Calls of the handler. -/
  invocations : Nat := 0
  /-- Views of the buffers that are exposed. -/
  exposed : List View := []
  /-- Failures that nobody has taken yet. -/
  pending : List (Handle × String) := []
  /-- Whether attaching is refused. -/
  attachDisabled : Bool := false
  /-- Why exposing is refused, if it is. -/
  exposeFault : Option HostError := none
  /-- Names under which threads have asked to attach. -/
  attempts : List String := []
  /-- Views in the order in which they were exposed. -/
  exposures : List View := []
  deriving Repr, Inhabited

namespace Runtime

/-- Attaches a thread under a name. -/
def attach (name : String) (r : Runtime) : Except HostError Handle × Runtime :=
  let r := { r with attempts := r.attempts ++ [name] }
  if r.attachDisabled then (.error (.attachFailed "attach disabled"), r)
  else (.ok r.nextHandle, { r with nextHandle := r.nextHandle + 1, attaches := r.attaches + 1 })

/-- Detaches a thread. -/
def detach (r : Runtime) : Runtime := { r with detaches := r.detaches + 1 }

/-- Exposes a buffer; exposing it twice changes nothing more. -/
def expose (v : View) (r : Runtime) : Except HostError Runtime :=
  match r.exposeFault with
  | some e => .error e
  | none =>
    .ok { r with
      exposed := if v ∈ r.exposed then r.exposed else v :: r.exposed
      exposures := r.exposures ++ [v] }

/-- A buffer is exposed unless the host refuses, and is there once however often that is done. -/
theorem expose_eq_ok {v : View} {x r : Runtime} :
    x.expose v = .ok r ↔ x.exposeFault = none ∧
      r = { x with
        exposed := if v ∈ x.exposed then x.exposed else v :: x.exposed
        exposures := x.exposures ++ [v] } := by
  unfold expose
  cases x.exposeFault with
  | some e => simp
  | none => simp [eq_comm]

theorem pending_expose {v : View} {x r : Runtime} (h : x.expose v = .ok r) :
    r.pending = x.pending := by
  rw [(expose_eq_ok.mp h).2]

/-- Withdraws a buffer. -/
def retract (v : View) (r : Runtime) : Runtime := { r with exposed := r.exposed.filter (· ≠ v) }

/-- Whether a buffer is exposed. -/
def isExposed (v : View) (r : Runtime) : Bool := r.exposed.contains v

/-- Number of a view by its last exposure, from 0. -/
def viewNumber? (v : View) (r : Runtime) : Option Nat :=
  (r.exposures.reverse.findIdx? (· == v)).map (r.exposures.length - 1 - ·)

/-- Begins a call of the handler for a buffer, which must be exposed. -/
def enter (v : View) (r : Runtime) : Except HostError Runtime :=
  if r.isExposed v then .ok { r with invocations := r.invocations + 1 } else .error .noBuffer

/-- Ends a call of the handler: a failure becomes pending. -/
def leave (h : Handle) (reply : Reply) (r : Runtime) : Runtime :=
  match reply with
  | .failed text => { r with pending := (h, text) :: r.pending.filter (·.1 ≠ h) }
  | _ => r

/-- Takes the pending failure of a thread. -/
def takeFailure (h : Handle) (r : Runtime) : Option String × Runtime :=
  (r.pending.lookup h, { r with pending := r.pending.filter (·.1 ≠ h) })

end Runtime

/-! ### Calls of the handler -/

/-- How a call of the handler ended. -/
inductive Outcome
  | delivered
  /-- The handler failed, or could not be called. -/
  | failed (text : String)
  deriving DecidableEq, Repr

/-- Makes out how a call ended.  The pending failure is taken even if the call itself failed, so
    that nothing is left for the next frame of the thread. -/
def Runtime.conclude (call : Except HostError Unit) (h : Handle) (r : Runtime) :
    Outcome × Runtime :=
  match r.takeFailure h with
  | (some text, r) => (.failed text, r)
  | (none, r) =>
    match call with
    | .ok () => (.delivered, r)
    | .error e => (.failed e.message, r)

/-- The failure that is taken is the one of the thread. -/
theorem Runtime.conclude_eq (call : Except HostError Unit) (h : Handle) (r : Runtime) :
    r.conclude call h =
      (match r.pending.lookup h, call with
        | some text, _ => .failed text
        | none, .ok () => .delivered
        | none, .error e => .failed e.message,
      { r with pending := r.pending.filter (·.1 ≠ h) }) := by
  unfold conclude takeFailure
  cases r.pending.lookup h with
  | some text => rfl
  | none => rcases call with e | ⟨⟩ <;> rfl

end DepthRelay
