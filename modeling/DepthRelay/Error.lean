import DepthRelay.Session.State
import DepthRelay.Status
import DepthRelay.Text.Quoted

namespace DepthRelay

/-!
# Errors

What can go wrong, by cause, and how each cause is worded.

* `HostError` — failures reported by a host runtime.
* `RelayError` — failures of sessions, buffers and settings.
* `Abort` — the end of an activity that gives no answer at all: an arithmetic overflow, or a frame
  handler that gave up instead of returning.
-/

/-- Failures reported by a host runtime. -/
inductive HostError
  /-- The calling thread could not be attached. -/
  | attachFailed (text : String)
  /-- The frame buffer could not be handed to the host. -/
  | exposeFailed (text : String)
  /-- The call of the handler failed, as opposed to the handler itself. -/
  | invocationFailed (text : String)
  /-- The delivery names a buffer that is not exposed. -/
  | noBuffer
  deriving DecidableEq, Repr

namespace HostError

/-- The wording of a host error. -/
def message : HostError → String
  | attachFailed text => "Unable to attach thread: " ++ text
  | exposeFailed text => "Unable to expose frame buffer: " ++ text
  | invocationFailed text => "Frame handler call failed: " ++ text
  | noBuffer => "Frame buffer is not exposed"

/-- A host error as a term. -/
def report : HostError → String
  | attachFailed text => s!"AttachFailed({Text.quoted text})"
  | exposeFailed text => s!"ExposeFailed({Text.quoted text})"
  | invocationFailed text => s!"InvocationFailed({Text.quoted text})"
  | noBuffer => "NoBuffer"

end HostError

/-- Failures of sessions, buffers and settings. -/
inductive RelayError
  /-- The operation is not allowed in the session's state. -/
  | invalidState (operation : String) (state : SessionState)
  /-- No frame rate has this key. -/
  | unsupportedFrameRate (key : UInt32)
  /-- No camera is reachable through the descriptor. -/
  | noDevice
  /-- Several cameras are reachable through the descriptor. -/
  | ambiguousDevice (count : Nat)
  /-- The camera does not offer the use case of the frame rate. -/
  | useCaseNotFound (name : String)
  /-- A driver call failed. -/
  | device (operation : String) (status : Status)
  /-- A frame has more points than the buffer holds. -/
  | bufferOverflow (points capacity : Nat)
  /-- The host runtime refused something. -/
  | host (error : HostError)
  /-- Settings that cannot be used. -/
  | config (text : String)
  /-- A settings file that cannot be read or written. -/
  | storage (text : String)
  deriving DecidableEq, Repr

namespace RelayError

/-- The wording of an error. -/
def message : RelayError → String
  | invalidState operation state => s!"Cannot {operation} while session is {state.text}"
  | unsupportedFrameRate key => s!"Unsupported frame rate: {key}"
  | noDevice => "Cannot create the camera device"
  | ambiguousDevice count => s!"Expected one camera, found {count}"
  | useCaseNotFound name => "Cannot find appropriate mode: " ++ name
  | device operation status => s!"Cannot {operation}, CODE {status.code}"
  | bufferOverflow points capacity => s!"Frame of {points} points exceeds capacity {capacity}"
  | host error => "Host runtime error: " ++ error.message
  | config text => "Configuration error: " ++ text
  | storage text => "I/O error: " ++ text

/-- An error as a term, which is how the command line reports it. -/
def report : RelayError → String
  | invalidState operation state =>
    "InvalidState \x7b operation: " ++ Text.quoted operation ++ ", state: " ++ state.name ++ " \x7d"
  | unsupportedFrameRate key => s!"UnsupportedFrameRate({key})"
  | noDevice => "NoDevice"
  | ambiguousDevice count => s!"AmbiguousDevice({count})"
  | useCaseNotFound name => s!"UseCaseNotFound({Text.quoted name})"
  | device operation status =>
    "Device \x7b operation: " ++ Text.quoted operation ++ ", status: " ++ status.name ++ " \x7d"
  | bufferOverflow points capacity =>
    "BufferOverflow \x7b points: " ++ toString points ++ ", capacity: " ++ toString capacity ++ " \x7d"
  | host error => s!"Host({error.report})"
  | config text => s!"Config({Text.quoted text})"
  | storage text => s!"Io({Text.quoted text})"

end RelayError

/-- The end of an activity without an answer. -/
inductive Abort
  /-- A product does not fit the word it is computed in. -/
  | multiplyOverflow
  /-- A frame handler gave up. -/
  | handler (text : String)
  deriving DecidableEq, Repr

/-- The wording of an abort. -/
def Abort.message : Abort → String
  | multiplyOverflow => "attempt to multiply with overflow"
  | handler text => text

end DepthRelay
