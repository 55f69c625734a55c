namespace DepthRelay

/-!
# Session states

A session is closed, holds a camera, or captures from it.
-/

/-- Where a session stands in its life. -/
inductive SessionState
  | closed
  | opened
  | capturing
  deriving DecidableEq, Repr, Inhabited

namespace SessionState

/-- The state as messages name it. -/
def text : SessionState → String
  | closed => "closed"
  | opened => "opened"
  | capturing => "capturing"

/-- The state as records name it. -/
def name : SessionState → String
  | closed => "Closed"
  | opened => "Opened"
  | capturing => "Capturing"

end SessionState

end DepthRelay
