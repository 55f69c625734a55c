import DepthRelay.Json.Print
import DepthRelay.Settings.Basic

namespace DepthRelay.Settings

/-!
# Writing settings

* `fieldValue` — the value of one field as it is written.
* `render`, `print` — the whole document: all fields in their order, one to a line.
-/

/-- The name of an overflow policy in files. -/
def policyName : OverflowPolicy → String
  | .reject => "reject"
  | .truncate => "truncate"

/-- The name of a delivery mode in files. -/
def deliveryName : DeliveryMode → String
  | .synchronous => "synchronous"
  | .queued => "queued"

/-- The value of a field as it is written. -/
def fieldValue (s : Settings) : Field → List Char
  | .frameRate => Json.number s.frameRate.toNat
  | .exposureTime => Json.number s.exposureTime.toNat
  | .maxPoints => Json.number s.maxPoints.toNat
  | .overflowPolicy => Json.quote (policyName s.overflowPolicy).toList
  | .delivery => Json.quote (deliveryName s.delivery).toList
  | .handoffDepth => Json.number s.handoffDepth.toNat
  | .attachName => Json.quote s.attachName.toList

/-- The document that describes settings. -/
def render (s : Settings) : List Char :=
  Json.object (Field.all.map fun f => (f.name, s.fieldValue f))

/-- The document as text. -/
def print (s : Settings) : String := String.ofList s.render

end DepthRelay.Settings
