namespace DepthRelay.Bench

/-!
# Gates

A gate holds up whoever arrives while it is closed, so that a bench can look at what happens
meanwhile.

* `Gate.arrive` — somebody arrives and passes or waits; `Gate.holds` tells which.
* `Gate.release` — lets the next few pass, in the order of arrival, now or later.
* `Gate.setClosed` — closes the gate and forgets the permits left over, or opens it for everybody.
-/

/-- A gate for parties named by `α`. -/
structure Gate (α : Type) where
  closed : Bool := false
  /-- How many may still pass while the gate is closed. -/
  permits : Nat := 0
  /-- Who waits, in the order of arrival. -/
  waiting : List α := []
  deriving Repr

namespace Gate

variable {α : Type}

/-- Somebody arrives at the gate. -/
def arrive (a : α) (g : Gate α) : Gate α :=
  if !g.closed then g
  else if g.permits > 0 then { g with permits := g.permits - 1 }
  else { g with waiting := g.waiting ++ [a] }

/-- Whether somebody waits at the gate. -/
def holds [BEq α] (a : α) (g : Gate α) : Bool := g.waiting.contains a

/-- Lets the next `n` pass. -/
def release (n : Nat) (g : Gate α) : Gate α :=
  { g with permits := g.permits + (n - g.waiting.length), waiting := g.waiting.drop n }

/-- Closes the gate or opens it. -/
def setClosed (on : Bool) (g : Gate α) : Gate α :=
  if on then { g with closed := true, permits := 0 } else {}

end Gate

end DepthRelay.Bench
