/-!
# The reconciliation clock

A gate that opens once an interval has passed since the last reconciliation
pass. Times are milliseconds since some fixed moment.
-/

namespace RouteKeeper

/-- Remembers when a pass last ran. -/
structure Clock where
  /-- The least time between two passes. -/
  interval : Nat
  /-- When the last pass ran, or the clock was started. -/
  last : Nat
  deriving DecidableEq, Inhabited

namespace Clock

/-- A clock started now; the first pass is one interval away. -/
def start (interval now : Nat) : Clock :=
  ⟨interval, now⟩

/-- The time since the last pass. -/
def sinceLast (c : Clock) (now : Nat) : Nat :=
  now - c.last

/-- A pass is due once the interval has passed since the last one. -/
def isDue (c : Clock) (now : Nat) : Bool :=
  c.interval ≤ c.sinceLast now

/-- Notes a pass now, whatever its outcome. -/
def mark (c : Clock) (now : Nat) : Clock :=
  { c with last := now }

end Clock

end RouteKeeper
