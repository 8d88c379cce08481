import RouteKeeper.Failure
import RouteKeeper.Service

/-!
# Journals

A journal stands in front of a server: it notes each call and makes calls fail
as arranged beforehand. An arranged outage names a call by its full text or by
its name alone, and lasts for a number of calls or for good.
-/

namespace RouteKeeper

/-- An arranged failure of calls. -/
structure Outage where
  /-- The full text or the name of the calls that fail. -/
  target : String
  /-- What they fail with. -/
  failure : Failure
  /-- How many more calls fail; none for all of them. -/
  left : Option Nat

namespace Outage

/-- An outage is over once no failing call is left. -/
def isOver (o : Outage) : Bool :=
  o.left == some 0

/-- One failing call fewer is left. -/
def used (o : Outage) : Outage :=
  { o with left := o.left.map (· - 1) }

end Outage

/-- The calls noted so far and the outages arranged. -/
structure Journal where
  /-- The texts of the calls, oldest first. -/
  calls : List String := []
  /-- The outages; no two are on the same text. -/
  outages : List Outage := []

namespace Journal

/-- Arranges an outage in place of an earlier one on the same text. -/
def arrange (j : Journal) (o : Outage) : Journal :=
  { j with outages := o :: j.outages.filter (·.target != o.target) }

/-- Calls off the outage on a text. -/
def callOff (j : Journal) (target : String) : Journal :=
  { j with outages := j.outages.filter (·.target != target) }

/-- Forgets the calls noted so far. -/
def clear (j : Journal) : Journal :=
  { j with calls := [] }

/-- The outage on a text that is not over. -/
def outage? (j : Journal) (target : String) : Option Outage :=
  j.outages.find? fun o => o.target == target && !o.isOver

/-- Notes a call and tells what it fails with, if it fails: first the outage on the full text
is looked for, then the one on the name. -/
def enter (name text : String) (j : Journal) : Option Failure × Journal :=
  let j := { j with calls := j.calls ++ [text] }
  match (j.outage? text).or (j.outage? name) with
  | none => (none, j)
  | some o =>
    (some o.failure,
      { j with outages := j.outages.map fun o' => if o'.target == o.target then o'.used else o' })

end Journal

end RouteKeeper
