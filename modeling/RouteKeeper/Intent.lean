import RouteKeeper.Failure
import RouteKeeper.Network
import RouteKeeper.Text.Blank

/-!
# Route intents

The desired rule "traffic for this subnet goes to this next hop", how it is
read from the pair of texts that the control plane sends, and how it is written.
-/

namespace RouteKeeper

/-- Traffic for `subnet` goes to `nextHop`. -/
structure Intent where
  /-- The remote subnet; the key of the intent. -/
  subnet : Network
  /-- The gateway for the subnet. -/
  nextHop : Address
  deriving DecidableEq, Inhabited

namespace Intent

/-- The intent for a subnet with its host bits cleared. -/
def of (subnet : Network) (nextHop : Address) : Intent :=
  ⟨subnet.truncate, nextHop⟩

/-- An intent is canonical when its subnet has no host bits. -/
def Canonical (i : Intent) : Prop :=
  i.subnet.Canonical

instance (i : Intent) : Decidable i.Canonical :=
  inferInstanceAs (Decidable i.subnet.Canonical)

/-- The written form of an intent. -/
def text (i : Intent) : String :=
  s!"{i.subnet.text} via {i.nextHop.text}"

instance : ToString Intent := ⟨text⟩

/-- What is said of a text that is no network. -/
def networkComplaint : String := "invalid IP address syntax"

/-- What is said of a text that is no address. -/
def addressComplaint : String := "invalid IPv4 address syntax"

/-- Reads an intent. Blanks around either text are ignored, the subnet is looked at
first, its host bits are cleared, and a failure quotes the text as it was given. -/
def parse (subnetText nextHopText : String) : Except Failure Intent :=
  match Network.ofChars? (Text.trim subnetText.toList) with
  | none => .error (.invalidAddress "remote subnet" subnetText networkComplaint)
  | some subnet =>
    match Address.ofChars? (Text.trim nextHopText.toList) with
    | none => .error (.invalidAddress "next hop" nextHopText addressComplaint)
    | some nextHop => .ok (.of subnet nextHop)

end Intent

end RouteKeeper
