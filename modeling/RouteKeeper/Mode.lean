/-!
# Dataplane modes

The two forwarding substrates, how a setting selects one, and the two ways in
which they differ: whether a write replaces, and whether drift is looked for.
-/

namespace RouteKeeper

/-- The forwarding substrate that is programmed. -/
inductive Mode where
  /-- A user-space packet processor, programmed through its configuration agent. -/
  | vpp
  /-- The routing table of the host kernel. -/
  | kernel
  deriving DecidableEq, Inhabited

namespace Mode

/-- The name of a mode in texts and settings. -/
def text : Mode → String
  | vpp => "vpp"
  | kernel => "kernel"

instance : ToString Mode := ⟨text⟩

/-- The mode with the given name. -/
def ofName? (name : String) : Option Mode :=
  if name = "vpp" then some vpp else if name = "kernel" then some kernel else none

/-- Only the exact setting `kernel` selects the kernel; any other or none selects VPP. -/
def ofSetting (setting : Option String) : Mode :=
  if setting = some "kernel" then kernel else vpp

/-- Whether a write takes the place of the destination's earlier route.
VPP adds one more path of equal cost instead. -/
def replacesRoutes : Mode → Bool
  | vpp => false
  | kernel => true

/-- Whether installed routes are compared with desired ones. VPP drift is not looked for. -/
def detectsDrift : Mode → Bool
  | vpp => false
  | kernel => true

end Mode

end RouteKeeper
