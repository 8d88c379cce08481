import RouteKeeper.Failure
import RouteKeeper.Service
import RouteKeeper.Vpp.Schema

/-!
# The configuration agent's service

What the agent can be asked: to add items, to remove items, and for its
configuration.
-/

namespace RouteKeeper.Vpp

namespace Agent

/-- A request to the agent. -/
inductive Call where
  /-- Adds or updates the given items. -/
  | update (config : ConfigData)
  /-- Removes the given items. -/
  | delete (config : ConfigData)
  /-- Asks for the configuration. -/
  | get
  deriving DecidableEq

/-- What a request returns. -/
abbrev Result : Call → Type
  | .update _ => Unit
  | .delete _ => Unit
  | .get => ConfigData

/-- The name of a request. -/
def Call.name : Call → String
  | .update _ => "update"
  | .delete _ => "delete"
  | .get => "get"

end Agent

/-- The service of the configuration agent. -/
abbrev agent : Service :=
  ⟨Agent.Call, Agent.Result, Failure⟩

end RouteKeeper.Vpp
