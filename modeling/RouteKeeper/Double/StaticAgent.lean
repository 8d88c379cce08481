import RouteKeeper.Vpp.Agent

/-!
# A configuration agent in memory

An agent that holds one configuration. An update appends routes, as VPP does; a
delete takes away the routes equal to a given one.
-/

namespace RouteKeeper

/-- A request seen by the agent, with the routes it was about. -/
inductive AgentRequest where
  | update (routes : List Vpp.Route)
  | delete (routes : List Vpp.Route)
  | get
  deriving DecidableEq

/-- A configuration agent held in memory. -/
structure StaticAgent where
  /-- The configuration. -/
  config : Vpp.ConfigData := {}
  /-- The requests so far, oldest first. -/
  requests : List AgentRequest := []

namespace StaticAgent

/-- Notes a request. -/
def note (a : StaticAgent) (r : AgentRequest) : StaticAgent :=
  { a with requests := a.requests ++ [r] }

/-- Works on the routes of the configuration. -/
def onRoutes (a : StaticAgent) (f : List Vpp.Route → List Vpp.Route) : StaticAgent :=
  { a with config := { a.config with routes := f a.config.routes } }

/-- Answers requests to the agent. -/
def server : Server Vpp.agent StaticAgent
  | .update config, a =>
    (.ok (), (a.note (.update config.routes)).onRoutes (· ++ config.routes))
  | .delete config, a =>
    (.ok (), (a.note (.delete config.routes)).onRoutes (·.filter (!config.routes.contains ·)))
  | .get, a => (.ok a.config, a.note .get)

end StaticAgent

end RouteKeeper
