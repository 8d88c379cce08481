import RouteKeeper.Double.Host
import RouteKeeper.Double.ScriptedAgent
import RouteKeeper.Platform

/-!
# A world to start a sidecar in

A kernel in memory, a scripted agent, and a shell that notes commands and ends each
of them in the same way.
-/

namespace RouteKeeper

/-- A shell that carries out nothing. -/
structure ScriptedShell where
  /-- How commands end. -/
  ending : Shell.Finished := {}
  /-- The commands so far, oldest first. -/
  commands : List String := []

/-- All that surrounds a sidecar. -/
structure World where
  shell : ScriptedShell := {}
  host : Host := {}
  agent : ScriptedAgent := {}

namespace World

/-- The services of a world. -/
def platform : Platform World where
  shell := fun command w =>
    (.ok w.shell.ending, { w with shell.commands := w.shell.commands ++ [command] })
  netlink := fun c w =>
    let (answer, host) := Host.server c w.host
    (answer, { w with host })
  remote := fun c w =>
    let (answer, agent) := ScriptedAgent.server c w.agent
    (answer, { w with agent })

/-- The world with nothing noted. -/
def clear (w : World) : World :=
  { w with shell.commands := [], host.requests := [], agent.requests := [] }

end World

end RouteKeeper
