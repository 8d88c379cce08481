import RouteKeeper.Kernel.Backend
import RouteKeeper.Kernel.Netlink
import RouteKeeper.Settings
import RouteKeeper.Shell.Execution
import RouteKeeper.Vpp.Backend
import RouteKeeper.Vpp.Client

/-!
# The platform

What the sidecar needs of the host that it runs on: a shell, the kernel's tables
over netlink, and remote calls to the agent. The settings say how the backends are
put on top.
-/

namespace RouteKeeper

/-- The services of a host, over one state. -/
structure Platform (σ : Type) where
  /-- Executes shell commands. -/
  shell : Server shell σ
  /-- Answers netlink requests. -/
  netlink : Server Kernel.netlink σ
  /-- Carries remote calls. -/
  remote : Server Vpp.remote σ

namespace Settings

/-- What the settings tell the kernel backend. -/
def naming (s : Settings) : Kernel.Naming :=
  ⟨s.kernel.interfacePrefix, s.connections.clientInterfaceName⟩

/-- The agent's client that the settings describe. -/
def client (s : Settings) : Vpp.Client :=
  ⟨s.vpp.agentEndpoint, s.requestTimeout⟩

end Settings

namespace Platform

/-- The dataplane of a mode on a platform. -/
def dataplane {σ : Type} (p : Platform σ) (s : Settings) : Mode → Server dataplane σ
  | .kernel => (Kernel.backend s.naming).serve (Kernel.Netlink.table.serve p.netlink)
  | .vpp =>
    (Vpp.backend s.connections.clientInterfaceName).serve (s.client.configurator.serve p.remote)

end Platform

end RouteKeeper
