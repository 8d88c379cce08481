import RouteKeeper.Double.Host
import RouteKeeper.Double.Journal
import RouteKeeper.Double.Recording
import RouteKeeper.Double.StaticAgent
import RouteKeeper.Double.StaticTable
import RouteKeeper.Kernel.Backend
import RouteKeeper.Vpp.Backend
import RouteKeeper.Vpp.Rendering

/-!
# Backends to try a router on

The recording dataplane, and the two real backends over tables and agents in
memory. A journal stands before each double, so that calls are noted and can be
made to fail; the kernel in memory has its own refusals.
-/

namespace RouteKeeper.Double

/-- The recording dataplane behind a journal. -/
def recording (mode : Mode) : Server dataplane (Journal × Recording) :=
  Server.guarded (fun c j => j.enter c.name c.text) (Recording.server mode)

/-- The kernel's tables in memory behind a journal. -/
def staticTables : Server Kernel.tables (Journal × StaticTable) :=
  Server.guarded (fun c j => j.enter c.name c.text) StaticTable.server

/-- The kernel backend over tables in memory. -/
def kernel (naming : Kernel.Naming) : Server dataplane (Journal × StaticTable) :=
  (Kernel.backend naming).serve staticTables

/-- The VPP backend over an agent in memory. -/
def vpp (interfaceName : String) : Server dataplane (Journal × StaticAgent) :=
  (Vpp.backend interfaceName).serve
    (Server.guarded (fun c j => j.enter c.name c.text) StaticAgent.server)

/-- The kernel's tables over netlink to a kernel in memory. -/
def netlinkTables : Server Kernel.tables Host :=
  Kernel.Netlink.table.serve Host.server

/-- The kernel backend over netlink to a kernel in memory. -/
def netlink (naming : Kernel.Naming) : Server dataplane Host :=
  (Kernel.backend naming).serve netlinkTables

end RouteKeeper.Double
