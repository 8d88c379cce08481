import RouteKeeper.Double.Host
import RouteKeeper.Proofs.DuePass
import RouteKeeper.Proofs.Kernel.Refinement
import RouteKeeper.Proofs.Turns

/-!
# Written routes in a dump

A route that was written through netlink comes back in a dump with the prefix length, gateway and
link that were asked for, and with the destination that was asked for unless the prefix length is
zero. Read again it is the route that was written, so a pass leaves it alone. A route of prefix
length zero is read as a default route. Default routes are not listed as installed, so a pass
writes it once more.
-/

namespace RouteKeeper.Kernel

namespace Netlink

end Netlink

open Netlink Recording Reconciliation

/-- The routes that messages tell of and that are listed as installed. -/
def installedIn (messages : List RouteMessage) : List InstalledRoute :=
  (messages.filterMap routeOf?).filter (!·.isDefault)

variable {σ : Type} {server : Server netlink σ} {s : σ} {naming : Naming}

end RouteKeeper.Kernel
