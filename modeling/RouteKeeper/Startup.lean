import RouteKeeper.Platform
import RouteKeeper.Router
import RouteKeeper.Shell.Quote

/-!
# Starting up

Settings that are not acceptable stop the start before anything is touched. In
kernel mode the host has to forward packets, and a host that refuses stops the
start. In VPP mode the routes that the agent holds may be adopted; that they cannot
be is no reason not to start.
-/

namespace RouteKeeper

/-- A sidecar that has started. -/
structure Sidecar where
  /-- Which dataplane it programs. -/
  mode : Mode
  /-- Its router. -/
  router : Router
  deriving DecidableEq

namespace Startup

/-- Turns on forwarding of IPv4 packets. -/
def enableForwarding : Program shell (Except Failure Unit) :=
  (Shell.executeOrFail Shell.enableForwarding).bind fun
    | .error failure =>
      .done (.error (.startup ("failed to enable IP forwarding: " ++ failure.message)))
    | .ok _ => .done (.ok ())

/-- Checks the settings and prepares the host. -/
def prepare (s : Settings) (mode : Mode) : Program shell (Except Failure Unit) :=
  match s.validate, mode with
  | .error failure, _ => .done (.error failure)
  | .ok (), .kernel => enableForwarding
  | .ok (), .vpp => .done (.ok ())

/-- Adopts the agent's routes if the settings ask for it. -/
def adoption (s : Settings) (mode : Mode) : Router.Work Unit :=
  if mode = .vpp && s.reconcile.recoverRoutesOnStart then do
    let _ ← Router.recover
    return ()
  else return ()

/-- Starts a sidecar. -/
def start {σ : Type} (p : Platform σ) (s : Settings) (environment : Option String) (now : Nat)
    (w : σ) : Except Failure Sidecar × σ :=
  let mode := s.mode environment
  match (prepare s mode).run p.shell w with
  | (.error failure, w) => (.error failure, w)
  | (.ok (), w) =>
    let ((), router, w) :=
      (adoption s mode).run (p.dataplane s mode) now (.start s.reconcileInterval now) w
    (.ok ⟨mode, router⟩, w)

end Startup

end RouteKeeper
