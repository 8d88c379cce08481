import RouteKeeper.Double.Recording
import RouteKeeper.Router

/-!
# Sessions of a router

One router serves requests one after another over one backend while time passes and
things happen to the backend from outside. A site fixes what stays the same in a session:
the mode, the server behind the dataplane, and what an outside event does to it.

## Implementation notes

Statements about a session are about every list of events. A list that ends early is a
list too, so they hold after each event.
-/

namespace RouteKeeper

/-- An injection without its notation. -/
theorem Router.inject_eq (mode : Mode) (intent : Intent) :
    Router.inject mode intent = .acquire fun now r =>
      (Router.reconcileIfDue mode now r).bind fun r =>
        if r.desired.isCurrent intent then .done (.ok ())
        else (Router.clearTheWay mode intent r).bind fun
          | .error failure => .done (.error failure)
          | .ok r => Router.writeAndRecord intent r := rfl

/-- A pass that is asked for, without its notation. -/
theorem Router.reconcileNow_eq (mode : Mode) :
    Router.reconcileNow mode = .acquire fun now r =>
      (Task.ofProgram (Reconciliation.pass mode r.desired)).bind fun result =>
        .save { r with clock := r.clock.mark now } (.done result) := rfl

/-- In VPP mode a due pass steps the clock and does nothing else. -/
theorem Router.run_reconcileIfDue_vpp {σ : Type} (server : Server dataplane σ) (now : Nat)
    (r : Router) (s : σ) :
    ∃ clock, (Router.reconcileIfDue .vpp now r).run server now r s =
      ({ r with clock }, { r with clock }, s) := by
  unfold Router.reconcileIfDue
  split
  · exact ⟨r.clock.mark now, rfl⟩
  · exact ⟨r.clock, rfl⟩

/-- What a caller can ask of a router. -/
inductive Request where
  /-- Injects the route that two texts stand for. -/
  | inject (subnetText nextHopText : String)
  /-- Runs a pass now. -/
  | reconcile
  /-- Adopts what is installed. -/
  | recover
  deriving DecidableEq

/-- What a caller gets back. -/
inductive Outcome where
  /-- The end of an injection. -/
  | injected (result : Except Failure Unit)
  /-- The end of a pass. -/
  | reconciled (result : Except Failure Report)
  /-- The end of a recovery. -/
  | recovered (result : Except Failure Nat)

/-- The work that answers a request. -/
def Request.work (mode : Mode) : Request → Router.Work Outcome
  | inject subnetText nextHopText =>
    (Router.injectRoute mode subnetText nextHopText).bind fun result => .done (.injected result)
  | reconcile => (Router.reconcileNow mode).bind fun result => .done (.reconciled result)
  | recover => Router.recover.bind fun result => .done (.recovered result)

/-- A router at work: the time, what its lock guards, and the state of its backend. -/
structure Session (σ : Type) where
  /-- The time. -/
  now : Nat
  /-- What the router's lock guards. -/
  router : Router
  /-- The state of the backend. -/
  backend : σ

/-- A session with a new router. -/
def Session.start {σ : Type} (interval now : Nat) (backend : σ) : Session σ :=
  ⟨now, .start interval now, backend⟩

/-- What can happen next in a session. -/
inductive Event (ε : Type) where
  /-- A caller asks for something. -/
  | request (q : Request)
  /-- Time passes. -/
  | advance (duration : Nat)
  /-- Something happens to the backend from outside. -/
  | outside (e : ε)

/-- What stays the same in a session. -/
structure Site (σ ε : Type) where
  /-- The mode of the dataplane. -/
  mode : Mode
  /-- The server behind the dataplane. -/
  server : Server dataplane σ
  /-- What an outside event does to the backend. -/
  change : ε → σ → σ

namespace Site

variable {σ ε : Type}

/-- Serves one request to its end. -/
def serve (x : Site σ ε) (q : Request) (s : Session σ) : Outcome × Session σ :=
  let (outcome, router, backend) := (q.work x.mode).run x.server s.now s.router s.backend
  (outcome, { s with router, backend })

/-- Injects an intent as it is given, host bits included. -/
def inject (x : Site σ ε) (i : Intent) (s : Session σ) : Except Failure Unit × Session σ :=
  let (result, router, backend) := (Router.inject x.mode i).run x.server s.now s.router s.backend
  (result, { s with router, backend })

/-- Serving an injection of two texts is injecting what they stand for. -/
theorem serve_inject {x : Site σ ε} {subnetText nextHopText : String} {i : Intent}
    (hparse : Intent.parse subnetText nextHopText = .ok i) (s : Session σ) :
    x.serve (.inject subnetText nextHopText) s =
      (.injected (x.inject i s).1, (x.inject i s).2) := by
  simp only [serve, Request.work, Router.injectRoute, hparse, Task.run_bind]
  rfl

/-- The session after one event. -/
def step (x : Site σ ε) (s : Session σ) : Event ε → Session σ
  | .request q => (x.serve q s).2
  | .advance duration => { s with now := s.now + duration }
  | .outside e => { s with backend := x.change e s.backend }

/-- The session after a list of events. -/
def run (x : Site σ ε) (events : List (Event ε)) (s : Session σ) : Session σ :=
  events.foldl x.step s

/-- What every event keeps holds after every list of events. -/
theorem run_induction {x : Site σ ε} {P : Session σ → Prop} {s : Session σ} (hs : P s)
    (hstep : ∀ s e, P s → P (x.step s e)) (events : List (Event ε)) : P (x.run events s) := by
  induction events generalizing s with
  | nil => exact hs
  | cons e rest ih => exact ih (hstep s e hs)

end Site

/-- What can happen to a recording dataplane that has a guard before it. -/
inductive Interference (γ : Type) where
  /-- The writes of a subnet fail from now on. -/
  | failFor (subnet : Network)
  /-- The guard goes on from another state. -/
  | arrange (g : γ)

namespace Interference

variable {γ : Type}

/-- The backend after an interference. -/
def apply : Interference γ → γ × Recording → γ × Recording
  | failFor subnet, (g, r) => (g, r.failFor subnet)
  | arrange g, (_, r) => (g, r)

/-- No interference touches the installed routes. -/
@[simp] theorem installed_apply (e : Interference γ) (s : γ × Recording) :
    (e.apply s).2.installed = s.2.installed := by
  cases e <;> rfl

end Interference

/-- A router over a recording dataplane whose calls fail as a guard has it. -/
def Recording.site {γ : Type} (mode : Mode) (guard : Dataplane.Call → γ → Option Failure × γ) :
    Site (γ × Recording) (Interference γ) :=
  ⟨mode, Server.guarded guard (Recording.server mode), Interference.apply⟩

end RouteKeeper
