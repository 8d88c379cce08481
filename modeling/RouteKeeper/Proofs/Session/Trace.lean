import RouteKeeper.Proofs.Session
import RouteKeeper.Proofs.Task.Assertion
import RouteKeeper.Proofs.Task.Trace

/-!
# The calls and the answers of a session

The trace of a session is every call that its router makes, in order, and its answers are what
the callers get back. A session of two lists of events is a session of the first and then one of
the second, and so is its trace.
-/

namespace RouteKeeper

/-- A pass inside a task, without its notation. -/
theorem Router.ofProgram_pass (mode : Mode) (desired : DesiredTable) :
    (Task.ofProgram (Reconciliation.pass mode desired) : Router.Work _) =
      if mode.detectsDrift then .call .installed fun
        | .error failure => .done (.error failure)
        | .ok installed =>
          (Task.ofProgram (Reconciliation.repair installed desired.toList {})).bind
            fun report => .done (.ok report)
      else .done (.ok {}) := by
  cases mode with
  | vpp => rfl
  | kernel =>
      refine congrArg (Task.call _) (funext fun answer => ?_)
      cases answer with
      | error failure => rfl
      | ok installed => exact Task.ofProgram_bind _ _

/-- A recovery lists the routes and makes no other call. -/
theorem Request.trace_recover {σ : Type} {server : Server dataplane σ} (mode : Mode) (now : Nat)
    (r : Router) (s : σ) :
    (Request.recover.work mode).trace server now r s =
      [⟨r, s, .installed, (server .installed s).1.isOk⟩] := by
  refine congrArg (List.cons _) ?_
  cases (server .installed s).1 with
  | error failure => rfl
  | ok installed => rfl

/-- The subnet that an injection is for, whatever its next hop. Texts that are no network and
other requests are for none. -/
def Request.subnet? : Request → Option Network
  | inject subnetText _ => (Network.ofChars? (Text.trim subnetText.toList)).map (·.truncate)
  | reconcile | recover => none

/-- An injection that is read is for the subnet of its intent. -/
theorem Request.subnet?_inject {subnetText nextHopText : String} {i : Intent}
    (h : Intent.parse subnetText nextHopText = .ok i) :
    (inject subnetText nextHopText).subnet? = some i.subnet := by
  simp only [Intent.parse] at h
  split at h
  case h_1 => cases h
  case h_2 subnet hsubnet =>
    split at h
    · cases h
    · cases h
      rw [subnet?, hsubnet]
      rfl

namespace Site

variable {σ ε : Type}

/-- A site to which nothing happens from outside. -/
def closed (mode : Mode) (server : Server dataplane σ) : Site σ Empty :=
  ⟨mode, server, nofun⟩

/-- The calls that the router makes in one event. -/
def callsOf (x : Site σ ε) (s : Session σ) : Event ε → List (Moment dataplane Router σ)
  | .request q => (q.work x.mode).trace x.server s.now s.router s.backend
  | .advance _ | .outside _ => []

theorem callsOf_inject {x : Site σ ε} {subnetText nextHopText : String} {i : Intent}
    (hparse : Intent.parse subnetText nextHopText = .ok i) (s : Session σ) :
    x.callsOf s (.request (.inject subnetText nextHopText)) =
      (Router.inject x.mode i).trace x.server s.now s.router s.backend := by
  simp only [callsOf, Request.work, Router.injectRoute, hparse, Task.trace_bind]
  exact List.append_nil _

/-- The calls that the router makes in a list of events, in order. -/
def trace (x : Site σ ε) : List (Event ε) → Session σ → List (Moment dataplane Router σ)
  | [], _ => []
  | e :: rest, s => x.callsOf s e ++ x.trace rest (x.step s e)

/-- The answer to one event, with the request that it answers. -/
def answersOf (x : Site σ ε) (s : Session σ) : Event ε → List (Request × Outcome)
  | .request q => [(q, (x.serve q s).1)]
  | .advance _ | .outside _ => []

/-- The requests of a list of events with their answers, in order. -/
def answers (x : Site σ ε) : List (Event ε) → Session σ → List (Request × Outcome)
  | [], _ => []
  | e :: rest, s => x.answersOf s e ++ x.answers rest (x.step s e)

variable (x : Site σ ε) (before rest : List (Event ε)) (s : Session σ)

theorem run_append : x.run (before ++ rest) s = x.run rest (x.run before s) :=
  List.foldl_append ..

theorem trace_append :
    x.trace (before ++ rest) s = x.trace before s ++ x.trace rest (x.run before s) := by
  induction before generalizing s with
  | nil => rfl
  | cons e before ih =>
      simp only [List.cons_append, trace, ih, List.append_assoc]
      rfl

/-- What no call and no outside event breaks lasts for a whole session. -/
theorem run_keeps {x : Site σ ε} {P : σ → Prop} (hserver : x.server.Keeps P)
    (hchange : ∀ e s, P s → P (x.change e s)) (events : List (Event ε)) {s : Session σ}
    (hs : P s.backend) : P (x.run events s).backend := by
  refine run_induction (x := x) (P := fun s => P s.backend) hs ?_ events
  intro s e hs
  cases e with
  | request q => exact hserver.run _ hs
  | advance duration => exact hs
  | outside e => exact hchange e _ hs

end Site

end RouteKeeper
