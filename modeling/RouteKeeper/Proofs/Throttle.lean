import RouteKeeper.Proofs.Narration

/-!
# The throttle of passes

An injection runs a pass only if the interval has gone by since the last pass and since the start
of the router; then it runs exactly one, before it does anything of its own. So a pass that comes
with an injection is an interval away from every pass before it, however many callers there are
and whatever the passes came to.

## Implementation notes

When a pass ran is read off the remarks of a session and not off the clock. That the clock has the
time of the latest pass is what a session keeps.
-/

namespace RouteKeeper

open Dataplane

/-- A pass of a session. -/
structure Pass where
  /-- When the pass ran. -/
  time : Nat
  /-- Whether it came with an injection; otherwise it was asked for. -/
  injected : Bool
  deriving DecidableEq

namespace Pass

/-- If the later pass came with an injection, it is an interval away from the earlier one. -/
def Spaced (interval : Nat) (earlier later : Pass) : Prop :=
  later.injected = true → earlier.time + interval ≤ later.time

/-- The latest of a start and the times of some passes. -/
def latest (started : Nat) (passes : List Pass) : Nat :=
  passes.foldl (fun time p => max time p.time) started

@[simp] theorem latest_append_singleton (started : Nat) (passes : List Pass) (p : Pass) :
    latest started (passes ++ [p]) = max (latest started passes) p.time := by
  simp [latest]

theorem start_le_latest (started : Nat) (passes : List Pass) : started ≤ latest started passes := by
  induction passes generalizing started with
  | nil => exact Nat.le_refl _
  | cons p rest ih => exact Nat.le_trans (Nat.le_max_left _ _) (ih _)

theorem time_le_latest {started : Nat} {passes : List Pass} {p : Pass} (h : p ∈ passes) :
    p.time ≤ latest started passes := by
  induction passes generalizing started with
  | nil => cases h
  | cons q rest ih =>
      rcases List.mem_cons.mp h with rfl | h
      · exact Nat.le_trans (Nat.le_max_right _ _) (start_le_latest _ _)
      · exact ih h

end Pass

namespace Router

variable {σ : Type} {server : Server dataplane σ} {mode : Mode} {i : Intent} {now : Nat}
  {r : Router} {s : σ}

/-- An injection moves the clock if a pass was due, and only then. -/
theorem clock_inject :
    ((inject mode i).run server now r s).2.1.clock =
      if r.clock.isDue now then r.clock.mark now else r.clock := by
  rw [inject_eq_fulfil]
  simp only [Task.run, Task.run_bind]
  by_cases hdue : r.clock.isDue now = true
  · rw [if_pos hdue, run_reconcileIfDue_of_due hdue]
    exact fulfil_saves_clock.run rfl
  · rw [if_neg hdue, reconcileIfDue, if_neg hdue]
    exact fulfil_saves_clock.run rfl

/-- A recovery leaves the clock alone. -/
theorem clock_recover : (recover.run server now r s).2.1.clock = r.clock := by
  simp only [recover, Task.run]
  cases (server .installed s).1 with
  | error failure => rfl
  | ok installed => rfl

end Router

/-- Whether an event is an injection. -/
def Event.isInjection {ε : Type} : Event ε → Bool
  | .request (.inject _ _) => true
  | _ => false

namespace Site

variable {σ ε : Type} (x : Site σ ε) (s : Session σ)

/-- What is told of the router in one event. -/
def remarksOf : Event ε → List Remark
  | .request q => (q.told x.mode).remarks x.server s.now s.router s.backend
  | .advance _ | .outside _ => []

/-- What would be told of a pass now. -/
def passRemarks : List Remark :=
  Router.passRemarks x.server x.mode s.now s.router.desired s.router s.backend

/-- The passes in one event. -/
def passesOf (e : Event ε) : List Pass :=
  ((x.remarksOf s e).filter (· == .passBegins)).map fun _ => ⟨s.now, e.isInjection⟩

/-- The passes in a list of events, in order. -/
def passes : List (Event ε) → Session σ → List Pass
  | [], _ => []
  | e :: rest, s => x.passesOf s e ++ passes rest (x.step s e)

/-- The calls among the remarks are the calls of the router. -/
theorem filterMap_remarksOf (e : Event ε) :
    (x.remarksOf s e).filterMap (·.call?) = (x.callsOf s e).map (·.call) := by
  cases e with
  | request q => rw [remarksOf, Task.filterMap_remarks, Request.silent_told, callsOf]
  | advance duration => rfl
  | outside e => rfl

variable {x s} {subnetText nextHopText : String}

theorem remarksOf_malformed {failure : Failure}
    (h : Intent.parse subnetText nextHopText = .error failure) :
    x.remarksOf s (.request (.inject subnetText nextHopText)) = [] := by
  simp only [remarksOf, Request.told, h]
  rfl

theorem router_malformed {failure : Failure}
    (h : Intent.parse subnetText nextHopText = .error failure) :
    (x.serve (.inject subnetText nextHopText) s).2.router = s.router := by
  simp only [serve, Request.work, Router.injectRoute, h]
  rfl

/-- What is told of an injection: a pass if one is due, and calls about its subnet. -/
theorem remarksOf_inject {i : Intent} (h : Intent.parse subnetText nextHopText = .ok i) :
    ∃ own : List Call, (∀ c ∈ own, c.isAbout i.subnet = true) ∧
      x.remarksOf s (.request (.inject subnetText nextHopText)) =
        (if s.router.clock.isDue s.now then x.passRemarks s else []) ++ own.map .made := by
  have hi : i.Canonical := Intent.parse_canonical h
  obtain ⟨own, habout, hremarks⟩ :
      ∃ own : List Call, (∀ c ∈ own, c.isAbout i.subnet = true) ∧
        (Router.toldInject x.mode i).remarks x.server s.now s.router s.backend =
          (if s.router.clock.isDue s.now then x.passRemarks s else []) ++ own.map .made :=
    Router.remarks_toldInject hi
  refine ⟨own, habout, ?_⟩
  rw [← hremarks]
  simp only [remarksOf, Request.told, h]
  exact (Task.remarks_bind ..).trans (List.append_nil _)

theorem clock_inject {i : Intent} (h : Intent.parse subnetText nextHopText = .ok i) :
    (x.serve (.inject subnetText nextHopText) s).2.router.clock =
      if s.router.clock.isDue s.now then s.router.clock.mark s.now else s.router.clock := by
  simp only [serve, Request.work, Router.injectRoute, h, Task.run_bind, Task.run]
  exact Router.clock_inject

theorem remarksOf_reconcile : x.remarksOf s (.request .reconcile) = x.passRemarks s := by
  rw [remarksOf, Request.told, Task.remarks_bind, Router.remarks_toldReconcileNow]
  exact List.append_nil _

theorem remarksOf_recover : x.remarksOf s (.request .recover) = [.made .installed] := by
  have htrace : (Request.recover.work x.mode).trace x.server s.now s.router s.backend = _ :=
    Request.trace_recover ..
  rw [Request.work, Task.trace_bind, Task.trace, List.append_nil] at htrace
  rw [remarksOf, Request.told, Task.remarks_bind, Task.remarks_plain, htrace]
  rfl

theorem clock_recover : (x.serve .recover s).2.router.clock = s.router.clock := by
  simp only [serve, Request.work, Task.run_bind, Task.run]
  exact Router.clock_recover

theorem clock_reconcile :
    (x.serve .reconcile s).2.router.clock = s.router.clock.mark s.now := by
  simp only [serve, Request.work, Router.reconcileNow_eq, Task.run_bind, Task.run]

/-- Among the remarks of a pass there is one beginning of a pass. -/
theorem filter_passRemarks : (x.passRemarks s).filter (· == .passBegins) = [.passBegins] := by
  simp [passRemarks, Router.passRemarks, List.filter_map]

/-- A request runs no pass and leaves the clock alone, or it runs one and marks the clock. A pass
that comes with an injection is due. -/
theorem passesOf_request (q : Request) :
    x.passesOf s (.request q) = [] ∧ (x.serve q s).2.router.clock = s.router.clock ∨
    ∃ injected, x.passesOf s (.request q) = [⟨s.now, injected⟩] ∧
      (x.serve q s).2.router.clock = s.router.clock.mark s.now ∧
      (injected = true → s.router.clock.isDue s.now = true) := by
  cases q with
  | recover =>
      refine Or.inl ⟨?_, clock_recover⟩
      rw [passesOf, remarksOf_recover]
      rfl
  | reconcile =>
      refine Or.inr ⟨false, ?_, clock_reconcile, nofun⟩
      rw [passesOf, remarksOf_reconcile, filter_passRemarks]
      rfl
  | inject subnetText nextHopText =>
      cases hparse : Intent.parse subnetText nextHopText with
      | error failure =>
          refine Or.inl ⟨?_, congrArg Router.clock (router_malformed hparse)⟩
          rw [passesOf, remarksOf_malformed hparse]
          rfl
      | ok i =>
          obtain ⟨own, -, hremarks⟩ := remarksOf_inject (x := x) (s := s) hparse
          have hown : (own.map Remark.made).filter (· == .passBegins) = [] := by
            simp [List.filter_map]
          rw [passesOf, hremarks, List.filter_append, hown, List.append_nil, clock_inject hparse]
          by_cases hdue : s.router.clock.isDue s.now = true
          · refine Or.inr ⟨true, ?_, if_pos hdue, fun _ => hdue⟩
            rw [if_pos hdue, filter_passRemarks]
            rfl
          · refine Or.inl ⟨?_, if_neg hdue⟩
            rw [if_neg hdue]
            rfl

end Site

/-- The clock has the time of the latest pass, and the passes so far are spaced. -/
structure Session.Timed {σ : Type} (interval started : Nat) (passes : List Pass) (s : Session σ) :
    Prop where
  interval_eq : s.router.clock.interval = interval
  last_eq : s.router.clock.last = Pass.latest started passes
  latest_le : Pass.latest started passes ≤ s.now
  spaced : (⟨started, false⟩ :: passes).Pairwise (Pass.Spaced interval)

namespace Session.Timed

variable {σ ε : Type} {interval started : Nat} {passes : List Pass} {s : Session σ}

/-- A pass is due when the interval has gone by since the latest one. -/
theorem isDue_iff (h : s.Timed interval started passes) :
    s.router.clock.isDue s.now = true ↔ Pass.latest started passes + interval ≤ s.now := by
  have hpast := h.latest_le
  simp only [Clock.isDue, Clock.sinceLast, h.interval_eq, h.last_eq, decide_eq_true_eq]
  omega

/-- A pass now that is due or asked for is spaced from all before it. -/
theorem spaced_now (h : s.Timed interval started passes) {injected : Bool}
    (hdue : injected = true → s.router.clock.isDue s.now = true) :
    (⟨started, false⟩ :: (passes ++ [⟨s.now, injected⟩])).Pairwise (Pass.Spaced interval) := by
  rw [← List.cons_append, List.pairwise_append]
  refine ⟨h.spaced, List.pairwise_singleton .., ?_⟩
  intro p hp q hq hinjected
  obtain rfl := List.mem_singleton.mp hq
  have hp : p.time ≤ Pass.latest started passes := by
    rcases List.mem_cons.mp hp with rfl | hp
    · exact Pass.start_le_latest ..
    · exact Pass.time_le_latest hp
  have hsince := h.isDue_iff.mp (hdue hinjected)
  show p.time + interval ≤ s.now
  omega

/-- One event keeps the clock with the passes. -/
theorem step (h : s.Timed interval started passes) (x : Site σ ε) (e : Event ε) :
    (x.step s e).Timed interval started (passes ++ x.passesOf s e) := by
  cases e with
  | advance duration =>
      have hnone : x.passesOf s (.advance duration) = [] := rfl
      rw [hnone, List.append_nil]
      exact ⟨h.interval_eq, h.last_eq, Nat.le_trans h.latest_le (Nat.le_add_right ..), h.spaced⟩
  | outside e =>
      have hnone : x.passesOf s (.outside e) = [] := rfl
      rw [hnone, List.append_nil]
      exact ⟨h.interval_eq, h.last_eq, h.latest_le, h.spaced⟩
  | request q =>
      rcases x.passesOf_request (s := s) q with
        ⟨hpasses, hclock⟩ | ⟨injected, hpasses, hclock, hdue⟩
      · rw [hpasses, List.append_nil]
        exact ⟨hclock ▸ h.interval_eq, hclock ▸ h.last_eq, h.latest_le, h.spaced⟩
      · have hlatest : Pass.latest started (passes ++ [⟨s.now, injected⟩]) = s.now := by
          rw [Pass.latest_append_singleton]
          exact Nat.max_eq_right h.latest_le
        rw [hpasses]
        constructor
        · exact hclock ▸ h.interval_eq
        · rw [hlatest]
          exact congrArg Clock.last hclock
        · exact Nat.le_of_eq hlatest
        · exact h.spaced_now hdue

/-- So do any events. -/
theorem run (h : s.Timed interval started passes) (x : Site σ ε) (events : List (Event ε)) :
    (x.run events s).Timed interval started (passes ++ x.passes events s) := by
  induction events generalizing s passes with
  | nil =>
      rw [Site.passes, List.append_nil]
      exact h
  | cons e rest ih =>
      rw [Site.passes, ← List.append_assoc]
      exact ih (h.step x e)

end Session.Timed

/-- **The throttle.** After any events, over any backend and whatever the passes came to, an
injection that is read runs one pass before its own calls, all about its subnet, if the interval
has gone by since the latest of the router's start and the passes so far, and none otherwise. An
injection that is not read and a recovery run no pass and leave the clock alone. So every pass
that comes with an injection is an interval away from the start and from all passes before it. -/
theorem passes_keep_interval {σ ε : Type} (x : Site σ ε) (interval started : Nat) (backend : σ)
    (events : List (Event ε)) :
    let start := Session.start interval started backend
    let s := x.run events start
    let latest := Pass.latest started (x.passes events start)
    (∀ subnetText nextHopText,
      let q := Request.inject subnetText nextHopText
      match Intent.parse subnetText nextHopText with
      | .ok i => ∃ own : List Call, (∀ c ∈ own, c.isAbout i.subnet = true) ∧
          x.remarksOf s (.request q) =
            (if latest + interval ≤ s.now then x.passRemarks s else []) ++ own.map .made
      | .error _ =>
          x.remarksOf s (.request q) = [] ∧ (x.serve q s).2.router.clock = s.router.clock) ∧
    x.remarksOf s (.request .reconcile) = x.passRemarks s ∧
    (x.remarksOf s (.request .recover) = [.made .installed] ∧
      (x.serve .recover s).2.router.clock = s.router.clock) ∧
    (∀ e, (x.remarksOf s e).filterMap (·.call?) = (x.callsOf s e).map (·.call)) ∧
    (⟨started, false⟩ :: x.passes events start).Pairwise (Pass.Spaced interval) := by
  intro start s latest
  have hstart : start.Timed interval started [] :=
    ⟨rfl, rfl, Nat.le_refl _, List.pairwise_singleton ..⟩
  have htimed : s.Timed interval started (x.passes events start) := hstart.run x events
  refine ⟨?_, Site.remarksOf_reconcile, ⟨Site.remarksOf_recover, Site.clock_recover⟩,
    x.filterMap_remarksOf s, htimed.spaced⟩
  intro subnetText nextHopText q
  cases hparse : Intent.parse subnetText nextHopText with
  | error failure =>
      exact ⟨Site.remarksOf_malformed hparse, congrArg Router.clock (Site.router_malformed hparse)⟩
  | ok i =>
      have hremarks := Site.remarksOf_inject (x := x) (s := s) hparse
      simp only [htimed.isDue_iff] at hremarks
      exact hremarks

/-- Injections around the moment at which a pass is due, with a pass asked for between them. -/
private def aroundDue : List (Event Empty) :=
  let ask : Event Empty := .request (.inject "10.1.0.0/16" "192.168.3.1")
  [.advance 59999, ask, .advance 1, ask, ask, .advance 30000, .request .reconcile,
    .advance 59999, ask, .advance 1, .request .recover, .request (.inject "10.1.0.0" ""), ask]

example : (Site.closed .vpp (Recording.server .vpp)).passes aroundDue (.start 60000 0 {}) =
    [⟨60000, true⟩, ⟨90000, false⟩, ⟨150000, true⟩] := by
  decide +kernel

end RouteKeeper
