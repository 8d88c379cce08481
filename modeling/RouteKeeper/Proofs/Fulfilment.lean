import RouteKeeper.Proofs.DuePass
import RouteKeeper.Proofs.Turns

/-!
# An injection after its look at the clock

An injection looks at the clock, runs a pass if one is due, and then fulfils its intent: it
deletes the stale route if there is one, and writes. What comes after the pass is told here apart
from it: which calls are made, that the clock is left alone, and where a failure comes from.
-/

namespace RouteKeeper

open Dataplane

namespace Router

/-- The route that has to go before an intent is written: the recorded one, unless the backend
replaces it or it is withdrawn already. -/
def stale? (mode : Mode) (i : Intent) (r : Router) : Option Intent :=
  match r.desired.get? i.subnet with
  | none => none
  | some old =>
    if mode.replacesRoutes || r.desired.isWithdrawn i.subnet then none else some (.of i.subnet old)

/-- What an injection does once it has looked at the clock. -/
def fulfil (mode : Mode) (i : Intent) (r : Router) : Work (Except Failure Unit) :=
  if r.desired.isCurrent i then .done (.ok ())
  else match stale? mode i r with
    | none => writeAndRecord i r
    | some stale => .call (.delete stale) fun
      | .error failure => .done (.error failure)
      | .ok () =>
        let r := { r with desired := r.desired.markWithdrawn i.subnet }
        .save r (writeAndRecord i r)

/-- An injection is a due pass and then a fulfilment. -/
theorem inject_eq_fulfil (mode : Mode) (i : Intent) :
    inject mode i = .acquire fun now r => (reconcileIfDue mode now r).bind (fulfil mode i) := by
  rw [inject_eq]
  refine congrArg Task.acquire (funext fun now => funext fun r => ?_)
  refine congrArg (Task.bind _) (funext fun r' => ?_)
  unfold fulfil clearTheWay stale?
  cases r'.desired.get? i.subnet with
  | none => rfl
  | some old =>
      by_cases hkept : mode.replacesRoutes || r'.desired.isWithdrawn i.subnet
      · simp only [if_pos hkept]
        rfl
      · simp only [if_neg hkept]
        refine congrArg (ite _ _) (congrArg (Task.call _) (funext fun answer => ?_))
        cases answer with
        | error failure => rfl
        | ok _ => rfl

variable {σ : Type} {server : Server dataplane σ} {mode : Mode} {i : Intent} {now : Nat}
  {r state : Router} {s : σ}

/-- A stale route is the recorded one of the intent's subnet, and there is none in kernel mode. -/
theorem stale?_eq_some (hi : i.Canonical) {stale : Intent} (h : stale? mode i r = some stale) :
    ∃ old, stale = ⟨i.subnet, old⟩ ∧ mode = .vpp ∧ r.desired.get? i.subnet = some old := by
  unfold stale? at h
  cases hget : r.desired.get? i.subnet with
  | none => simp [hget] at h
  | some old =>
      cases mode with
      | kernel => simp [hget, Mode.replacesRoutes] at h
      | vpp =>
          obtain ⟨-, rfl⟩ : r.desired.isWithdrawn i.subnet = false ∧
              Intent.of i.subnet old = stale := by
            simpa [hget, Mode.replacesRoutes] using h
          exact ⟨old, by rw [Intent.of, hi.truncate_eq], rfl, rfl⟩

/-- The write that ends a fulfilment, as its only call. -/
theorem trace_writeAndRecord :
    (writeAndRecord i r).trace server now state s =
      [⟨state, s, .upsert i, (server (.upsert i) s).1.isOk⟩] := by
  refine congrArg (List.cons _) ?_
  cases (server (.upsert i) s).1 with
  | error failure => rfl
  | ok _ => rfl

/-- The calls of a fulfilment are about the subnet of the intent. -/
theorem fulfil_isAbout (hi : i.Canonical) :
    ∀ m ∈ (fulfil mode i r).trace server now state s, m.call.isAbout i.subnet = true := by
  have hwrite (r state : Router) (s : σ) :
      ∀ m ∈ (writeAndRecord i r).trace server now state s, m.call.isAbout i.subnet = true := by
    rw [trace_writeAndRecord]
    simp [Call.isAbout]
  unfold fulfil
  split
  · exact List.forall_mem_nil _
  · cases hstale : stale? mode i r with
    | none => exact hwrite r state s
    | some stale =>
        obtain ⟨old, rfl, -⟩ := stale?_eq_some hi hstale
        refine List.forall_mem_cons.mpr ?_
        constructor
        · simp [Call.isAbout]
        · cases (server (.delete ⟨i.subnet, old⟩) s).1 with
          | error failure => exact List.forall_mem_nil _
          | ok _ => exact hwrite _ _ _

/-- A fulfilment leaves the clock alone. -/
theorem fulfil_saves_clock :
    (fulfil mode i r).Saves (fun state => state.clock = r.clock) fun _ => True := by
  have hwrite (r' : Router) (h : r'.clock = r.clock) :
      (writeAndRecord i r').Saves (fun state => state.clock = r.clock) fun _ => True := by
    rintro (failure | _)
    · trivial
    · exact ⟨h, trivial⟩
  unfold fulfil
  split
  · trivial
  · cases stale? mode i r with
    | none => exact hwrite r rfl
    | some stale =>
        rintro (failure | _)
        · trivial
        · exact ⟨rfl, hwrite _ rfl⟩

/-- A write that fails is the last call, and its failure is the answer. -/
theorem writeAndRecord_failed {failure : Failure}
    (h : ((writeAndRecord i r).run server now state s).1 = .error failure) :
    (server (.upsert i) s).1 = .error failure := by
  simp only [writeAndRecord, Task.run] at h
  cases hanswer : (server (.upsert i) s).1 with
  | ok _ =>
      rw [hanswer] at h
      cases h
  | error cause =>
      rw [hanswer] at h
      exact congrArg Except.error (Except.error.inj h)

/-- A fulfilment that fails does so with the failure of its last call. That call is the write of
the intent or the delete of the recorded route, and the calls before it succeed. -/
theorem fulfil_failed (hi : i.Canonical) {failure : Failure}
    (h : ((fulfil mode i r).run server now state s).1 = .error failure) :
    ∃ own m, (fulfil mode i r).trace server now state s = own ++ [m] ∧
      (∀ m' ∈ own, m'.ok = true) ∧ (server m.call m.before).1 = .error failure ∧
      (m.call = .upsert i ∨
        ∃ old, mode = .vpp ∧ r.desired.get? i.subnet = some old ∧
          m.call = .delete ⟨i.subnet, old⟩) := by
  unfold fulfil at h ⊢
  split at h
  case isTrue hcurrent => cases h
  case isFalse hcurrent =>
    rw [if_neg hcurrent]
    cases hstale : stale? mode i r with
    | none =>
        rw [hstale] at h
        exact ⟨[], _, trace_writeAndRecord, List.forall_mem_nil _, writeAndRecord_failed h,
          Or.inl rfl⟩
    | some stale =>
        obtain ⟨old, rfl, hmode, hget⟩ := stale?_eq_some hi hstale
        simp only [hstale, Task.run, Task.trace] at h ⊢
        cases hanswer : (server (.delete ⟨i.subnet, old⟩) s).1 with
        | error cause =>
            rw [hanswer] at h
            obtain rfl : cause = failure := Except.error.inj h
            exact ⟨[], _, rfl, List.forall_mem_nil _, hanswer, Or.inr ⟨old, hmode, hget, rfl⟩⟩
        | ok _ =>
            rw [hanswer] at h
            refine ⟨[_], _, congrArg (List.cons _) trace_writeAndRecord, ?_,
              writeAndRecord_failed h, Or.inl rfl⟩
            exact List.forall_mem_singleton.mpr rfl

end Router

end RouteKeeper
