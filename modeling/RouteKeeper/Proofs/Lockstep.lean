import RouteKeeper.Proofs.DesiredTable
import RouteKeeper.Proofs.Session.Trace
import RouteKeeper.Proofs.Task.Parallel

/-!
# Two backends in lockstep

A router sees of its backend which writes succeed and, of a listed route, the destination and
the gateway. So two routers that serve the same requests over backends which look the same to
them stay equal, and give their callers outcomes that agree, as long as the calls of the two
fail together.

## Implementation notes

What is compared is the router's own view, not the answers: the reason of a failure, the link
of a listed route and the default routes are nothing that a router acts on.
-/

namespace RouteKeeper

/-- What a router reads of listed routes: destinations and their gateways. -/
def InstalledRoute.told (routes : List InstalledRoute) : List (Network × Option Address) :=
  routes.filterMap fun r => r.destination.map (·, r.gateway)

namespace Router

/-- A router writes and deletes canonical intents and lists routes. It sees of an answer
whether there is one, and of a listing what it is told. -/
def view : View dataplane where
  asks
    | .upsert i | .delete i => i.Canonical
    | .installed => True
    | .connections => False
  same
    | .installed, a, b => a.toOption.map InstalledRoute.told = b.toOption.map InstalledRoute.told
    | .upsert _, a, b | .delete _, a, b | .connections, a, b => a.toOption = b.toOption

/-- Results agree when both are failures or both are the same value. -/
def ResultsAgree {α : Type} (a b : Except Failure α) : Prop :=
  a.toOption = b.toOption

/-- Adoption goes by what is told. -/
theorem filterMap_intentOf?_eq (routes : List InstalledRoute) :
    routes.filterMap intentOf? =
      (InstalledRoute.told routes).filterMap fun p => p.2.map (Intent.of p.1) := by
  rw [InstalledRoute.told, List.filterMap_filterMap]
  congr 1
  funext r
  obtain ⟨destination, gateway, link⟩ := r
  cases destination <;> cases gateway <;> rfl

end Router

namespace Reconciliation

/-- So does the comparison with what is desired. -/
theorem listedGateway_eq (installed : List InstalledRoute) (subnet : Network) :
    listedGateway installed subnet =
      ((InstalledRoute.told installed).reverse.find? (·.1 == subnet)).map (·.2) := by
  rw [listedGateway, InstalledRoute.told, ← List.filterMap_reverse]
  induction installed.reverse with
  | nil => rfl
  | cons r rest ih =>
      obtain ⟨destination, gateway, link⟩ := r
      cases destination with
      | none => simpa using ih
      | some n =>
          by_cases hn : n = subnet
          · simp [hn]
          · simpa [hn] using ih

theorem inSync_congr {installed installed' : List InstalledRoute}
    (h : InstalledRoute.told installed = InstalledRoute.told installed') (i : Intent) :
    inSync installed i = inSync installed' i := by
  rw [inSync, inSync, listedGateway_eq, listedGateway_eq, h]

end Reconciliation

namespace Router

open Reconciliation

variable {mode : Mode} {intent : Intent}

theorem repair_parallel {intents : List Intent} (hintents : ∀ i ∈ intents, i.Canonical)
    {installed installed' : List InstalledRoute}
    (htold : InstalledRoute.told installed = InstalledRoute.told installed') (report : Report) :
    (Task.ofProgram (repair installed intents report) : Work Report).Parallel view Eq
      (Task.ofProgram (repair installed' intents report)) := by
  induction intents generalizing report with
  | nil => exact .done rfl
  | cons i rest ih =>
      have ih := ih fun j hj => hintents j (List.mem_cons_of_mem _ hj)
      simp only [repair, inSync_congr htold i]
      split
      · exact ih _
      · refine .call (hintents i List.mem_cons_self) ?_
        rintro (failure | _) (failure' | _) hsame
        · exact ih _
        · cases hsame
        · cases hsame
        · exact ih _

theorem pass_parallel (desired : DesiredTable) :
    (Task.ofProgram (pass mode desired) : Work _).Parallel view ResultsAgree
      (Task.ofProgram (pass mode desired)) := by
  have hintents : ∀ i ∈ desired.toList, i.Canonical := by
    intro i hi
    obtain ⟨j, -, rfl⟩ := List.mem_map.mp hi
    exact Intent.of_canonical _ _
  rw [ofProgram_pass]
  split
  · refine .call trivial ?_
    rintro (failure | installed) (failure' | installed') hsame
    · exact .done rfl
    · cases hsame
    · cases hsame
    · refine (repair_parallel hintents (Option.some.inj hsame) {}).bind ?_
      rintro report _ rfl
      exact .done rfl
  · exact .done rfl

theorem reconcileIfDue_parallel (now : Nat) (r : Router) :
    (reconcileIfDue mode now r).Parallel view Eq (reconcileIfDue mode now r) := by
  unfold reconcileIfDue
  split
  · exact (pass_parallel r.desired).bind fun _ _ _ => .save (.done rfl)
  · exact .done rfl

theorem clearTheWay_parallel (r : Router) :
    (clearTheWay mode intent r).Parallel view ResultsAgree (clearTheWay mode intent r) := by
  unfold clearTheWay
  split
  · exact .done rfl
  · split
    · exact .done rfl
    · refine .call (Intent.of_canonical _ _) ?_
      rintro (failure | _) (failure' | _) hsame
      · exact .done rfl
      · cases hsame
      · cases hsame
      · exact .save (.done rfl)

theorem writeAndRecord_parallel (hi : intent.Canonical) (r : Router) :
    (writeAndRecord intent r).Parallel view ResultsAgree (writeAndRecord intent r) := by
  refine .call hi ?_
  rintro (failure | _) (failure' | _) hsame
  · exact .done rfl
  · cases hsame
  · cases hsame
  · exact .save (.done rfl)

theorem inject_parallel (hi : intent.Canonical) :
    (inject mode intent).Parallel view ResultsAgree (inject mode intent) := by
  rw [inject_eq]
  refine .acquire fun now r => (reconcileIfDue_parallel now r).bind ?_
  rintro r _ rfl
  split
  · exact .done rfl
  · refine (clearTheWay_parallel r).bind ?_
    rintro (failure | r) (failure' | r') hsame
    · exact .done rfl
    · cases hsame
    · cases hsame
    · cases hsame
      exact writeAndRecord_parallel hi r

theorem recover_parallel : recover.Parallel view ResultsAgree recover := by
  refine .call trivial ?_
  rintro (failure | installed) (failure' | installed') hsame
  · exact .done rfl
  · cases hsame
  · cases hsame
  · have hintents : installed.filterMap intentOf? = installed'.filterMap intentOf? := by
      rw [filterMap_intentOf?_eq, filterMap_intentOf?_eq, Option.some.inj hsame]
    simp only [hintents]
    exact .acquire fun _ _ => .save (.done rfl)

end Router

/-- Outcomes agree when both are failures or both are the same value. -/
def Outcome.Agree : Outcome → Outcome → Prop
  | .injected a, .injected b => Router.ResultsAgree a b
  | .reconciled a, .reconciled b => Router.ResultsAgree a b
  | .recovered a, .recovered b => Router.ResultsAgree a b
  | _, _ => False

/-- Whatever is asked of a router depends on what it can see. -/
theorem Request.work_parallel (mode : Mode) (q : Request) :
    (q.work mode).Parallel Router.view Outcome.Agree (q.work mode) := by
  cases q with
  | inject subnetText nextHopText =>
      simp only [work, Router.injectRoute]
      cases hparse : Intent.parse subnetText nextHopText with
      | error failure => exact .done rfl
      | ok intent =>
          exact (Router.inject_parallel (Intent.parse_canonical hparse)).bind fun _ _ h => .done h
  | reconcile =>
      refine .acquire fun now r => ?_
      exact ((Router.pass_parallel r.desired).bind fun _ _ h => .save (.done h)).bind
        fun _ _ h => .done h
  | recover => exact Router.recover_parallel.bind fun _ _ h => .done h

/-- Two sessions in step: the same time, the same router, and related backends. -/
structure Session.InStep {σ τ : Type} (R : σ → τ → Prop) (s : Session σ) (t : Session τ) :
    Prop where
  now : s.now = t.now
  router : s.router = t.router
  backend : R s.backend t.backend

namespace Site

variable {σ τ ε : Type} {R : σ → τ → Prop} {x : Site σ ε} {y : Site τ ε} {s : Session σ}
  {t : Session τ}

/-- Two sites keep their sessions in step when their servers follow each other and nothing
happens to one backend only. -/
structure Follows (R : σ → τ → Prop) (x : Site σ ε) (y : Site τ ε) : Prop where
  mode : x.mode = y.mode
  server : Server.Follows Router.view R x.server y.server
  change : ∀ e s t, R s t → R (x.change e s) (y.change e t)

/-- A request whose calls fail together keeps sessions in step, and the outcomes agree. -/
theorem Follows.serve (h : Follows R x y) (hs : Session.InStep R s t) (q : Request)
    {rest : List (Moment dataplane Router σ)} {rest' : List (Moment dataplane Router τ)}
    (hfail : FailTogether (x.callsOf s (.request q) ++ rest) (y.callsOf t (.request q) ++ rest')) :
    Session.InStep R (x.serve q s).2 (y.serve q t).2 ∧
      Outcome.Agree (x.serve q s).1 (y.serve q t).1 ∧
      (x.callsOf s (.request q)).map (·.call) = (y.callsOf t (.request q)).map (·.call) ∧
      FailTogether rest rest' := by
  obtain ⟨now, router, backend⟩ := s
  obtain ⟨now', router', backend'⟩ := t
  obtain ⟨rfl, rfl, hbackend⟩ := hs
  simp only [callsOf, ← h.mode] at hfail
  obtain ⟨hvalue, hstate, hend, hcalls, hrest⟩ :=
    (q.work_parallel x.mode).run h.server hbackend hfail
  simp only [Site.serve, callsOf, ← h.mode]
  exact ⟨⟨rfl, hstate, hend⟩, hvalue, hcalls, hrest⟩

/-- So does any event, and so do any events. -/
theorem Follows.run (h : Follows R x y) (hs : Session.InStep R s t) (events : List (Event ε))
    {rest : List (Moment dataplane Router σ)} {rest' : List (Moment dataplane Router τ)}
    (hfail : FailTogether (x.trace events s ++ rest) (y.trace events t ++ rest')) :
    Session.InStep R (x.run events s) (y.run events t) ∧
      (x.trace events s).map (·.call) = (y.trace events t).map (·.call) ∧
      FailTogether rest rest' := by
  induction events generalizing s t with
  | nil => exact ⟨hs, rfl, hfail⟩
  | cons e events ih =>
      simp only [trace, List.append_assoc] at hfail
      have hstep : Session.InStep R (x.step s e) (y.step t e) ∧
          (x.callsOf s e).map (·.call) = (y.callsOf t e).map (·.call) ∧
          FailTogether (x.trace events (x.step s e) ++ rest)
            (y.trace events (y.step t e) ++ rest') := by
        cases e with
        | request q =>
            obtain ⟨hnext, -, hcalls, hrest⟩ := h.serve hs q hfail
            exact ⟨hnext, hcalls, hrest⟩
        | advance duration =>
            exact ⟨⟨congrArg (· + duration) hs.now, hs.router, hs.backend⟩, rfl, hfail⟩
        | outside e => exact ⟨⟨hs.now, hs.router, h.change e _ _ hs.backend⟩, rfl, hfail⟩
      obtain ⟨hnext, hcalls, hfail⟩ := hstep
      obtain ⟨hend, hcalls', hrest⟩ := ih hnext hfail
      refine ⟨hend, ?_, hrest⟩
      simp only [trace, List.map_append, hcalls, hcalls']

/-- **In lockstep.** If the calls of two sessions fail together, then after each event the
sessions are in step, and the outcomes of each request agree. -/
theorem Follows.lockstep (h : Follows R x y) (hs : Session.InStep R s t)
    {events before after : List (Event ε)} (hsplit : events = before ++ after)
    (hfail : FailTogether (x.trace events s) (y.trace events t)) :
    Session.InStep R (x.run before s) (y.run before t) ∧
      (x.trace before s).map (·.call) = (y.trace before t).map (·.call) ∧
      ∀ q rest, after = .request q :: rest →
        Outcome.Agree (x.serve q (x.run before s)).1 (y.serve q (y.run before t)).1 := by
  subst hsplit
  rw [trace_append, trace_append] at hfail
  obtain ⟨hbefore, hcalls, hafter⟩ := h.run hs before hfail
  refine ⟨hbefore, hcalls, ?_⟩
  rintro q rest rfl
  exact (h.serve hbefore q hafter).2.1

end Site

end RouteKeeper
