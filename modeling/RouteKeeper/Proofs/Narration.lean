import RouteKeeper.Proofs.Fulfilment

/-!
# A router's work with its passes told

The calls of a router do not always show that it runs a pass, for in VPP mode a pass makes no
call. Here its work is told with a remark where each pass begins. A server lets the remarks go by,
and the told work without its remarks is the work itself.

## Implementation notes

Remarks are calls of a larger service, so that their order among the calls is that of a trace.
-/

namespace RouteKeeper

/-- What is told of a router at work. -/
inductive Remark where
  /-- A pass begins. -/
  | passBegins
  /-- A call is made. -/
  | made (c : Dataplane.Call)
  deriving DecidableEq

/-- What the router gets back: nothing for the remark that a pass begins. -/
abbrev Remark.Result : Remark → Type
  | .passBegins => Unit
  | .made c => Dataplane.Result c

/-- The call that is told of, if it is one. -/
def Remark.call? : Remark → Option Dataplane.Call
  | .passBegins => none
  | .made c => some c

/-- A dataplane that is told where passes begin. -/
abbrev narrated : Service :=
  ⟨Remark, Remark.Result, Failure⟩

/-- A server of the dataplane lets the remarks go by. -/
def Server.narrated {σ : Type} (server : Server dataplane σ) : Server narrated σ
  | .passBegins, s => (.ok (), s)
  | .made c, s => server c s

namespace Task

variable {β α α' σ : Type}

/-- A task that is told without any remark but its calls. -/
def plain : Task dataplane β α → Task narrated β α
  | done a => done a
  | call c next => call (.made c) fun answer => (next answer).plain
  | acquire next => acquire fun now state => (next now state).plain
  | save state next => save state next.plain

/-- What is left of a told task without the remarks. -/
def silent : Task narrated β α → Task dataplane β α
  | done a => done a
  | call .passBegins next => (next (.ok ())).silent
  | call (.made c) next => call c fun answer => (next answer).silent
  | acquire next => acquire fun now state => (next now state).silent
  | save state next => save state next.silent

/-- The remarks of a told task that runs alone, its calls among them. -/
def remarks (server : Server dataplane σ) (now : Nat) (t : Task narrated β α) (state : β) (s : σ) :
    List Remark :=
  (t.trace server.narrated now state s).map (·.call)

theorem silent_plain (t : Task dataplane β α) : t.plain.silent = t := by
  induction t with
  | done a => rfl
  | call c next ih => exact congrArg (call c) (funext ih)
  | acquire next ih => exact congrArg acquire (funext fun now => funext fun state => ih now state)
  | save state next ih => exact congrArg (save state) ih

theorem silent_bind (t : Task narrated β α) (f : α → Task narrated β α') :
    (t.bind f).silent = t.silent.bind fun a => (f a).silent := by
  induction t with
  | done a => rfl
  | call c next ih =>
      cases c with
      | passBegins => exact ih _
      | made c => exact congrArg (call (S := dataplane) c) (funext fun answer => ih answer)
  | acquire next ih => exact congrArg acquire (funext fun now => funext fun state => ih now state)
  | save state next ih => exact congrArg (save state) ih

variable (server : Server dataplane σ) (now : Nat)

/-- Remarks change nothing. -/
theorem run_narrated (t : Task narrated β α) (state : β) (s : σ) :
    t.run server.narrated now state s = t.silent.run server now state s := by
  induction t generalizing state s with
  | done a => rfl
  | call c next ih =>
      cases c with
      | passBegins => exact ih _ state s
      | made c => exact ih _ state _
  | acquire next ih => exact ih now state state s
  | save state' next ih => exact ih state' s

/-- The calls among the remarks are those of the task without its remarks. -/
theorem filterMap_remarks (t : Task narrated β α) (state : β) (s : σ) :
    (t.remarks server now state s).filterMap (·.call?) =
      (t.silent.trace server now state s).map (·.call) := by
  induction t generalizing state s with
  | done a => rfl
  | call c next ih =>
      cases c with
      | passBegins => exact ih _ state s
      | made c => exact congrArg (List.cons c) (ih _ state _)
  | acquire next ih => exact ih now state state s
  | save state' next ih => exact ih state' s

theorem remarks_plain (t : Task dataplane β α) (state : β) (s : σ) :
    t.plain.remarks server now state s =
      ((t.trace server now state s).map (·.call)).map .made := by
  induction t generalizing state s with
  | done a => rfl
  | call c next ih => exact congrArg (List.cons (Remark.made c)) (ih _ state _)
  | acquire next ih => exact ih now state state s
  | save state' next ih => exact ih state' s

/-- The remarks of the second task follow those of the first. -/
theorem remarks_bind (t : Task narrated β α) (f : α → Task narrated β α') (state : β) (s : σ) :
    (t.bind f).remarks server now state s =
      t.remarks server now state s ++
        (f (t.silent.run server now state s).1).remarks server now
          (t.silent.run server now state s).2.1 (t.silent.run server now state s).2.2 := by
  simp only [remarks, trace_bind, List.map_append, run_narrated]

end Task

namespace Router

variable (mode : Mode)

/-- A pass, with the remark that it begins. -/
def toldPass (desired : DesiredTable) : Task narrated Router (Except Failure Report) :=
  .call .passBegins fun _ => (Task.ofProgram (Reconciliation.pass mode desired)).plain

/-- The look at the clock, with the pass told that it leads to. -/
def toldIfDue (now : Nat) (r : Router) : Task narrated Router Router :=
  if r.clock.isDue now then
    (toldPass mode r.desired).bind fun _ =>
      .save { r with clock := r.clock.mark now } (.done { r with clock := r.clock.mark now })
  else .done r

/-- An injection with its pass told. -/
def toldInject (i : Intent) : Task narrated Router (Except Failure Unit) :=
  .acquire fun now r => (toldIfDue mode now r).bind fun r => (fulfil mode i r).plain

/-- A pass that is asked for, told as such. -/
def toldReconcileNow : Task narrated Router (Except Failure Report) :=
  .acquire fun now r => (toldPass mode r.desired).bind fun result =>
    .save { r with clock := r.clock.mark now } (.done result)

theorem silent_toldPass (desired : DesiredTable) :
    (toldPass mode desired).silent = Task.ofProgram (Reconciliation.pass mode desired) :=
  Task.silent_plain _

theorem silent_toldIfDue (now : Nat) (r : Router) :
    (toldIfDue mode now r).silent = reconcileIfDue mode now r := by
  unfold toldIfDue reconcileIfDue
  split
  · rw [Task.silent_bind, silent_toldPass]
    rfl
  · rfl

theorem silent_toldInject (i : Intent) : (toldInject mode i).silent = inject mode i := by
  rw [inject_eq_fulfil]
  refine congrArg Task.acquire (funext fun now => funext fun r => ?_)
  rw [Task.silent_bind, silent_toldIfDue]
  exact congrArg (Task.bind _) (funext fun r => Task.silent_plain _)

theorem silent_toldReconcileNow : (toldReconcileNow mode).silent = reconcileNow mode := by
  rw [reconcileNow_eq]
  refine congrArg Task.acquire (funext fun now => funext fun r => ?_)
  rw [Task.silent_bind, silent_toldPass]
  rfl

end Router

/-- The work of a request, with its passes told. -/
def Request.told (mode : Mode) : Request → Task narrated Router Outcome
  | inject subnetText nextHopText =>
    match Intent.parse subnetText nextHopText with
    | .error failure => .done (.injected (.error failure))
    | .ok i => (Router.toldInject mode i).bind fun result => .done (.injected result)
  | reconcile => (Router.toldReconcileNow mode).bind fun result => .done (.reconciled result)
  | recover => Router.recover.plain.bind fun result => .done (.recovered result)

/-- The told work without its remarks is the work. -/
theorem Request.silent_told (mode : Mode) (q : Request) : (q.told mode).silent = q.work mode := by
  cases q with
  | inject subnetText nextHopText =>
      simp only [told, work, Router.injectRoute]
      cases Intent.parse subnetText nextHopText with
      | error failure => rfl
      | ok i =>
          rw [Task.silent_bind, Router.silent_toldInject]
          rfl
  | reconcile =>
      rw [told, Task.silent_bind, Router.silent_toldReconcileNow]
      rfl
  | recover =>
      rw [told, Task.silent_bind, Task.silent_plain]
      rfl

/-- What is told of a pass. -/
def Router.passRemarks {σ : Type} (server : Server dataplane σ) (mode : Mode) (now : Nat)
    (desired : DesiredTable) (state : Router) (s : σ) : List Remark :=
  .passBegins ::
    (((Task.ofProgram (Reconciliation.pass mode desired)).trace server now state s).map
      (·.call)).map .made

namespace Router

variable {σ : Type} {server : Server dataplane σ} {mode : Mode} {i : Intent} {now : Nat}
  {r state : Router} {s : σ}

theorem remarks_toldPass (desired : DesiredTable) :
    (toldPass mode desired).remarks server now state s =
      passRemarks server mode now desired state s :=
  congrArg (List.cons _) (Task.remarks_plain ..)

theorem remarks_toldReconcileNow :
    (toldReconcileNow mode).remarks server now r s = passRemarks server mode now r.desired r s := by
  have hpass : (toldReconcileNow mode).remarks server now r s = _ :=
    Task.remarks_bind server now (toldPass mode r.desired) _ r s
  rw [hpass, remarks_toldPass]
  exact List.append_nil _

theorem remarks_toldIfDue :
    (toldIfDue mode now r).remarks server now r s =
      if r.clock.isDue now then passRemarks server mode now r.desired r s else [] := by
  unfold toldIfDue
  split
  · rw [Task.remarks_bind, remarks_toldPass]
    exact List.append_nil _
  · rfl

/-- The remarks of an injection: those of a pass if one is due, and then calls about its subnet. -/
theorem remarks_toldInject (hi : i.Canonical) :
    ∃ own : List Dataplane.Call, (∀ c ∈ own, c.isAbout i.subnet = true) ∧
      (toldInject mode i).remarks server now r s =
        (if r.clock.isDue now then passRemarks server mode now r.desired r s else []) ++
          own.map .made := by
  have hparts : (toldInject mode i).remarks server now r s =
      (toldIfDue mode now r).remarks server now r s ++ _ := Task.remarks_bind ..
  rw [hparts, remarks_toldIfDue, Task.remarks_plain]
  refine ⟨_, ?_, rfl⟩
  intro c hc
  obtain ⟨m, hm, rfl⟩ := List.mem_map.mp hc
  exact fulfil_isAbout hi m hm

end Router

end RouteKeeper
