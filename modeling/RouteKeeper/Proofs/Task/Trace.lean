import RouteKeeper.Task

/-!
# The calls of a task

The trace of a task that runs alone is the list of its calls in order. With each call stand
what the lock guards and what the server holds at that moment, and whether it succeeds. The trace
of a program has the calls and whether they succeed. A guard may follow a script that tells which
calls fail.

## Implementation notes

Two traces are compared place by place. Calls at the same place fail together when both fail
or both succeed; past the end of the shorter trace there is nothing to compare.
-/

namespace RouteKeeper

/-- A call at the moment at which it is made. -/
structure Moment (S : Service) (β σ : Type) where
  /-- What the lock guards. -/
  state : β
  /-- The server's state before the call. -/
  before : σ
  /-- The call. -/
  call : S.Call
  /-- Whether the call succeeds. -/
  ok : Bool

variable {S : Service} {β β' α α' σ τ : Type}

namespace Program

/-- The calls of a program that runs to its end, each with whether it succeeds. -/
def trace (server : Server S σ) : Program S α → σ → List (S.Call × Bool)
  | done _, _ => []
  | call c next, s =>
    (c, (server c s).1.isOk) :: (next (server c s).1).trace server (server c s).2

/-- The second program goes on from where the first one ended. -/
theorem trace_bind (server : Server S σ) (p : Program S α) (f : α → Program S α') (s : σ) :
    (p.bind f).trace server s =
      p.trace server s ++ (f (p.run server s).1).trace server (p.run server s).2 := by
  induction p generalizing s with
  | done a => rfl
  | call c next ih => exact congrArg (List.cons _) (ih _ _)

end Program

namespace Task

/-- The calls of a task that runs to its end with nobody else about. -/
def trace (server : Server S σ) (now : Nat) : Task S β α → β → σ → List (Moment S β σ)
  | done _, _, _ => []
  | call c next, state, s =>
    ⟨state, s, c, (server c s).1.isOk⟩ ::
      (next (server c s).1).trace server now state (server c s).2
  | acquire next, state, s => (next now state).trace server now state s
  | save state next, _, s => next.trace server now state s

/-- The second task goes on from where the first one ended. -/
theorem trace_bind (server : Server S σ) (now : Nat) (t : Task S β α) (f : α → Task S β α')
    (state : β) (s : σ) :
    (t.bind f).trace server now state s =
      t.trace server now state s ++
        (f (t.run server now state s).1).trace server now
          (t.run server now state s).2.1 (t.run server now state s).2.2 := by
  induction t generalizing state s with
  | done a => rfl
  | call c next ih => exact congrArg (List.cons _) (ih _ state _)
  | acquire next ih => exact ih now state state s
  | save state' next ih => exact ih state' s

/-- A program inside a task makes its own calls. -/
theorem trace_ofProgram (server : Server S σ) (now : Nat) (p : Program S α) (state : β) (s : σ) :
    ((ofProgram p).trace server now state s).map (fun m => (m.call, m.ok)) = p.trace server s := by
  induction p generalizing s with
  | done a => rfl
  | call c next ih => exact congrArg (List.cons _) (ih _ _)

/-- A program that goes on with another is a task that does. -/
theorem ofProgram_bind (p : Program S α) (f : α → Program S α') :
    (ofProgram (p.bind f) : Task S β α') = (ofProgram p).bind fun a => ofProgram (f a) := by
  induction p with
  | done a => rfl
  | call c next ih => exact congrArg (Task.call c) (funext ih)

end Task

/-- Calls at the same place of two traces fail together. -/
def FailTogether (trace : List (Moment S β σ)) (trace' : List (Moment S β' τ)) : Prop :=
  ∀ m ∈ trace.zip trace', m.1.ok = m.2.ok

instance (trace : List (Moment S β σ)) (trace' : List (Moment S β' τ)) :
    Decidable (FailTogether trace trace') :=
  inferInstanceAs (Decidable (∀ m ∈ trace.zip trace', m.1.ok = m.2.ok))

theorem failTogether_cons {m : Moment S β σ} {m' : Moment S β' τ}
    {trace : List (Moment S β σ)} {trace' : List (Moment S β' τ)} :
    FailTogether (m :: trace) (m' :: trace') ↔ m.ok = m'.ok ∧ FailTogether trace trace' := by
  simp [FailTogether]

namespace Server

/-- A guard that follows a script: each entry says whether a call fails, and calls that come
after the script has ended are let through. -/
def scripted (fault : S.Fault) : S.Call → List Bool → Option S.Fault × List Bool
  | _, [] => (none, [])
  | _, fails :: script => (if fails then some fault else none, script)

/-- A guarded call fails and leaves the server alone, or is served. -/
theorem guarded_cases {γ : Type} (guard : S.Call → γ → Option S.Fault × γ)
    (server : Server S σ) (c : S.Call) (s : γ × σ) :
    (∃ fault g, guarded guard server c s = (.error fault, (g, s.2))) ∨
      ∃ g, guarded guard server c s = ((server c s.2).1, (g, (server c s.2).2)) := by
  obtain ⟨g, s⟩ := s
  cases hg : guard c g with
  | mk fault g' =>
      cases fault with
      | some fault => exact Or.inl ⟨fault, g', by simp [guarded, hg]⟩
      | none => exact Or.inr ⟨g', by simp [guarded, hg]⟩

end Server

end RouteKeeper
