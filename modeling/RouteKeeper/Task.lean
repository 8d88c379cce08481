import RouteKeeper.Service

/-!
# Tasks over shared state

A task makes calls on a service and works on state that other tasks share. The
state is behind one lock: a task takes the lock once and keeps it to its end.

## Implementation notes

Taking the lock hands over the time and the state of that moment. While the lock
is held nobody else writes the state, so the task goes on from the value it was
given and saves what it changes.
-/

namespace RouteKeeper

/-- What one caller does: calls, then the lock, then more calls and saved states, then a value. -/
inductive Task (S : Service) (β α : Type) : Type where
  /-- Finished with a value; the lock, if it was taken, is free again. -/
  | done (value : α)
  /-- Makes a call on the service. -/
  | call (c : S.Call) (next : S.Answer c → Task S β α)
  /-- Waits for the lock; `next` goes on with the time and the shared state. -/
  | acquire (next : Nat → β → Task S β α)
  /-- Replaces the shared state. -/
  | save (state : β) (next : Task S β α)

namespace Task

variable {S : Service} {β α α' : Type}

/-- Runs a second task with the value of the first. -/
def bind : Task S β α → (α → Task S β α') → Task S β α'
  | done a, f => f a
  | call c next, f => call c fun answer => (next answer).bind f
  | acquire next, f => acquire fun now state => (next now state).bind f
  | save state next, f => save state (next.bind f)

instance : Monad (Task S β) where
  pure := done
  bind := bind

/-- The task of one call. -/
def ask (c : S.Call) : Task S β (S.Answer c) :=
  call c done

/-- Waits for the lock and reads the time and the state. -/
def lock : Task S β (Nat × β) :=
  acquire fun now state => done (now, state)

/-- Replaces the shared state. -/
def put (state : β) : Task S β Unit :=
  save state (done ())

/-- A program is a task that does not touch the shared state. -/
def ofProgram : Program S α → Task S β α
  | .done a => done a
  | .call c next => call c fun answer => ofProgram (next answer)

instance : MonadLift (Program S) (Task S β) where
  monadLift := ofProgram

/-- Runs a task to its end with nobody else about, at a fixed time. -/
def run {σ : Type} (server : Server S σ) (now : Nat) : Task S β α → β → σ → α × β × σ
  | done a, state, s => (a, state, s)
  | call c next, state, s =>
    let (answer, s) := server c s
    (next answer).run server now state s
  | acquire next, state, s => (next now state).run server now state s
  | save state next, _, s => next.run server now state s

/-- Runs at most the given number of steps and tells the shared state and the server's state then. -/
def cutOff {σ : Type} (server : Server S σ) (now : Nat) : Nat → Task S β α → β → σ → β × σ
  | 0, _, state, s => (state, s)
  | _ + 1, done _, state, s => (state, s)
  | n + 1, call c next, state, s =>
    let (answer, s) := server c s
    cutOff server now n (next answer) state s
  | n + 1, acquire next, state, s => cutOff server now n (next now state) state s
  | n + 1, save state next, _, s => cutOff server now n next state s

@[simp] theorem run_bind {σ : Type} (server : Server S σ) (now : Nat) (t : Task S β α)
    (f : α → Task S β α') (state : β) (s : σ) :
    (t.bind f).run server now state s =
      (f (t.run server now state s).1).run server now
        (t.run server now state s).2.1 (t.run server now state s).2.2 := by
  induction t generalizing state s with
  | done a => rfl
  | call c next ih => exact ih (server c s).1 state (server c s).2
  | acquire next ih => exact ih now state state s
  | save new next ih => exact ih new s

@[simp] theorem run_ofProgram {σ : Type} (server : Server S σ) (now : Nat) (p : Program S α)
    (state : β) (s : σ) :
    (ofProgram p : Task S β α).run server now state s =
      ((p.run server s).1, state, (p.run server s).2) := by
  induction p generalizing s with
  | done a => rfl
  | call c next ih => exact ih (server c s).1 (server c s).2

end Task

end RouteKeeper
