import RouteKeeper.Task

/-!
# Tasks side by side

Several tasks share a lock, the state behind it and a server. One of them makes one step at
a time, in any order. Who took the lock, and when, is noted, and running the tasks one after
another in that order is what the shared run is compared with.

## Implementation notes

A move that is not possible changes nothing: a task that finds the lock taken stays where it
is, and time stands still while the lock is held. So the lists of moves are all the
interleavings that the lock admits. A task that is done gives the lock back by a move of its
own.
-/

namespace RouteKeeper

variable {S : Service} {β α σ : Type}

/-- Whether a task is done. -/
def Task.isDone {β : Type} : Task S β α → Bool
  | done _ => true
  | call .. | acquire _ | save .. => false

theorem Task.isDone_iff {β : Type} {t : Task S β α} :
    t.isDone = true ↔ ∃ a, t = done a := by
  cases t <;> simp [isDone]

/-- Tasks under way, what they share, and the turns in which they took the lock. -/
structure Pool (S : Service) (β α σ : Type) where
  /-- The time. -/
  now : Nat
  /-- What is left of each task. -/
  tasks : List (Task S β α)
  /-- The task that has the lock. -/
  holder : Option Nat := none
  /-- What the lock guards. -/
  state : β
  /-- The state of the server. -/
  backend : σ
  /-- Which task took the lock at which time, first turn first. -/
  turns : List (Nat × Nat) := []

/-- What can happen next in a pool. -/
inductive Move where
  /-- One task makes a step. -/
  | task (i : Nat)
  /-- Time passes. -/
  | advance (duration : Nat)
  deriving DecidableEq

namespace Pool

/-- One step of one task. -/
def moveTask (server : Server S σ) (p : Pool S β α σ) (i : Nat) : Pool S β α σ :=
  match p.tasks[i]? with
  | none => p
  | some (.done _) => if p.holder = some i then { p with holder := none } else p
  | some (.call c next) =>
    let (answer, backend) := server c p.backend
    { p with tasks := p.tasks.set i (next answer), backend }
  | some (.acquire next) =>
    if p.holder.isSome then p
    else { p with
      tasks := p.tasks.set i (next p.now p.state)
      holder := some i
      turns := p.turns ++ [(i, p.now)] }
  | some (.save state next) =>
    if p.holder = some i then { p with tasks := p.tasks.set i next, state } else p

/-- The pool after one move. -/
def move (server : Server S σ) (p : Pool S β α σ) : Move → Pool S β α σ
  | .task i => p.moveTask server i
  | .advance duration => if p.holder.isSome then p else { p with now := p.now + duration }

/-- The pool after a list of moves. -/
def run (server : Server S σ) (moves : List Move) (p : Pool S β α σ) : Pool S β α σ :=
  moves.foldl (move server) p

/-- The tasks that have had a turn with the lock. -/
def served (p : Pool S β α σ) : List Nat :=
  p.turns.map Prod.fst

/-- Every task once: the turns with the lock, then the tasks that never took it. -/
def sequence (p : Pool S β α σ) : List (Nat × Nat) :=
  p.turns ++ ((List.range p.tasks.length).filter (· ∉ p.served)).map fun i => (i, p.now)

/-- What every move keeps holds after every list of moves. -/
theorem run_induction {server : Server S σ} {P : Pool S β α σ → Prop} {p : Pool S β α σ}
    (hp : P p) (hmove : ∀ p m, P p → P (p.move server m)) (moves : List Move) :
    P (p.run server moves) := by
  induction moves generalizing p with
  | nil => exact hp
  | cons m rest ih => exact ih (hmove p m hp)

end Pool

/-- Where a serial run has come to, and the value of each task that ran. -/
structure Serial (β α σ : Type) where
  /-- The tasks that ran, with their values. -/
  values : List (Nat × α)
  /-- What the lock guards. -/
  state : β
  /-- The state of the server. -/
  backend : σ

namespace Serial

/-- One task runs to its end at its time. -/
def turn (server : Server S σ) (tasks : List (Task S β α)) (e : Serial β α σ)
    (i : Nat × Nat) : Serial β α σ :=
  match tasks[i.1]? with
  | none => e
  | some t =>
    let (a, state, backend) := t.run server i.2 e.state e.backend
    ⟨e.values ++ [(i.1, a)], state, backend⟩

/-- Tasks run one after another, each at its time. -/
def run (server : Server S σ) (tasks : List (Task S β α)) (turns : List (Nat × Nat))
    (state : β) (backend : σ) : Serial β α σ :=
  turns.foldl (turn server tasks) ⟨[], state, backend⟩

/-- Tasks that were done from the start add their values and nothing else. -/
theorem foldl_turn_done {server : Server S σ} {tasks : List (Task S β α)}
    {turns : List (Nat × Nat)} (hdone : ∀ i ∈ turns, ∃ a, tasks[i.1]? = some (.done a))
    (e : Serial β α σ) :
    ∃ values, turns.foldl (turn server tasks) e = ⟨e.values ++ values, e.state, e.backend⟩ ∧
      values.map Prod.fst = turns.map Prod.fst ∧
      ∀ i ∈ turns, ∀ a, tasks[i.1]? = some (.done a) → (i.1, a) ∈ values := by
  induction turns generalizing e with
  | nil => exact ⟨[], by simp, rfl, by simp⟩
  | cons i rest ih =>
      obtain ⟨a, ha⟩ := hdone i List.mem_cons_self
      have hturn : turn server tasks e i = ⟨e.values ++ [(i.1, a)], e.state, e.backend⟩ := by
        simp [turn, ha, Task.run]
      obtain ⟨values, hrun, hfst, hmem⟩ :=
        ih (fun j hj => hdone j (List.mem_cons_of_mem _ hj)) (turn server tasks e i)
      refine ⟨(i.1, a) :: values, ?_, by simp [hfst], ?_⟩
      · rw [List.foldl_cons, hrun, hturn]
        simp
      · intro j hj b hb
        rcases List.mem_cons.mp hj with rfl | hj
        · cases ha.symm.trans hb
          exact List.mem_cons_self
        · exact List.mem_cons_of_mem _ (hmem j hj b hb)

end Serial

end RouteKeeper
