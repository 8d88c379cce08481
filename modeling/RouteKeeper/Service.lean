/-!
# Services, programs and servers

A service is a set of calls with the type of what each returns. A program over a
service finishes with a value or makes a call and goes on with the answer. A
server answers calls over a state. An adapter implements one service by programs
over another, and so turns a server of the second into a server of the first.

## Implementation notes

Programs are data. The same program can be run to its end, cut off after some
calls, or interleaved with others, and statements about any of these are
statements about the one definition.
-/

namespace RouteKeeper

/-- The calls that can be made, what each returns, and how a call can fail. -/
structure Service where
  /-- The calls. -/
  Call : Type
  /-- What a call returns when it succeeds. -/
  Result : Call → Type
  /-- How a call fails. -/
  Fault : Type

/-- What the caller gets back: the result, or a fault. -/
abbrev Service.Answer (S : Service) (c : S.Call) : Type :=
  Except S.Fault (S.Result c)

/-- A caller of a service: finished with a value, or making a call and going on with its answer. -/
inductive Program (S : Service) (α : Type) : Type where
  /-- Finished with a value. -/
  | done (value : α)
  /-- Makes a call; `next` goes on with the answer. -/
  | call (c : S.Call) (next : S.Answer c → Program S α)

/-- A server answers each call and moves on to a new state. -/
abbrev Server (S : Service) (σ : Type) : Type :=
  (c : S.Call) → σ → S.Answer c × σ

/-- An adapter answers the calls of one service by programs over another. -/
abbrev Adapter (S T : Service) : Type :=
  (c : S.Call) → Program T (S.Answer c)

namespace Program

variable {S : Service} {α β : Type}

/-- Runs a second program with the value of the first. -/
def bind : Program S α → (α → Program S β) → Program S β
  | done a, f => f a
  | call c next, f => call c fun answer => (next answer).bind f

instance : Monad (Program S) where
  pure := done
  bind := bind

/-- The program of one call. -/
def ask (c : S.Call) : Program S (S.Answer c) :=
  call c done

/-- Runs a program to its end. -/
def run {σ : Type} (server : Server S σ) : Program S α → σ → α × σ
  | done a, s => (a, s)
  | call c next, s =>
    let (answer, s) := server c s
    (next answer).run server s

/-- Runs at most the given number of calls and tells the state then. -/
def cutOff {σ : Type} (server : Server S σ) : Nat → Program S α → σ → σ
  | 0, _, s => s
  | _ + 1, done _, s => s
  | n + 1, call c next, s =>
    let (answer, s) := server c s
    cutOff server n (next answer) s

@[simp] theorem run_done {σ : Type} (server : Server S σ) (a : α) (s : σ) :
    (done a : Program S α).run server s = (a, s) := rfl

@[simp] theorem run_call {σ : Type} (server : Server S σ) (c : S.Call)
    (next : S.Answer c → Program S α) (s : σ) :
    (call c next).run server s = (next (server c s).1).run server (server c s).2 := rfl

@[simp] theorem run_bind {σ : Type} (server : Server S σ) (p : Program S α)
    (f : α → Program S β) (s : σ) :
    (p.bind f).run server s = (f (p.run server s).1).run server (p.run server s).2 := by
  induction p generalizing s with
  | done a => rfl
  | call c next ih => exact ih (server c s).1 (server c s).2

end Program

/-- A server of the second service, seen through an adapter, serves the first. -/
def Adapter.serve {S T : Service} {σ : Type} (a : Adapter S T) (server : Server T σ) :
    Server S σ :=
  fun c => (a c).run server

/-- Looks at each call before it is served; a fault keeps the call from the server. -/
def Server.guarded {S : Service} {σ γ : Type} (guard : S.Call → γ → Option S.Fault × γ)
    (server : Server S σ) : Server S (γ × σ) :=
  fun c (g, s) =>
    match guard c g with
    | (some fault, g) => (.error fault, (g, s))
    | (none, g) =>
      let (answer, s) := server c s
      (answer, (g, s))

end RouteKeeper
