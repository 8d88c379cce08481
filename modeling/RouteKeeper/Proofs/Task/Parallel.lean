import RouteKeeper.Proofs.Task.Trace

/-!
# Tasks that run in parallel

A view of a service says which calls a caller makes and which answers it does not tell apart.
Tasks are parallel under a view when they make the same calls and save the same states as long
as their answers look the same. A task that is parallel to itself depends on what it can see
and on nothing else, such as the reason for a failure.

## Implementation notes

Parallel tasks are run over two servers whose states are related. The servers only have to
answer alike where their calls fail together, so the reasons of either server to fail a call
never enter.
-/

namespace RouteKeeper

/-- What a caller can see of a service. -/
structure View (S : Service) where
  /-- The calls that the caller makes. -/
  asks : S.Call → Prop
  /-- The answers that look the same to it. -/
  same : (c : S.Call) → S.Answer c → S.Answer c → Prop

variable {S : Service} {β α α' σ τ : Type} {V : View S}

/-- Calls that fail together look the same from the two servers and keep their states related. -/
def Server.Follows (V : View S) (R : σ → τ → Prop) (server : Server S σ)
    (server' : Server S τ) : Prop :=
  ∀ c s s', V.asks c → R s s' → (server c s).1.isOk = (server' c s').1.isOk →
    V.same c (server c s).1 (server' c s').1 ∧ R (server c s).2 (server' c s').2

namespace Task

/-- The tasks make the same calls and save the same states, and end with related values. -/
inductive Parallel (V : View S) (related : α → α → Prop) : Task S β α → Task S β α → Prop
  /-- Both are finished. -/
  | done {a a' : α} (h : related a a') : Parallel V related (.done a) (.done a')
  /-- Both make the call and are parallel after answers that look the same. -/
  | call {c : S.Call} {next next' : S.Answer c → Task S β α} (hc : V.asks c)
      (h : ∀ answer answer', V.same c answer answer' →
        Parallel V related (next answer) (next' answer')) :
      Parallel V related (.call c next) (.call c next')
  /-- Both wait for the lock. -/
  | acquire {next next' : Nat → β → Task S β α}
      (h : ∀ now state, Parallel V related (next now state) (next' now state)) :
      Parallel V related (.acquire next) (.acquire next')
  /-- Both save the state. -/
  | save {state : β} {next next' : Task S β α} (h : Parallel V related next next') :
      Parallel V related (.save state next) (.save state next')

namespace Parallel

variable {related : α → α → Prop} {related' : α' → α' → Prop} {t t' : Task S β α}

/-- Tasks are parallel when their first parts are and, after related values, the rest is. -/
theorem bind {f f' : α → Task S β α'} (h : Parallel V related t t')
    (hf : ∀ a a', related a a' → Parallel V related' (f a) (f' a')) :
    Parallel V related' (t.bind f) (t'.bind f') := by
  induction h with
  | done h => exact hf _ _ h
  | call hc _ ih => exact .call hc ih
  | acquire _ ih => exact .acquire ih
  | save _ ih => exact .save ih

/-- **Parallel runs.** As long as their calls fail together, parallel tasks over servers that
follow each other make the same calls and come to the same end. What comes after them in the
traces is compared from its own beginning. -/
theorem run {R : σ → τ → Prop} {server : Server S σ} {server' : Server S τ} {now : Nat}
    (h : Parallel V related t t') (hserver : Server.Follows V R server server') {state : β}
    {s : σ} {s' : τ} (hs : R s s') {rest : List (Moment S β σ)} {rest' : List (Moment S β τ)}
    (hfail : FailTogether (t.trace server now state s ++ rest)
      (t'.trace server' now state s' ++ rest')) :
    related (t.run server now state s).1 (t'.run server' now state s').1 ∧
      (t.run server now state s).2.1 = (t'.run server' now state s').2.1 ∧
      R (t.run server now state s).2.2 (t'.run server' now state s').2.2 ∧
      (t.trace server now state s).map (·.call) =
        (t'.trace server' now state s').map (·.call) ∧
      FailTogether rest rest' := by
  induction h generalizing state s s' with
  | done h => exact ⟨h, rfl, hs, rfl, hfail⟩
  | @call c _ _ hc _ ih =>
      obtain ⟨hok, hnext⟩ := failTogether_cons.mp hfail
      obtain ⟨hsame, hs⟩ := hserver c s s' hc hs hok
      obtain ⟨hvalue, hstate, hend, hcalls, hrest⟩ := ih _ _ hsame hs hnext
      exact ⟨hvalue, hstate, hend, congrArg (List.cons c) hcalls, hrest⟩
  | acquire _ ih => exact ih now state hs hfail
  | save _ ih => exact ih hs hfail

end Parallel

end Task

end RouteKeeper
