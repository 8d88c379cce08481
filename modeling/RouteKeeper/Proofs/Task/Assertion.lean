import RouteKeeper.Task

/-!
# Assertions about programs and tasks

An assertion says two things of a task that runs alone: what holds at every moment
on the way, and what holds of the value and the states at the end. A moment is the
shared state together with the server's state.

## Implementation notes

The moments of a task are those at which it can be cut off, so an assertion about a
whole run is at the same time an assertion about every run that stops early.
-/

namespace RouteKeeper

variable {S : Service} {σ β α α' : Type}

namespace Program

/-- Every state on the way satisfies `during`; the value and the last state satisfy `after`. -/
def Ensures (server : Server S σ) (during : σ → Prop) (after : α → σ → Prop) :
    Program S α → σ → Prop
  | done a, s => during s ∧ after a s
  | call c next, s =>
    during s ∧ (next (server c s).1).Ensures server during after (server c s).2

theorem Ensures.bind {server : Server S σ} {during : σ → Prop} {after : α' → σ → Prop}
    {p : Program S α} {f : α → Program S α'} {s : σ}
    (h : p.Ensures server during (fun a s => (f a).Ensures server during after s) s) :
    (p.bind f).Ensures server during after s := by
  induction p generalizing s with
  | done a => exact h.2
  | call c next ih => exact ⟨h.1, ih _ h.2⟩

theorem Ensures.mono {server : Server S σ} {during : σ → Prop} {after after' : α → σ → Prop}
    {p : Program S α} {s : σ} (h : p.Ensures server during after s)
    (hafter : ∀ a s, during s → after a s → after' a s) : p.Ensures server during after' s := by
  induction p generalizing s with
  | done a => exact ⟨h.1, hafter _ _ h.1 h.2⟩
  | call c next ih => exact ⟨h.1, ih _ h.2⟩

end Program

namespace Task

/-- Every moment on the way satisfies `during`; the value and the last moment satisfy `after`. -/
def Ensures (server : Server S σ) (now : Nat) (during : β → σ → Prop)
    (after : α → β → σ → Prop) : Task S β α → β → σ → Prop
  | done a, state, s => during state s ∧ after a state s
  | call c next, state, s =>
    during state s ∧ (next (server c s).1).Ensures server now during after state (server c s).2
  | acquire next, state, s =>
    during state s ∧ (next now state).Ensures server now during after state s
  | save state' next, state, s =>
    during state s ∧ next.Ensures server now during after state' s

section

variable {server : Server S σ} {now : Nat} {during : β → σ → Prop} {after : α → β → σ → Prop}

/-- The first moment is one of the moments. -/
theorem Ensures.here {t : Task S β α} {state : β} {s : σ}
    (h : t.Ensures server now during after state s) : during state s := by
  cases t <;> exact h.1

/-- A run that comes to its end satisfies the final assertion. -/
theorem Ensures.run {t : Task S β α} {state : β} {s : σ}
    (h : t.Ensures server now during after state s) :
    after (t.run server now state s).1 (t.run server now state s).2.1
      (t.run server now state s).2.2 := by
  induction t generalizing state s with
  | done a => exact h.2
  | call c next ih => exact ih _ h.2
  | acquire next ih => exact ih _ _ h.2
  | save state' next ih => exact ih h.2

/-- A run that is cut off stops at one of the moments. -/
theorem Ensures.cutOff {t : Task S β α} {state : β} {s : σ}
    (h : t.Ensures server now during after state s) (n : Nat) :
    during (t.cutOff server now n state s).1 (t.cutOff server now n state s).2 := by
  induction n generalizing t state s with
  | zero => exact h.here
  | succ n ih =>
      cases t with
      | done a => exact h.1
      | call c next => exact ih h.2
      | acquire next => exact ih h.2
      | save state' next => exact ih h.2

/-- Assertions may be weakened. -/
theorem Ensures.mono {during' : β → σ → Prop} {after' : α → β → σ → Prop}
    {t : Task S β α} {state : β} {s : σ} (h : t.Ensures server now during after state s)
    (hduring : ∀ state s, during state s → during' state s)
    (hafter : ∀ a state s, after a state s → after' a state s) :
    t.Ensures server now during' after' state s := by
  induction t generalizing state s with
  | done a => exact ⟨hduring _ _ h.1, hafter _ _ _ h.2⟩
  | call c next ih => exact ⟨hduring _ _ h.1, ih _ h.2⟩
  | acquire next ih => exact ⟨hduring _ _ h.1, ih _ _ h.2⟩
  | save state' next ih => exact ⟨hduring _ _ h.1, ih h.2⟩

/-- The second task goes on from where the first one ended. -/
theorem Ensures.bind {after' : α' → β → σ → Prop} {t : Task S β α} {f : α → Task S β α'}
    {state : β} {s : σ}
    (h : t.Ensures server now during
      (fun a state s => (f a).Ensures server now during after' state s) state s) :
    (t.bind f).Ensures server now during after' state s := by
  induction t generalizing state s with
  | done a => exact h.2
  | call c next ih => exact ⟨h.1, ih _ h.2⟩
  | acquire next ih => exact ⟨h.1, ih _ _ h.2⟩
  | save state' next ih => exact ⟨h.1, ih h.2⟩

/-- The final assertion may speak of the run itself, and of the last moment. -/
theorem Ensures.at_end {t : Task S β α} {state : β} {s : σ}
    (h : t.Ensures server now during after state s) :
    t.Ensures server now during
      (fun a state' s' => (a, state', s') = t.run server now state s ∧ during state' s' ∧
        after a state' s') state s := by
  induction t generalizing state s with
  | done a => exact ⟨h.1, rfl, h⟩
  | call c next ih => exact ⟨h.1, ih _ h.2⟩
  | acquire next ih => exact ⟨h.1, ih _ _ h.2⟩
  | save state' next ih => exact ⟨h.1, ih h.2⟩

/-- A program inside a task moves the server only. -/
theorem Ensures.ofProgram {p : Program S α} {state : β} {s : σ}
    (h : p.Ensures server (during state) (fun a s => after a state s) s) :
    (Task.ofProgram p).Ensures server now during after state s := by
  induction p generalizing s with
  | done a => exact h
  | call c next ih => exact ⟨h.1, ih _ h.2⟩

end

/-- Whatever a task is answered, it saves states that satisfy `P` as long as it is given such
states, and its value satisfies `Q`. -/
def Saves (P : β → Prop) (Q : α → Prop) : Task S β α → Prop
  | done a => Q a
  | call _ next => ∀ answer, (next answer).Saves P Q
  | acquire next => ∀ now state, P state → (next now state).Saves P Q
  | save state next => P state ∧ next.Saves P Q

section

variable {P : β → Prop} {Q : α → Prop} {t : Task S β α}

theorem Saves.bind {Q' : α' → Prop} {f : α → Task S β α'} (h : t.Saves P Q)
    (hf : ∀ a, Q a → (f a).Saves P Q') : (t.bind f).Saves P Q' := by
  induction t with
  | done a => exact hf a h
  | call c next ih => exact fun answer => ih answer (h answer)
  | acquire next ih => exact fun now state hstate => ih now state (h now state hstate)
  | save state next ih => exact ⟨h.1, ih h.2⟩

/-- A program saves nothing. -/
theorem Saves.ofProgram (p : Program S α) :
    (Task.ofProgram p : Task S β α).Saves P fun _ => True := by
  induction p with
  | done a => trivial
  | call c next ih => exact ih

/-- A run that is given such a state leaves such a state. -/
theorem Saves.run (h : t.Saves P Q) {server : Server S σ} {now : Nat} {state : β} {s : σ}
    (hstate : P state) : P (t.run server now state s).2.1 := by
  induction t generalizing state s with
  | done a => exact hstate
  | call c next ih => exact ih _ (h _) hstate
  | acquire next ih => exact ih _ _ (h now state hstate) hstate
  | save state' next ih => exact ih h.2 h.1

end

/-- Servers whose states are related give the same answers, and stay related. -/
def Simulates {τ : Type} (R : σ → τ → Prop) (server : Server S σ) (server' : Server S τ) : Prop :=
  ∀ c s s', R s s' → (server c s).1 = (server' c s').1 ∧ R (server c s).2 (server' c s').2

/-- An assertion that does not tell related states apart holds over either server. -/
theorem Ensures.transfer {τ : Type} {R : σ → τ → Prop} {server : Server S σ}
    {server' : Server S τ} {now : Nat} {during : β → σ → Prop} {after : α → β → σ → Prop}
    {during' : β → τ → Prop} {after' : α → β → τ → Prop} {t : Task S β α} {state : β} {s : σ}
    {s' : τ} (h : t.Ensures server now during after state s)
    (hserver : Simulates R server server')
    (hduring : ∀ state s s', R s s' → during state s → during' state s')
    (hafter : ∀ a state s s', R s s' → after a state s → after' a state s') (hs : R s s') :
    t.Ensures server' now during' after' state s' := by
  induction t generalizing state s s' with
  | done a => exact ⟨hduring _ _ _ hs h.1, hafter _ _ _ _ hs h.2⟩
  | call c next ih =>
      obtain ⟨hanswer, hnext⟩ := hserver c s s' hs
      have hrest := ih _ h.2 hnext
      rw [hanswer] at hrest
      exact ⟨hduring _ _ _ hs h.1, hrest⟩
  | acquire next ih => exact ⟨hduring _ _ _ hs h.1, ih _ _ h.2 hs⟩
  | save state' next ih => exact ⟨hduring _ _ _ hs h.1, ih h.2 hs⟩

end Task

/-- Every call, however it is answered, keeps the property. -/
def Server.Keeps (P : σ → Prop) (server : Server S σ) : Prop :=
  ∀ c s, P s → P (server c s).2

namespace Server.Keeps

variable {P : σ → Prop} {server : Server S σ}

/-- Calls that are kept from a server change nothing. -/
theorem guarded {γ : Type} (h : server.Keeps P) (guard : S.Call → γ → Option S.Fault × γ) :
    (Server.guarded guard server).Keeps fun s => P s.2 := by
  rintro c ⟨g, s⟩ hs
  cases hg : guard c g with
  | mk fault g' =>
      cases fault with
      | some fault => simpa [Server.guarded, hg] using hs
      | none => simpa [Server.guarded, hg] using h c s hs

/-- An adapter only does what its server does. -/
theorem serve {T : Service} {server : Server T σ} (h : server.Keeps P) (adapter : Adapter S T) :
    (adapter.serve server).Keeps P := by
  intro c s hs
  simp only [Adapter.serve]
  induction adapter c generalizing s with
  | done a => exact hs
  | call c next ih => exact ih _ _ (h c s hs)

/-- So does a task. -/
theorem run (h : server.Keeps P) {now : Nat} (t : Task S β α) {state : β} {s : σ} (hs : P s) :
    P (t.run server now state s).2.2 := by
  induction t generalizing state s with
  | done a => exact hs
  | call c next ih => exact ih _ (h c s hs)
  | acquire next ih => exact ih _ _ hs
  | save state' next ih => exact ih hs

end Server.Keeps

end RouteKeeper
