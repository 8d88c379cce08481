import RouteKeeper.Proofs.Footprint
import RouteKeeper.Proofs.Task.Pool

/-!
# Requests side by side

Requests that one router serves side by side come to the same end as the same requests one
after another, in the order in which they took the lock. Whoever has the lock has the
backend to itself but for listings. A recovery takes its listing before the lock, so the
listing may be old; but it is only wrong about subnets that are recorded by the time the
recovery has the lock, and those it leaves alone.

## Implementation notes

The serial run is kept up to date with every turn: when a task takes the lock, the serial run
takes the whole task at once. Between two turns the shared run is behind, and what is left
of the holder's task leads to where the serial run is already.
-/

namespace RouteKeeper

namespace Recording

/-- Two recording dataplanes that differ in their notes only. -/
structure Alike (s s' : Recording) : Prop where
  installed : s.installed = s'.installed
  failing : s.failing = s'.failing
  connections : s.connections = s'.connections

theorem Alike.symm {s s' : Recording} (h : Alike s s') : Alike s' s :=
  ⟨h.installed.symm, h.failing.symm, h.connections.symm⟩

/-- Notes make no difference to the answers. -/
theorem server_simulates (mode : Mode) : Task.Simulates Alike (server mode) (server mode) := by
  rintro c s s' h
  cases c with
  | upsert i =>
      by_cases hfails : i.subnet ∈ s.failing
      · rw [server_upsert_failing hfails, server_upsert_failing (h.failing ▸ hfails)]
        exact ⟨rfl, h.installed, h.failing, h.connections⟩
      · rw [server_upsert hfails, server_upsert (h.failing ▸ hfails)]
        exact ⟨rfl, congrArg (write mode i) h.installed, h.failing, h.connections⟩
  | delete i => exact ⟨rfl, congrArg (erase mode i) h.installed, h.failing, h.connections⟩
  | installed => exact ⟨congrArg Except.ok h.installed, h.installed, h.failing, h.connections⟩
  | connections => exact ⟨congrArg Except.ok h.connections, h.installed, h.failing, h.connections⟩

end Recording

open Recording Router

/-- What a recovery has left to do once it has its listing. -/
def Router.adoptListed (installed : List InstalledRoute) : Work Outcome :=
  .acquire fun _ r =>
    .save { r with desired := (adopt r.desired (installed.filterMap intentOf?)).2 }
      (.done (.recovered (.ok (adopt r.desired (installed.filterMap intentOf?)).1)))

variable {mode : Mode} {requests : List Request} {e : Serial Router Outcome Recording}
  {p : Pool dataplane Router Outcome Recording} {now i : Nat} {q : Request}
  {t : Work Outcome} {s : Recording}

/-- A listing agrees with the serial run about every subnet that can still be adopted. -/
def Serial.Lists (e : Serial Router Outcome Recording) (installed : List InstalledRoute) : Prop :=
  intentsOutside e.state.desired.knows installed =
    intentsOutside e.state.desired.knows e.backend.installed

/-- How far the task of a request can be that has not had the lock. -/
inductive Waiting (mode : Mode) (e : Serial Router Outcome Recording) :
    Request → Work Outcome → Prop where
  /-- It has not made a step. -/
  | fresh (q : Request) : Waiting mode e q (q.work mode)
  /-- It is a recovery that has its listing. -/
  | listed {installed : List InstalledRoute} (h : e.Lists installed) :
      Waiting mode e .recover (adoptListed installed)

/-- What is left of the holder's task leads to the end of the serial run, past listings that
agree with it. -/
def Holding (mode : Mode) (e : Serial Router Outcome Recording) (now i : Nat) (t : Work Outcome)
    (r : Router) (s : Recording) : Prop :=
  t.Ensures (server mode) now (fun _ s => e.Lists s.installed)
    (fun a r s => (i, a) ∈ e.values ∧ r = e.state ∧ Alike s e.backend) r s

/-- A pool in line with a serial run of the turns so far. -/
structure InLine (mode : Mode) (requests : List Request) (e : Serial Router Outcome Recording)
    (p : Pool dataplane Router Outcome Recording) : Prop where
  length : p.tasks.length = requests.length
  nodup : p.served.Nodup
  values : e.values.map Prod.fst = p.served
  canonical : e.state.desired.Canonical
  waiting : ∀ i q, requests[i]? = some q → i ∉ p.served →
    ∃ t, p.tasks[i]? = some t ∧ Waiting mode e q t
  finished : ∀ i, i ∈ p.served → p.holder ≠ some i →
    ∃ a, p.tasks[i]? = some (.done a) ∧ (i, a) ∈ e.values
  free : p.holder = none → p.state = e.state ∧ Alike p.backend e.backend
  held : ∀ i, p.holder = some i → i ∈ p.served ∧
    ∃ t, p.tasks[i]? = some t ∧ Holding mode e p.now i t p.state p.backend

/-- A request waits for the lock at once, or takes a listing first, or needs neither. -/
theorem Request.work_shape (mode : Mode) (q : Request) :
    (∃ a, q.work mode = .done a) ∨ (∃ next, q.work mode = .acquire next) ∨ q = .recover := by
  cases q with
  | inject subnetText nextHopText =>
      cases hparse : Intent.parse subnetText nextHopText with
      | error failure =>
          refine Or.inl ⟨.injected (.error failure), ?_⟩
          simp only [work, injectRoute, hparse]
          rfl
      | ok intent =>
          refine Or.inr (Or.inl ?_)
          simp only [work, injectRoute, hparse, inject_eq]
          exact ⟨_, rfl⟩
  | reconcile => exact Or.inr (Or.inl ⟨_, rfl⟩)
  | recover => exact Or.inr (Or.inr rfl)

namespace Waiting

/-- A waiting task that makes a call takes the listing of a recovery. -/
theorem of_call {c : Dataplane.Call} {next : dataplane.Answer c → Work Outcome}
    (h : Waiting mode e q (.call c next)) :
    q = .recover ∧ ∀ s, next (server mode c s).1 = adoptListed s.installed ∧
      (server mode c s).2 = s.note .installed := by
  generalize ht : (Task.call c next : Work Outcome) = t at h
  cases h with
  | fresh =>
      rcases q.work_shape mode with ⟨a, hq⟩ | ⟨next', hq⟩ | rfl
      · rw [hq] at ht
        cases ht
      · rw [hq] at ht
        cases ht
      · cases ht
        exact ⟨rfl, fun s => ⟨rfl, rfl⟩⟩
  | listed _ => cases ht

/-- A task that is done without the lock was done from the start. -/
theorem of_done {a : Outcome} (h : Waiting mode e q (.done a)) : q.work mode = .done a := by
  generalize ht : (Task.done a : Work Outcome) = t at h
  cases h with
  | fresh => rfl
  | listed _ => cases ht

/-- A task may go on waiting when a turn has recorded more and left the rest alone. -/
theorem mono {e' : Serial Router Outcome Recording} (h : Waiting mode e q t)
    (hknown : ∀ n, e.state.desired.knows n = true → e'.state.desired.knows n = true)
    (hlists : e'.Lists e.backend.installed) : Waiting mode e' q t := by
  cases h with
  | fresh => exact .fresh q
  | listed h => exact .listed ((intentsOutside_mono hknown h).trans hlists)

end Waiting

/-- The serial run after one more turn, that of a request. -/
def Serial.serve (mode : Mode) (e : Serial Router Outcome Recording) (now i : Nat) (q : Request) :
    Serial Router Outcome Recording :=
  let (a, r, s) := (q.work mode).run (server mode) now e.state e.backend
  ⟨e.values ++ [(i, a)], r, s⟩

theorem Serial.run_serve {r : Router} {turns : List (Nat × Nat)} (hq : requests[i]? = some q) :
    Serial.run (server mode) (requests.map (·.work mode)) (turns ++ [(i, now)]) r s =
      (Serial.run (server mode) (requests.map (·.work mode)) turns r s).serve mode now i q := by
  simp [Serial.run, Serial.turn, Serial.serve, hq]

/-- A waiting task that takes the lock goes where the serial run goes with the whole request. -/
theorem Waiting.holding {next : Nat → Router → Work Outcome}
    (h : Waiting mode e q (.acquire next)) (he : e.state.desired.Canonical)
    (hs : Alike e.backend s) :
    Holding mode (e.serve mode now i q) now i (next now e.state) e.state s := by
  generalize ht : (Task.acquire next : Work Outcome) = t at h
  cases h with
  | fresh =>
      obtain ⟨-, -, hagrees⟩ := q.work_agrees mode now e.backend he
      have hend := hagrees.at_end
      have hlast := hend.run.2.1.intents
      unfold Serial.serve
      generalize (q.work mode).run (server mode) now e.state e.backend = out at hend hlast ⊢
      rw [← ht] at hend
      refine hend.2.transfer (server_simulates mode) ?_ ?_ hs
      · intro _ s₁ s₂ h hduring
        rw [Serial.Lists, ← h.installed]
        exact hduring.intents.trans hlast.symm
      · rintro a r s₁ s₂ h ⟨hrun, -, -⟩
        cases hrun
        exact ⟨by simp, rfl, h.symm⟩
  | listed hlists =>
      cases ht
      have hserve : e.serve mode now i .recover = ⟨e.values ++ [(i, .recovered (.ok (adopt
          e.state.desired (e.backend.installed.filterMap intentOf?)).1))], { e.state with
            desired := (adopt e.state.desired (e.backend.installed.filterMap intentOf?)).2 },
          e.backend.note .installed⟩ := rfl
      rw [hserve, ← adopt_congr hlists]
      have hsame {known : Network → Bool} : intentsOutside known s.installed =
          intentsOutside known e.backend.installed := by rw [hs.installed]
      exact ⟨hsame, hsame, by simp, rfl, hs.symm.installed, hs.symm.failing, hs.symm.connections⟩

namespace InLine

/-- A task that is not done has the lock, or waits for its turn. -/
theorem holder_or_waiting (h : InLine mode requests e p) (hi : p.tasks[i]? = some t)
    (ht : ∀ a, t ≠ .done a) :
    p.holder = some i ∨ i ∉ p.served ∧ ∃ q, requests[i]? = some q ∧ Waiting mode e q t := by
  by_cases hholder : p.holder = some i
  · exact Or.inl hholder
  · refine Or.inr ?_
    by_cases hserved : i ∈ p.served
    · obtain ⟨a, ha, -⟩ := h.finished i hserved hholder
      exact absurd (Option.some.inj (hi.symm.trans ha)) (ht a)
    · have hlt : i < requests.length := h.length ▸ (List.getElem?_eq_some_iff.mp hi).1
      have hq := List.getElem?_eq_getElem hlt
      obtain ⟨t', ht', hwaiting⟩ := h.waiting i _ hq hserved
      cases Option.some.inj (hi.symm.trans ht')
      exact ⟨hserved, _, hq, hwaiting⟩

/-- At any moment a listing agrees with the serial run. -/
theorem lists (h : InLine mode requests e p) : e.Lists p.backend.installed := by
  cases hholder : p.holder with
  | none => rw [Serial.Lists, (h.free hholder).2.installed]
  | some j =>
      obtain ⟨-, t, -, hholding⟩ := h.held j hholder
      exact hholding.here

/-- The holder makes a step. -/
theorem hold {r : Router} (h : InLine mode requests e p) (hholder : p.holder = some i)
    (ht : Holding mode e p.now i t r s) :
    InLine mode requests e { p with tasks := p.tasks.set i t, state := r, backend := s } where
  length := (List.length_set ..).trans h.length
  nodup := h.nodup
  values := h.values
  canonical := h.canonical
  waiting j q hq hj := by
    have hne : i ≠ j := fun hij => hj (hij ▸ (h.held i hholder).1)
    rw [List.getElem?_set_ne hne]
    exact h.waiting j q hq hj
  finished j hj hother := by
    have hne : i ≠ j := fun hij => hother (hij ▸ hholder)
    rw [List.getElem?_set_ne hne]
    exact h.finished j hj hother
  free hnone := absurd (hholder.symm.trans hnone) (by simp)
  held j hj := by
    cases Option.some.inj (hholder.symm.trans hj)
    obtain ⟨hserved, t', ht', -⟩ := h.held i hholder
    refine ⟨hserved, t, ?_, ht⟩
    exact List.getElem?_set_self (List.getElem?_eq_some_iff.mp ht').1

/-- A recovery takes its listing. -/
theorem list (h : InLine mode requests e p) (hi : i ∉ p.served)
    (hq : requests[i]? = some .recover) (ht : p.tasks[i]? = some t) :
    InLine mode requests e { p with
      tasks := p.tasks.set i (adoptListed p.backend.installed)
      backend := p.backend.note .installed } where
  length := (List.length_set ..).trans h.length
  nodup := h.nodup
  values := h.values
  canonical := h.canonical
  waiting j q hjq hj := by
    by_cases hij : i = j
    · subst hij
      cases Option.some.inj (hq.symm.trans hjq)
      exact ⟨_, List.getElem?_set_self (List.getElem?_eq_some_iff.mp ht).1, .listed h.lists⟩
    · rw [List.getElem?_set_ne hij]
      exact h.waiting j q hjq hj
  finished j hj hother := by
    have hne : i ≠ j := fun hij => hi (hij ▸ hj)
    rw [List.getElem?_set_ne hne]
    exact h.finished j hj hother
  free hnone := by
    obtain ⟨hstate, hs⟩ := h.free hnone
    exact ⟨hstate, hs.installed, hs.failing, hs.connections⟩
  held j hj := by
    obtain ⟨hserved, t', ht', hholding⟩ := h.held j hj
    have hne : i ≠ j := fun hij => hi (hij ▸ hserved)
    refine ⟨hserved, t', (List.getElem?_set_ne hne).trans ht', ?_⟩
    have hnoted : Alike p.backend (p.backend.note .installed) := ⟨rfl, rfl, rfl⟩
    refine hholding.transfer (server_simulates mode) ?_ ?_ hnoted
    · intro _ s₁ s₂ hs hlists
      rwa [← hs.installed]
    · rintro a r s₁ s₂ hs ⟨ha, hr, hend⟩
      exact ⟨ha, hr, hs.installed ▸ hend.installed, hs.failing ▸ hend.failing,
        hs.connections ▸ hend.connections⟩

/-- A waiting task takes the lock, and the serial run takes its whole request. -/
theorem acquire {next : Nat → Router → Work Outcome} (h : InLine mode requests e p)
    (hnone : p.holder = none) (hi : i ∉ p.served) (ht : p.tasks[i]? = some (.acquire next))
    (hwaiting : Waiting mode e q (.acquire next)) :
    InLine mode requests (e.serve mode p.now i q) { p with
      tasks := p.tasks.set i (next p.now p.state)
      holder := some i
      turns := p.turns ++ [(i, p.now)] } := by
  obtain ⟨hcanonical, hknown, hagrees⟩ := q.work_agrees mode p.now e.backend h.canonical
  have hserved (j : Nat) : j ∈ (p.turns ++ [(i, p.now)]).map Prod.fst ↔ j ∈ p.served ∨ j = i := by
    simp [Pool.served]
  refine ⟨(List.length_set ..).trans h.length, ?_, ?_, hcanonical, ?_, ?_, ?_, ?_⟩
  · rw [Pool.served, List.map_append, List.nodup_append]
    refine ⟨h.nodup, by simp, ?_⟩
    rintro j hj k hk rfl
    have hji : j = i := List.mem_singleton.mp hk
    exact hi (hji ▸ hj)
  · simp [Serial.serve, h.values, Pool.served]
  · intro j q' hq' hj
    rw [Pool.served, hserved, not_or] at hj
    rw [List.getElem?_set_ne (Ne.symm hj.2)]
    obtain ⟨t', ht', hwaiting'⟩ := h.waiting j q' hq' hj.1
    exact ⟨t', ht', hwaiting'.mono hknown hagrees.at_end.run.2.1.intents.symm⟩
  · intro j hj hother
    have hne : i ≠ j := fun hij => hother (congrArg some hij)
    rw [Pool.served, hserved] at hj
    obtain ⟨a, ha, hmem⟩ := h.finished j (hj.resolve_right (Ne.symm hne)) (by simp [hnone])
    rw [List.getElem?_set_ne hne]
    exact ⟨a, ha, List.mem_append_left _ hmem⟩
  · intro hfree
    cases hfree
  · intro j hj
    cases Option.some.inj hj
    obtain ⟨hstate, hs⟩ := h.free hnone
    refine ⟨(hserved i).mpr (Or.inr rfl), _,
      List.getElem?_set_self (List.getElem?_eq_some_iff.mp ht).1, ?_⟩
    rw [hstate]
    exact hwaiting.holding h.canonical hs.symm

/-- The holder is done and gives the lock back. -/
theorem release {a : Outcome} (h : InLine mode requests e p) (hholder : p.holder = some i)
    (ht : p.tasks[i]? = some (.done a)) :
    InLine mode requests e { p with holder := none } := by
  obtain ⟨hserved, t', ht', hholding⟩ := h.held i hholder
  cases Option.some.inj (ht.symm.trans ht')
  obtain ⟨-, ha, hstate, hs⟩ := hholding
  refine ⟨h.length, h.nodup, h.values, h.canonical, h.waiting, ?_, fun _ => ⟨hstate, hs⟩, ?_⟩
  · intro j hj _
    by_cases hij : i = j
    · subst hij
      exact ⟨a, ht, ha⟩
    · exact h.finished j hj fun hj => hij (Option.some.inj (hholder.symm.trans hj))
  · intro j hj
    cases hj

/-- Time passes while the lock is free. -/
theorem advance (h : InLine mode requests e p) (hnone : p.holder = none) (duration : Nat) :
    InLine mode requests e { p with now := p.now + duration } where
  length := h.length
  nodup := h.nodup
  values := h.values
  canonical := h.canonical
  waiting := h.waiting
  finished := h.finished
  free := h.free
  held j hj := absurd (hnone.symm.trans hj) (by simp)

/-- Every move keeps the pool in line with the serial run of its turns. -/
theorem move {r : Router} {s : Recording}
    (h : InLine mode requests
      (.run (server mode) (requests.map (·.work mode)) p.turns r s) p) (m : Move) :
    InLine mode requests
      (.run (server mode) (requests.map (·.work mode)) (p.move (server mode) m).turns r s)
      (p.move (server mode) m) := by
  cases m with
  | advance duration =>
      simp only [Pool.move]
      split
      · exact h
      · rename_i hfree
        exact h.advance (by simpa using hfree) duration
  | task i =>
      simp only [Pool.move, Pool.moveTask]
      split
      · exact h
      · rename_i a ht
        split
        · rename_i hholder
          exact h.release hholder ht
        · exact h
      · rename_i c next ht
        rcases h.holder_or_waiting ht (by simp) with hholder | ⟨hi, q, hq, hwaiting⟩
        · obtain ⟨-, t', ht', hholding⟩ := h.held i hholder
          cases Option.some.inj (ht.symm.trans ht')
          exact h.hold hholder hholding.2
        · obtain ⟨rfl, hnext⟩ := hwaiting.of_call
          rw [(hnext p.backend).1, (hnext p.backend).2]
          exact h.list hi hq ht
      · rename_i next ht
        split
        · exact h
        · rename_i hfree
          have hnone : p.holder = none := by simpa using hfree
          rcases h.holder_or_waiting ht (by simp) with hholder | ⟨hi, q, hq, hwaiting⟩
          · exact absurd (hnone.symm.trans hholder) (by simp)
          · have hturn := h.acquire hnone hi ht hwaiting
            rw [← Serial.run_serve hq] at hturn
            exact hturn
      · rename_i state next ht
        split
        · rename_i hholder
          obtain ⟨-, t', ht', hholding⟩ := h.held i hholder
          cases Option.some.inj (ht.symm.trans ht')
          exact h.hold hholder hholding.2
        · exact h

/-- Requests that nobody has served yet are in line. -/
theorem start (mode : Mode) (requests : List Request) (interval started now : Nat)
    (s : Recording) :
    InLine mode requests
      (.run (server mode) (requests.map (·.work mode)) [] (.start interval started) s)
      { now, tasks := requests.map (·.work mode), state := .start interval started,
        backend := s } where
  length := List.length_map _
  nodup := List.nodup_nil
  values := rfl
  canonical := DesiredTable.empty_canonical
  waiting i q hq _ := ⟨q.work mode, by simp [hq], .fresh q⟩
  finished i hi := by cases hi
  free _ := ⟨rfl, rfl, rfl, rfl⟩
  held i hi := by cases hi

/-- When every task is done, the shared run has come to where the serial run is. -/
theorem settled (h : InLine mode requests e p) (hdone : ∀ t ∈ p.tasks, t.isDone = true) :
    p.state = e.state ∧ Alike p.backend e.backend ∧
      ∀ i a, p.tasks[i]? = some (.done a) → i ∈ p.served → (i, a) ∈ e.values := by
  have hall (i : Nat) (a : Outcome) (ha : p.tasks[i]? = some (.done a)) (hi : i ∈ p.served)
      (hholder : p.holder ≠ some i) : (i, a) ∈ e.values := by
    obtain ⟨b, hb, hmem⟩ := h.finished i hi hholder
    cases ha.symm.trans hb
    exact hmem
  cases hholder : p.holder with
  | none =>
      obtain ⟨hstate, hs⟩ := h.free hholder
      exact ⟨hstate, hs, fun i a ha hi => hall i a ha hi (by simp [hholder])⟩
  | some j =>
      obtain ⟨-, t, ht, hholding⟩ := h.held j hholder
      obtain ⟨b, rfl⟩ := Task.isDone_iff.mp (hdone t (List.mem_of_getElem? ht))
      obtain ⟨-, hb, hstate, hs⟩ := hholding
      refine ⟨hstate, hs, fun i a ha hi => ?_⟩
      by_cases hij : i = j
      · subst hij
        cases ha.symm.trans ht
        exact hb
      · exact hall i a ha hi (by simpa [hholder] using Ne.symm hij)

/-- A task that had the lock is a task of the pool. -/
theorem lt_of_mem_served (h : InLine mode requests e p) (hi : i ∈ p.served) :
    i < requests.length := by
  have hsome : ∃ t, p.tasks[i]? = some t := by
    by_cases hholder : p.holder = some i
    · obtain ⟨-, t, ht, -⟩ := h.held i hholder
      exact ⟨t, ht⟩
    · obtain ⟨a, ha, -⟩ := h.finished i hi hholder
      exact ⟨_, ha⟩
  obtain ⟨t, ht⟩ := hsome
  exact h.length ▸ (List.getElem?_eq_some_iff.mp ht).1

/-- The sequence of a pool has every task once. -/
theorem sequence_perm (h : InLine mode requests e p) :
    (p.sequence.map Prod.fst).Perm (List.range requests.length) := by
  have hsequence : p.sequence.map Prod.fst =
      p.served ++ (List.range requests.length).filter (· ∉ p.served) := by
    simp [Pool.sequence, Pool.served, h.length, Function.comp_def]
  have hnodup : (p.served ++ (List.range requests.length).filter (· ∉ p.served)).Nodup := by
    refine List.nodup_append.mpr ⟨h.nodup, List.nodup_range.filter _, ?_⟩
    rintro i hi j hj rfl
    simp [hi] at hj
  rw [hsequence, List.perm_ext_iff_of_nodup hnodup List.nodup_range]
  intro i
  by_cases hi : i ∈ p.served
  · simp [hi, h.lt_of_mem_served hi]
  · simp [hi]

/-- A task that is done without having had the lock was done from the start. -/
theorem work_of_done {a : Outcome} (h : InLine mode requests e p) (hi : i ∉ p.served)
    (ha : p.tasks[i]? = some (.done a)) :
    (requests.map (·.work mode))[i]? = some (.done a) := by
  have hlt : i < requests.length := h.length ▸ (List.getElem?_eq_some_iff.mp ha).1
  have hq := List.getElem?_eq_getElem hlt
  obtain ⟨t, ht, hwaiting⟩ := h.waiting i _ hq hi
  cases ha.symm.trans ht
  rw [List.getElem?_map, hq, Option.map_some, hwaiting.of_done]

end InLine

/-- No task has two values. -/
private theorem eq_of_mem_values {values : List (Nat × Outcome)} {a b : Outcome}
    (hnodup : (values.map Prod.fst).Nodup) (ha : (i, a) ∈ values) (hb : (i, b) ∈ values) :
    a = b := by
  induction values with
  | nil => cases ha
  | cons v rest ih =>
      obtain ⟨hv, hrest⟩ := List.nodup_cons.mp hnodup
      have hfst {c : Outcome} (hc : (i, c) ∈ rest) : i ∈ rest.map Prod.fst :=
        List.mem_map_of_mem hc
      rcases List.mem_cons.mp ha with rfl | ha'
      · rcases List.mem_cons.mp hb with hb' | hb'
        · exact (congrArg Prod.snd hb').symm
        · exact absurd (hfst hb') hv
      · rcases List.mem_cons.mp hb with rfl | hb'
        · exact absurd (hfst ha') hv
        · exact ih hrest ha' hb'

/-- **Side by side is one after another.** However the steps of some requests are mixed, once
all are done each has the result, and router and routes are what they are, when the requests
run one after another in the order in which they took the lock, each at the time it did. -/
theorem interleaving_serial (mode : Mode) (requests : List Request) (interval started now : Nat)
    (backend : Recording) (moves : List Move) :
    let tasks := requests.map (·.work mode)
    let r := Router.start interval started
    let p := Pool.run (server mode) moves { now, tasks, state := r, backend }
    (∀ t ∈ p.tasks, t.isDone = true) →
      let e := Serial.run (server mode) tasks p.sequence r backend
      (p.sequence.map Prod.fst).Perm (List.range requests.length) ∧
        (∀ i a, p.tasks[i]? = some (.done a) ↔ (i, a) ∈ e.values) ∧
        p.state = e.state ∧ p.backend.installed = e.backend.installed := by
  intro tasks r p hdone e
  have h : InLine mode requests (.run (server mode) tasks p.turns r backend) p :=
    Pool.run_induction (P := fun p => InLine mode requests
        (.run (server mode) tasks p.turns r backend) p)
      (InLine.start mode requests interval started now backend) (fun _ m h => h.move m) moves
  obtain ⟨hstate, hs, hserved⟩ := h.settled hdone
  let rest := (List.range p.tasks.length).filter (· ∉ p.served)
  have hrest : ∀ j ∈ rest.map fun i => (i, p.now), ∃ a, tasks[j.1]? = some (.done a) := by
    rintro _ hj
    obtain ⟨i, hi, rfl⟩ := List.mem_map.mp hj
    obtain ⟨hlt, hi⟩ : i < p.tasks.length ∧ i ∉ p.served := by simpa [rest] using hi
    obtain ⟨a, ha⟩ := Task.isDone_iff.mp (hdone _ (List.getElem_mem hlt))
    exact ⟨a, h.work_of_done hi (ha ▸ List.getElem?_eq_getElem hlt)⟩
  obtain ⟨values, hrun, hfst, hmem⟩ := Serial.foldl_turn_done hrest
    (.run (server mode) tasks p.turns r backend)
  have he : e = ⟨_, _, _⟩ := (List.foldl_append ..).trans hrun
  have hvalues : e.values.map Prod.fst = p.sequence.map Prod.fst := by
    rw [he, List.map_append, h.values, hfst, Pool.sequence, List.map_append]
    rfl
  have hnodup : (e.values.map Prod.fst).Nodup :=
    hvalues ▸ h.sequence_perm.symm.nodup List.nodup_range
  have hresult (i : Nat) (a : Outcome) (ha : p.tasks[i]? = some (.done a)) :
      (i, a) ∈ e.values := by
    rw [he]
    by_cases hi : i ∈ p.served
    · exact List.mem_append_left _ (hserved i a ha hi)
    · have hlt := (List.getElem?_eq_some_iff.mp ha).1
      exact List.mem_append_right _ (hmem (i, p.now) (by simp [rest, hlt, hi]) a
        (h.work_of_done hi ha))
  refine ⟨h.sequence_perm, fun i a => ⟨hresult i a, fun ha => ?_⟩, ?_, ?_⟩
  · have hi : i ∈ List.range requests.length :=
      h.sequence_perm.mem_iff.mp (hvalues ▸ List.mem_map_of_mem ha)
    have hlt : i < p.tasks.length := h.length ▸ List.mem_range.mp hi
    obtain ⟨b, hb⟩ := Task.isDone_iff.mp (hdone _ (List.getElem_mem hlt))
    have hget : p.tasks[i]? = some (.done b) := hb ▸ List.getElem?_eq_getElem hlt
    rw [hget, eq_of_mem_values hnodup ha (hresult i b hget)]
  · rw [he]
    exact hstate
  · rw [he]
    exact hs.installed

private def overtaken : List Request :=
  [.recover, .inject "10.1.0.0/16" "192.168.3.9"]

private def overtakenBackend : Recording :=
  { installed := [⟨some ⟨.ofOctets 10 1 0 0, 16, by decide⟩, some (.ofOctets 192 168 3 1), none⟩] }

/-- The recovery lists, the injection runs from lock to lock, and then the recovery goes on. -/
private def overtakenPool : Pool dataplane Router Outcome Recording :=
  .run (server .vpp) [.task 0, .advance 7, .task 1, .task 0, .advance 5, .task 1, .task 1, .task 1,
      .task 0, .task 0]
    { now := 0, tasks := overtaken.map (·.work .vpp), state := .start 30000 0,
      backend := overtakenBackend }

/-- A recovery whose listing is overtaken by an injection adopts nothing, as if it had listed
when it got the lock. -/
theorem interleaving_serial_of_overtaken :
    overtakenPool.turns = [(1, 7), (0, 7)] ∧ (0, .recovered (.ok 0)) ∈
      (Serial.run (server .vpp) (overtaken.map (·.work .vpp)) overtakenPool.sequence
        (.start 30000 0) overtakenBackend).values := by
  have hdone : ∀ t ∈ overtakenPool.tasks, t.isDone = true := by decide +kernel
  have hadopted : overtakenPool.tasks[0]? = some (.done (.recovered (.ok 0))) := rfl
  have hserial := interleaving_serial .vpp overtaken 30000 0 0 overtakenBackend _ hdone
  exact ⟨by decide +kernel, (hserial.2.1 0 (.recovered (.ok 0))).mp hadopted⟩

end RouteKeeper
