import RouteKeeper.Proofs.Residue
import RouteKeeper.Proofs.Spelling
import RouteKeeper.Proofs.TableInvariant

/-!
# Injecting again

An injection that succeeds leaves its intent current, and current it stays until something else is
injected for its subnet: no injection for another subnet, no pass, no recovery and nothing that
happens to the backend changes that. So the next injection of the intent, however it is spelled, is
its due pass and nothing else.
-/

namespace RouteKeeper

namespace Router

variable {σ : Type} {server : Server dataplane σ} {mode : Mode} {i : Intent} {now : Nat}
  {r state : Router} {s : σ}

/-- A write that succeeds is recorded. -/
theorem writeAndRecord_ok (h : ((writeAndRecord i r).run server now state s).1 = .ok ()) :
    ((writeAndRecord i r).run server now state s).2.1 =
      { r with desired := r.desired.record i } := by
  simp only [writeAndRecord, Task.run] at h ⊢
  cases hanswer : (server (.upsert i) s).1 with
  | error failure =>
      rw [hanswer] at h
      cases h
  | ok _ => rfl

/-- A fulfilment that succeeds leaves its intent current. -/
theorem fulfil_ok (h : ((fulfil mode i r).run server now r s).1 = .ok ()) :
    ((fulfil mode i r).run server now r s).2.1.desired.isCurrent i = true := by
  have hrecorded (t : DesiredTable) : (t.record i).isCurrent i = true :=
    (DesiredTable.isCurrent_iff _ i).mpr (t.liveHop?_record_self i)
  unfold fulfil at h ⊢
  split at h
  case isTrue hcurrent =>
    rw [if_pos hcurrent]
    exact hcurrent
  case isFalse hcurrent =>
    rw [if_neg hcurrent]
    cases hstale : stale? mode i r with
    | none =>
        simp only [hstale] at h ⊢
        rw [writeAndRecord_ok h]
        exact hrecorded _
    | some stale =>
        simp only [hstale, Task.run] at h ⊢
        cases hanswer : (server (.delete stale) s).1 with
        | error failure =>
            rw [hanswer] at h
            cases h
        | ok _ =>
            simp only [hanswer, Task.run] at h ⊢
            rw [writeAndRecord_ok h]
            exact hrecorded _

/-- What is current stays current, whatever is adopted. -/
theorem adoptionKeeps_isCurrent : AdoptionKeeps fun t => t.isCurrent i = true := by
  intro t intents _ h
  rw [DesiredTable.isCurrent_iff] at h ⊢
  exact liveHop?_adopt t h intents

end Router

/-- What is current stays current when an intent for another subnet is injected. -/
theorem Intent.keeps_isCurrent {i j : Intent} (hne : j.subnet ≠ i.subnet) :
    j.Keeps fun t => t.isCurrent i = true where
  markWithdrawn {t} h := by
    rw [DesiredTable.isCurrent_iff] at h ⊢
    exact (t.liveHop?_markWithdrawn_of_ne i.subnet hne).trans h
  record {t} h := by
    rw [DesiredTable.isCurrent_iff] at h ⊢
    exact (t.liveHop?_record_of_ne j i.subnet hne).trans h

/-- What can happen around a router: an event of its session, or the injection of an intent that is
not read from texts and may have host bits. -/
inductive Activity (ε : Type) where
  | event (e : Event ε)
  | injection (i : Intent)

/-- The intent that an activity injects. -/
def Activity.intent? {ε : Type} : Activity ε → Option Intent
  | event (.request q) => q.intent?
  | event (.advance _) | event (.outside _) => none
  | injection i => some i

namespace Site

variable {σ ε : Type} {x : Site σ ε} {s : Session σ} {i : Intent}

/-- The session after one activity. -/
def act (x : Site σ ε) (s : Session σ) : Activity ε → Session σ
  | .event e => x.step s e
  | .injection i => (x.inject i s).2

/-- An injection that succeeds leaves its intent current. -/
theorem isCurrent_of_inject_ok (h : (x.inject i s).1 = .ok ()) :
    (x.inject i s).2.router.desired.isCurrent i = true := by
  simp only [inject, x.run_inject] at h ⊢
  exact Router.fulfil_ok h

/-- What is current stays current in every activity but an injection for its subnet. -/
theorem act_keeps_isCurrent {a : Activity ε} (h : s.router.desired.isCurrent i = true)
    (ha : ∀ j, a.intent? = some j → j.subnet ≠ i.subnet) :
    (x.act s a).router.desired.isCurrent i = true := by
  cases a with
  | event e =>
      cases e with
      | request q =>
          have hq : ∀ j, q.intent? = some j → j.Canonical →
              j.Keeps fun t => t.isCurrent i = true := by
            intro j hj _
            exact Intent.keeps_isCurrent (ha j hj)
          exact (Request.work_saves x.mode hq Router.adoptionKeeps_isCurrent).run h
      | advance duration => exact h
      | outside e => exact h
  | injection j => exact (Router.inject_saves (Intent.keeps_isCurrent (ha j rfl))).run h

/-- And so it does in any such activities one after another. -/
theorem foldl_act_keeps_isCurrent (activities : List (Activity ε))
    (hactivities : ∀ a ∈ activities, ∀ j, a.intent? = some j → j.subnet ≠ i.subnet)
    (h : s.router.desired.isCurrent i = true) :
    (activities.foldl x.act s).router.desired.isCurrent i = true := by
  induction activities generalizing s with
  | nil => exact h
  | cons a rest ih =>
      obtain ⟨ha, hrest⟩ := List.forall_mem_cons.mp hactivities
      exact ih hrest (act_keeps_isCurrent h ha)

/-- An injection of what is current is its pass. -/
theorem inject_of_isCurrent (h : s.router.desired.isCurrent i = true) :
    x.inject i s = (.ok (), x.afterPass s) ∧
      (Router.inject x.mode i).trace x.server s.now s.router s.backend = x.dueCalls s := by
  have hfulfil : Router.fulfil x.mode i (x.afterPass s).router = .done (.ok ()) := by
    rw [Router.fulfil, x.afterPass_desired, if_pos h]
  constructor
  · simp only [inject, x.run_inject, hfulfil, Task.run]
    rw [← x.afterPass_now s]
  · rw [x.trace_inject, hfulfil, Task.trace, List.append_nil]

end Site

/-- **Injecting again writes nothing.** Over any backend of either mode, whatever it answers: once
an injection has succeeded, the same intent can be injected again after any activities that inject
nothing for its subnet. The texts may be others, if they spell the same intent. The injection
succeeds, its calls are those of its due pass, none of them is a delete, and it leaves the session
as the pass does, the desired routes untouched. -/
theorem reinjection_writes_nothing {σ ε : Type} (x : Site σ ε) (s : Session σ) {i : Intent}
    {subnetText nextHopText subnetText' nextHopText' : String}
    (hspelled : i.SpelledBy subnetText nextHopText)
    (hspelled' : i.SpelledBy subnetText' nextHopText')
    (hok : (x.serve (.inject subnetText nextHopText) s).1 = .injected (.ok ()))
    (between : List (Activity ε))
    (hbetween : ∀ a ∈ between, ∀ j, a.intent? = some j → j.subnet ≠ i.subnet) :
    let s' := between.foldl x.act (x.serve (.inject subnetText nextHopText) s).2
    let q := Request.inject subnetText' nextHopText'
    (x.serve q s').1 = .injected (.ok ()) ∧
      x.callsOf s' (.request q) = x.dueCalls s' ∧
      (∀ m ∈ x.callsOf s' (.request q), ∀ j, m.call ≠ .delete j) ∧
      (x.serve q s').2 = x.afterPass s' ∧
      (x.serve q s').2.router.desired = s'.router.desired := by
  intro s' q
  rw [Site.serve_inject (Intent.parse_eq_ok_iff.mpr hspelled)] at hok
  have hcurrent : s'.router.desired.isCurrent i = true := by
    refine Site.foldl_act_keeps_isCurrent between hbetween ?_
    rw [Site.serve_inject (Intent.parse_eq_ok_iff.mpr hspelled)]
    exact Site.isCurrent_of_inject_ok (Outcome.injected.inj hok)
  have hparse : Intent.parse subnetText' nextHopText' = .ok i :=
    Intent.parse_eq_ok_iff.mpr hspelled'
  obtain ⟨hinject, htrace⟩ := Site.inject_of_isCurrent (x := x) hcurrent
  have hcalls : x.callsOf s' (.request q) = x.dueCalls s' :=
    (Site.callsOf_inject hparse s').trans htrace
  rw [hcalls, Site.serve_inject hparse, hinject]
  exact ⟨rfl, rfl, x.dueCalls_delete_nothing s', rfl, x.afterPass_desired s'⟩

/-- A recording dataplane to which anything may happen. -/
private def exposed (mode : Mode) : Site Recording (Recording → Recording) :=
  ⟨mode, Recording.server mode, fun f => f⟩

/-- The route of an intent is exchanged for one through another host, and the writes of a second
subnet begin to fail. The other route is listed by a recovery, an injection for the second subnet
fails, an intent for a third subnet is injected, and a pass becomes due. -/
private def meanwhile (i other : Intent) : List (Activity (Recording → Recording)) :=
  [.event (.outside fun r => { r with
      installed := [⟨some i.subnet, some (.ofOctets 192 168 3 9), none⟩]
      failing := [.host (.ofOctets 10 2 0 7)] }),
    .event (.request .recover),
    .event (.request (.inject "10.2.0.7/32" "192.168.3.1")),
    .injection other,
    .event (.advance 60000)]

/-- The second injection makes the calls of its pass, which writes both drifted routes in kernel
mode and does nothing in VPP mode. The intent for the third subnet has host bits. -/
theorem reinjection_writes_nothing_of_conflict :
    let i : Intent := ⟨⟨.ofOctets 10 1 0 0, 16, by decide⟩, .ofOctets 192 168 3 1⟩
    let other : Intent := ⟨⟨.ofOctets 10 3 1 1, 16, by decide⟩, .ofOctets 192 168 3 9⟩
    let s (mode : Mode) := (meanwhile i other).foldl (exposed mode).act
      ((exposed mode).serve (.inject " 10.1.2.3/16" "192.168.3.1") (.start 60000 0 {})).2
    let q := Request.inject "\t010.001.200.7/16 " "192.168.3.1\n"
    ((exposed .kernel).serve q (s .kernel)).1 = .injected (.ok ()) ∧
      ((exposed .kernel).callsOf (s .kernel) (.request q)).map (·.call) =
        [.installed, .upsert i, .upsert (.of other.subnet other.nextHop)] ∧
      ((exposed .vpp).serve q (s .vpp)).1 = .injected (.ok ()) ∧
      (exposed .vpp).callsOf (s .vpp) (.request q) = [] := by
  intro i other s q
  have hspelled : i.SpelledBy " 10.1.2.3/16" "192.168.3.1" := Intent.parse_eq_ok_iff.mp rfl
  have hspelled' : i.SpelledBy "\t010.001.200.7/16 " "192.168.3.1\n" :=
    Intent.parse_eq_ok_iff.mp rfl
  have hmeanwhile : ∀ a ∈ meanwhile i other, ∀ j, a.intent? = some j → j.subnet ≠ i.subnet := by
    have hall : ∀ j ∈ (meanwhile i other).filterMap (·.intent?), j.subnet ≠ i.subnet := by
      decide +kernel
    intro a ha j hj
    exact hall j (List.mem_filterMap.mpr ⟨a, ha, hj⟩)
  obtain ⟨hkernel, hkernelCalls, -⟩ := reinjection_writes_nothing (exposed .kernel)
    (.start 60000 0 {}) hspelled hspelled' rfl (meanwhile i other) hmeanwhile
  obtain ⟨hvpp, hvppCalls, -⟩ := reinjection_writes_nothing (exposed .vpp)
    (.start 60000 0 {}) hspelled hspelled' rfl (meanwhile i other) hmeanwhile
  refine ⟨hkernel, ?_, hvpp, hvppCalls.trans (Site.dueCalls_vpp rfl _)⟩
  rw [hkernelCalls]
  decide +kernel

end RouteKeeper
