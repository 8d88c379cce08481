import RouteKeeper.Proofs.Adoption
import RouteKeeper.Proofs.Session
import RouteKeeper.Proofs.Task.Assertion

/-!
# Invariants of the desired routes

The router changes its desired routes in three ways: it marks the subnet of an intent as withdrawn,
it records an intent that the backend accepted, and it adopts what is installed. A property of
tables that these three keep is kept by all work of the router, whatever the backend answers.
-/

namespace RouteKeeper

/-- A property of tables that the marking and the recording of an intent keep. -/
structure Intent.Keeps (i : Intent) (P : DesiredTable → Prop) : Prop where
  markWithdrawn {t : DesiredTable} (h : P t) : P (t.markWithdrawn i.subnet)
  record {t : DesiredTable} (h : P t) : P (t.record i)

/-- A property of tables that the adoption of canonical intents keeps. -/
def Router.AdoptionKeeps (P : DesiredTable → Prop) : Prop :=
  ∀ t intents, (∀ i ∈ intents, i.Canonical) → P t → P (adopt t intents).2

namespace Router

variable {P : DesiredTable → Prop} {mode : Mode} {intent : Intent} {r : Router}

theorem reconcileIfDue_saves (now : Nat) (hr : P r.desired) :
    (reconcileIfDue mode now r).Saves (fun r => P r.desired) fun r => P r.desired := by
  unfold reconcileIfDue
  split
  · exact (Task.Saves.ofProgram _).bind fun _ _ => ⟨hr, hr⟩
  · exact hr

theorem clearTheWay_saves (hintent : intent.Keeps P) (hr : P r.desired) :
    (clearTheWay mode intent r).Saves (fun r => P r.desired)
      fun result => ∀ r', result = .ok r' → P r'.desired := by
  have hsame : ∀ r', (.ok r : Except Failure Router) = .ok r' → P r'.desired := by
    rintro _ ⟨⟩
    exact hr
  unfold clearTheWay
  split
  · exact hsame
  · split
    · exact hsame
    · rintro (failure | _)
      · rintro _ ⟨⟩
      · refine ⟨hintent.markWithdrawn hr, ?_⟩
        rintro _ ⟨⟩
        exact hintent.markWithdrawn hr

theorem inject_saves (hintent : intent.Keeps P) :
    (inject mode intent).Saves (fun r => P r.desired) fun _ => True := by
  rw [inject_eq]
  refine fun now r hr => (reconcileIfDue_saves (P := P) now hr).bind fun r hr => ?_
  split
  · trivial
  · refine (clearTheWay_saves hintent hr).bind ?_
    rintro (failure | r') hcleared
    · trivial
    · rintro (failure | _)
      · trivial
      · exact ⟨hintent.record (hcleared r' rfl), trivial⟩

theorem reconcileNow_saves :
    (reconcileNow mode).Saves (fun r => P r.desired) fun _ => True :=
  fun _ _ hr => (Task.Saves.ofProgram _).bind fun _ _ => ⟨hr, trivial⟩

theorem recover_saves (hadopt : AdoptionKeeps P) :
    recover.Saves (fun r => P r.desired) fun _ => True := by
  rintro (failure | installed)
  · trivial
  · refine fun now r hr => ⟨hadopt _ _ (fun i hi => ?_) hr, trivial⟩
    obtain ⟨route, -, hroute⟩ := List.mem_filterMap.mp hi
    obtain ⟨n, -, -, hsubnet⟩ := intentOf?_eq_some_iff.mp hroute
    rw [Intent.Canonical, hsubnet]
    exact n.truncate_canonical

end Router

namespace Request

/-- The intent that an injection is for. Texts that are not read and other requests are for none. -/
def intent? : Request → Option Intent
  | inject subnetText nextHopText => (Intent.parse subnetText nextHopText).toOption
  | reconcile | recover => none

variable {P : DesiredTable → Prop} {q : Request}

/-- A request keeps what its intent keeps, if it has one, and what adoption keeps. -/
theorem work_saves (mode : Mode) (hintent : ∀ i, q.intent? = some i → i.Canonical → i.Keeps P)
    (hadopt : Router.AdoptionKeeps P) :
    (q.work mode).Saves (fun r => P r.desired) fun _ => True := by
  cases q with
  | inject subnetText nextHopText =>
      simp only [work, Router.injectRoute]
      cases hparse : Intent.parse subnetText nextHopText with
      | error failure => trivial
      | ok i =>
          have hkeeps : i.Keeps P :=
            hintent i (by rw [intent?, hparse]; rfl) (Intent.parse_canonical hparse)
          exact (Router.inject_saves hkeeps).bind fun _ _ => trivial
  | reconcile => exact Router.reconcileNow_saves.bind fun _ _ => trivial
  | recover => exact (Router.recover_saves hadopt).bind fun _ _ => trivial

end Request

/-- A router that starts without desired routes has a table with any property ever after that the
empty table has and that marking, recording and adopting keep, over any backend and whatever
happens to it. -/
theorem Site.run_desired {P : DesiredTable → Prop} (hempty : P DesiredTable.empty)
    (hintent : ∀ i : Intent, i.Canonical → i.Keeps P) (hadopt : Router.AdoptionKeeps P)
    {σ ε : Type} (x : Site σ ε) (interval started : Nat) (backend : σ) (events : List (Event ε)) :
    P (x.run events (.start interval started backend)).router.desired := by
  have hstart : P (Session.start interval started backend).router.desired := hempty
  refine run_induction (x := x) (P := fun s => P s.router.desired) hstart ?_ events
  intro s e hs
  cases e with
  | request q => exact (q.work_saves x.mode (fun i _ hi => hintent i hi) hadopt).run hs
  | advance duration => exact hs
  | outside e => exact hs

end RouteKeeper
