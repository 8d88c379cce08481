import RouteKeeper.Proofs.Recording
import RouteKeeper.Proofs.WellFormed

/-!
# What requests leave alone

A request writes and deletes routes of recorded subnets only, and what it writes for a new
subnet it records before it gives the lock back. So from its first moment to its last the
installed routes of all subnets that are unrecorded at its end stay what they were. These
are the ones that a recovery can still adopt.

## Implementation notes

Subnets are compared after the host bits are cleared, as recovery does it. A write or a
delete finds routes by their exact destination, so recorded subnets have to be canonical.
-/

namespace RouteKeeper

namespace DesiredTable

variable {t : DesiredTable}

/-- Whether a subnet is recorded. -/
def knows (t : DesiredTable) (subnet : Network) : Bool :=
  (t.get? subnet).isSome

theorem knows_record (i : Intent) (subnet : Network) :
    (t.record i).knows subnet = (i.subnet == subnet || t.knows subnet) := by
  rw [knows, get?_record]
  split <;> simp_all [knows]

@[simp] theorem knows_markWithdrawn (marked : Network) :
    (t.markWithdrawn marked).knows = t.knows := by
  funext subnet
  simp [knows]

/-- What a canonical table lists is canonical and recorded. -/
theorem Canonical.of_mem_toList {i : Intent} (h : t.Canonical) (hi : i ∈ t.toList) :
    i.Canonical ∧ t.knows i.subnet = true := by
  obtain ⟨j, hj, rfl⟩ := List.mem_map.mp hi
  refine ⟨Intent.of_canonical _ _, ?_⟩
  have hsubnet : (Intent.of j.subnet j.nextHop).subnet = j.subnet := h j hj
  rw [hsubnet, knows, get?, Option.isSome_map, List.find?_isSome]
  exact ⟨j, hj, by simp⟩

end DesiredTable

namespace Router

variable {known : Network → Bool}

/-- The intents that installed routes stand for, without those of certain subnets. -/
def intentsOutside (known : Network → Bool) (routes : List InstalledRoute) : List Intent :=
  (routes.filterMap intentOf?).filter (!known ·.subnet)

/-- Dropping routes to known subnets changes nothing outside. -/
theorem intentsOutside_filter {keep : InstalledRoute → Bool} {subnet : Network}
    (hsubnet : subnet.Canonical) (hknown : known subnet = true) (routes : List InstalledRoute)
    (hkeep : ∀ r ∈ routes, keep r = false → r.destination = some subnet) :
    intentsOutside known (routes.filter keep) = intentsOutside known routes := by
  induction routes with
  | nil => rfl
  | cons r rest ih =>
      have ih := ih fun r hr => hkeep r (List.mem_cons_of_mem _ hr)
      simp only [intentsOutside] at ih ⊢
      cases hr : keep r with
      | true => simp only [List.filter_cons, hr, if_true, List.filterMap_cons]; grind
      | false =>
          have hdestination := hkeep r List.mem_cons_self hr
          rw [List.filter_cons_of_neg (by simp [hr]), ih]
          cases hi : intentOf? r with
          | none => rw [List.filterMap_cons_none hi]
          | some i =>
              obtain ⟨n, hn, -, hi'⟩ := intentOf?_eq_some_iff.mp hi
              have hsame : i.subnet = subnet := by
                rw [hi', ← Option.some.inj (hdestination.symm.trans hn), hsubnet.truncate_eq]
              rw [List.filterMap_cons_some hi, List.filter_cons_of_neg (by simp [hsame, hknown])]

theorem intentsOutside_write (mode : Mode) {i : Intent} (hi : i.Canonical)
    (hknown : known i.subnet = true) (routes : List InstalledRoute) :
    intentsOutside known (Recording.write mode i routes) = intentsOutside known routes := by
  have hnew : intentsOutside known [Recording.routeOf i] = [] := by
    have hsubnet : i.subnet.truncate = i.subnet := hi
    simp [intentsOutside, intentOf?, Recording.routeOf, Intent.of, hsubnet, hknown]
  have happend (routes : List InstalledRoute) :
      intentsOutside known (routes ++ [Recording.routeOf i]) = intentsOutside known routes := by
    have hsplit : intentsOutside known (routes ++ [Recording.routeOf i]) =
        intentsOutside known routes ++ intentsOutside known [Recording.routeOf i] := by
      simp only [intentsOutside, List.filterMap_append, List.filter_append]
    rw [hsplit, hnew, List.append_nil]
  cases mode with
  | vpp => exact happend routes
  | kernel =>
      refine (happend _).trans (intentsOutside_filter hi hknown routes ?_)
      intro r _ hr
      simpa using hr

theorem intentsOutside_erase (mode : Mode) {i : Intent} (hi : i.Canonical)
    (hknown : known i.subnet = true) (routes : List InstalledRoute) :
    intentsOutside known (Recording.erase mode i routes) = intentsOutside known routes := by
  cases mode with
  | vpp =>
      refine intentsOutside_filter hi hknown routes ?_
      intro r _ hr
      simp only [Bool.or_eq_false_iff, bne_eq_false_iff_eq] at hr
      exact hr.1
  | kernel => rfl

/-- Lists that agree outside some subnets agree outside more of them. -/
theorem intentsOutside_mono {known' : Network → Bool}
    (hknown : ∀ n, known n = true → known' n = true) {routes routes' : List InstalledRoute}
    (h : intentsOutside known routes = intentsOutside known routes') :
    intentsOutside known' routes = intentsOutside known' routes' := by
  have hfilter (routes : List InstalledRoute) : intentsOutside known' routes =
      (intentsOutside known routes).filter (!known' ·.subnet) := by
    rw [intentsOutside, intentsOutside, List.filter_filter]
    congr 1
    funext i
    cases hi : known i.subnet <;> simp [hknown i.subnet, hi]
  rw [hfilter, hfilter, h]

private theorem adopt_filter_aux (t : DesiredTable) {keep : Intent → Bool} (intents : List Intent)
    (hkeep : ∀ i ∈ intents, keep i = false → t.knows i.subnet = true) :
    adopt t (intents.filter keep) = adopt t intents := by
  induction intents generalizing t with
  | nil => rfl
  | cons i rest ih =>
      have hrest : ∀ j ∈ rest, keep j = false → t.knows j.subnet = true :=
        fun j hj => hkeep j (List.mem_cons_of_mem _ hj)
      cases hi : t.get? i.subnet with
      | some old =>
          have hisSome : (t.get? i.subnet).isSome = true := by simp [hi]
          rw [adopt_cons_of_known t i rest hisSome, List.filter_cons]
          split
          · rw [adopt_cons_of_known t i _ hisSome, ih t hrest]
          · exact ih t hrest
      | none =>
          have hi' : keep i = true := by
            cases hkept : keep i with
            | true => rfl
            | false =>
                have hknown := hkeep i List.mem_cons_self hkept
                simp [DesiredTable.knows, hi] at hknown
          rw [List.filter_cons_of_pos hi', adopt_cons_of_unknown t i rest hi,
            adopt_cons_of_unknown t i _ hi, ih (t.record i) ?_]
          intro j hj hk
          rw [DesiredTable.knows_record, hrest j hj hk, Bool.or_true]

/-- Lists that agree outside the recorded subnets are adopted alike. -/
theorem adopt_congr {t : DesiredTable} {routes routes' : List InstalledRoute}
    (h : intentsOutside t.knows routes = intentsOutside t.knows routes') :
    adopt t (routes.filterMap intentOf?) = adopt t (routes'.filterMap intentOf?) := by
  have hfilter (routes : List InstalledRoute) :
      adopt t (intentsOutside t.knows routes) = adopt t (routes.filterMap intentOf?) :=
    adopt_filter_aux t _ fun i _ hi => by simpa using hi
  rw [← hfilter, ← hfilter, h]

end Router

namespace Recording

variable {mode : Mode} {known : Network → Bool} {s s' : Recording}

/-- Outside some subnets the routes are the same, and the same writes fail. -/
structure AgreesOutside (known : Network → Bool) (s s' : Recording) : Prop where
  intents : Router.intentsOutside known s'.installed = Router.intentsOutside known s.installed
  failing : s'.failing = s.failing

theorem AgreesOutside.refl : AgreesOutside known s s :=
  ⟨rfl, rfl⟩

/-- A write of a known subnet, or of one whose writes fail, is not seen outside. -/
theorem AgreesOutside.upsert {i : Intent} (h : AgreesOutside known s s') (hi : i.Canonical)
    (hknown : i.subnet ∉ s.failing → known i.subnet = true) :
    AgreesOutside known s (server mode (.upsert i) s').2 := by
  by_cases hfails : i.subnet ∈ s'.failing
  · rw [server_upsert_failing hfails]
    exact ⟨h.intents, h.failing⟩
  · rw [server_upsert hfails]
    have hknown := hknown (h.failing ▸ hfails)
    exact ⟨(Router.intentsOutside_write mode hi hknown _).trans h.intents, h.failing⟩

/-- Neither is a delete of a known subnet. -/
theorem AgreesOutside.delete {i : Intent} (h : AgreesOutside known s s') (hi : i.Canonical)
    (hknown : known i.subnet = true) :
    AgreesOutside known s (server mode (.delete i) s').2 :=
  ⟨(Router.intentsOutside_erase mode hi hknown _).trans h.intents, h.failing⟩

end Recording

namespace Router

open Recording

variable {mode : Mode} {known : Network → Bool} {now : Nat} {r : Router} {s s' : Recording}
  {intent : Intent}

/-- Repairs write desired routes only. -/
theorem repair_agrees {intents : List Intent}
    (hintents : ∀ i ∈ intents, i.Canonical ∧ known i.subnet = true)
    (installed : List InstalledRoute) (report : Report) (h : AgreesOutside known s s') :
    (Reconciliation.repair installed intents report).Ensures (server mode)
      (AgreesOutside known s) (fun _ _ => True) s' := by
  induction intents generalizing report s' with
  | nil => exact ⟨h, trivial⟩
  | cons i rest ih =>
      have ih (report : Report) {s' : Recording} (h : AgreesOutside known s s') :=
        ih (fun j hj => hintents j (List.mem_cons_of_mem _ hj)) report h
      simp only [Reconciliation.repair]
      split
      · exact ih _ h
      · obtain ⟨hi, hknown⟩ := hintents i List.mem_cons_self
        have hafter : AgreesOutside known s (server mode (.upsert i) s').2 :=
          h.upsert hi fun _ => hknown
        refine ⟨h, ?_⟩
        cases (server mode (.upsert i) s').1 with
        | ok _ => exact ih _ hafter
        | error _ => exact ih _ hafter

/-- So does a pass. -/
theorem pass_agrees {t : DesiredTable} (ht : t.Canonical)
    (hknown : ∀ n, t.knows n = true → known n = true) (h : AgreesOutside known s s') :
    (Reconciliation.pass mode t).Ensures (server mode) (AgreesOutside known s)
      (fun _ _ => True) s' := by
  have hlisted : AgreesOutside known s (s'.note .installed) := ⟨h.intents, h.failing⟩
  have hintents : ∀ i ∈ t.toList, i.Canonical ∧ known i.subnet = true := fun i hi =>
    ⟨(ht.of_mem_toList hi).1, hknown _ (ht.of_mem_toList hi).2⟩
  cases mode with
  | vpp => exact ⟨h, trivial⟩
  | kernel =>
      exact ⟨h, .bind ((repair_agrees hintents _ _ hlisted).mono fun _ _ h _ => ⟨h, trivial⟩)⟩

theorem reconcileIfDue_agrees (hr : r.desired.Canonical)
    (hknown : ∀ n, r.desired.knows n = true → known n = true) (h : AgreesOutside known s s') :
    (reconcileIfDue mode now r).Ensures (server mode) now (fun _ s' => AgreesOutside known s s')
      (fun r' state _ => (∃ clock, r' = { r with clock }) ∧ state = r') r s' := by
  unfold reconcileIfDue
  split
  · refine .bind (.ofProgram ((pass_agrees hr hknown h).mono ?_))
    exact fun _ _ h _ => ⟨h, h, ⟨_, rfl⟩, rfl⟩
  · exact ⟨h, ⟨r.clock, rfl⟩, rfl⟩

/-- Clearing the way deletes a recorded route or nothing. -/
theorem clearTheWay_agrees (hi : intent.Canonical) (hr : r.desired.Canonical)
    (hknown : ∀ n, r.desired.knows n = true → known n = true) (h : AgreesOutside known s s') :
    (clearTheWay mode intent r).Ensures (server mode) now (fun _ s' => AgreesOutside known s s')
      (fun result r' _ => result = .ok r' ∧ r'.desired.Canonical ∧
        r'.desired.knows = r.desired.knows) r s' := by
  unfold clearTheWay
  cases hget : r.desired.get? intent.subnet with
  | none => exact ⟨h, rfl, hr, rfl⟩
  | some old =>
      simp only
      split
      · exact ⟨h, rfl, hr, rfl⟩
      · have hsubnet : known (Intent.of intent.subnet old).subnet = true := by
          rw [Intent.of, hi.truncate_eq]
          exact hknown _ (by simp [DesiredTable.knows, hget])
        have hafter : AgreesOutside known s (server mode (.delete (.of intent.subnet old)) s').2 :=
          h.delete (Intent.of_canonical _ _) hsubnet
        exact ⟨h, hafter, hafter, rfl, hr.markWithdrawn _, DesiredTable.knows_markWithdrawn _⟩

/-- What is recorded after an injection: what was before, and its subnet if writes succeed. -/
private def knownAfter (intent : Intent) (r : Router) (s : Recording) (subnet : Network) : Bool :=
  r.desired.knows subnet || (intent.subnet == subnet && decide (intent.subnet ∉ s.failing))

theorem inject_agrees (hi : intent.Canonical) (hr : r.desired.Canonical) :
    (inject mode intent).Ensures (server mode) now
      (fun _ s' => AgreesOutside (knownAfter intent r s) s s')
      (fun _ r' _ => r'.desired.Canonical ∧ r'.desired.knows = knownAfter intent r s) r s := by
  have hknown : ∀ n, r.desired.knows n = true → knownAfter intent r s n = true := by
    intro n hn
    simp [knownAfter, hn]
  rw [inject_eq]
  refine ⟨.refl, .bind ((reconcileIfDue_agrees hr hknown .refl).at_end.mono (fun _ _ h => h) ?_)⟩
  rintro _ _ s₁ ⟨-, h₁, ⟨clock, rfl⟩, rfl⟩
  split
  · rename_i hcurrent
    have hget := ((DesiredTable.liveHop?_eq_some_iff _ _).mp
      ((DesiredTable.isCurrent_iff _ _).mp hcurrent)).1
    refine ⟨h₁, hr, ?_⟩
    funext n
    by_cases hn : intent.subnet = n
    · subst hn
      simp [knownAfter, DesiredTable.knows, hget]
    · simp [knownAfter, hn]
  · refine .bind ((clearTheWay_agrees (r := { r with clock }) hi hr hknown h₁).at_end.mono
      (fun _ _ h => h) ?_)
    rintro _ r₂ s₂ ⟨-, h₂, rfl, hr₂, hknows⟩
    unfold writeAndRecord
    have hafter : AgreesOutside (knownAfter intent r s) s (server mode (.upsert intent) s₂).2 :=
      h₂.upsert hi (by simp +contextual [knownAfter])
    refine ⟨h₂, ?_⟩
    by_cases hfails : intent.subnet ∈ s₂.failing
    · rw [server_upsert_failing hfails] at hafter ⊢
      refine ⟨hafter, hr₂, hknows.trans ?_⟩
      funext n
      simp [knownAfter, h₂.failing ▸ hfails]
    · rw [server_upsert hfails] at hafter ⊢
      refine ⟨hafter, hafter, hr₂.record hi, ?_⟩
      funext n
      rw [DesiredTable.knows_record, hknows]
      simp [knownAfter, h₂.failing ▸ hfails, Bool.or_comm]

/-- Recovery writes nothing, and what it adopts is canonical. -/
theorem recover_agrees (hr : r.desired.Canonical) :
    let known := (adopt r.desired (s.installed.filterMap intentOf?)).2.knows
    (∀ n, r.desired.knows n = true → known n = true) ∧
      recover.Ensures (server mode) now (fun _ s' => AgreesOutside known s s')
        (fun _ r' _ => r'.desired.Canonical ∧ r'.desired.knows = known) r s := by
  intro known
  have hintents : ∀ i ∈ s.installed.filterMap intentOf?, i.Canonical := by
    intro i hi
    obtain ⟨route, -, hroute⟩ := List.mem_filterMap.mp hi
    obtain ⟨n, -, -, hn⟩ := intentOf?_eq_some_iff.mp hroute
    rw [Intent.Canonical, hn]
    exact n.truncate_canonical
  have hnoted : AgreesOutside known s (s.note .installed) := ⟨rfl, rfl⟩
  constructor
  · intro n hn
    obtain ⟨nextHop, hnext⟩ := Option.isSome_iff_exists.mp hn
    simp only [known, DesiredTable.knows, get?_adopt, hnext, Option.some_or, Option.isSome_some]
  · exact ⟨.refl, hnoted, hnoted, hnoted, hr.adopt hintents, rfl⟩

end Router

open Recording in
/-- From its first moment to its last a request changes nothing outside the subnets that are
recorded in the end. -/
theorem Request.work_agrees (mode : Mode) (q : Request) (now : Nat) {r : Router} (s : Recording)
    (hr : r.desired.Canonical) :
    let r' := ((q.work mode).run (server mode) now r s).2.1
    r'.desired.Canonical ∧ (∀ n, r.desired.knows n = true → r'.desired.knows n = true) ∧
      (q.work mode).Ensures (server mode) now
        (fun _ s' => AgreesOutside r'.desired.knows s s') (fun _ _ _ => True) r s := by
  intro r'
  obtain ⟨known, hknown, h⟩ : ∃ known, (∀ n, r.desired.knows n = true → known n = true) ∧
      (q.work mode).Ensures (server mode) now (fun _ s' => AgreesOutside known s s')
        (fun _ r' _ => r'.desired.Canonical ∧ r'.desired.knows = known) r s := by
    cases q with
    | inject subnetText nextHopText =>
        cases hparse : Intent.parse subnetText nextHopText with
        | error failure =>
            refine ⟨r.desired.knows, fun _ h => h, ?_⟩
            simp only [work, Router.injectRoute, hparse]
            exact ⟨.refl, hr, rfl⟩
        | ok intent =>
            refine ⟨Router.knownAfter intent r s, ?_, ?_⟩
            · intro n hn
              simp [Router.knownAfter, hn]
            · simp only [work, Router.injectRoute, hparse]
              exact .bind ((Router.inject_agrees (Intent.parse_canonical hparse) hr).at_end.mono
                (fun _ _ h => h) fun _ _ _ h => h.2)
    | reconcile =>
        refine ⟨r.desired.knows, fun _ h => h, .refl,
          .bind (.bind ⟨.refl, .bind (.ofProgram ?_)⟩)⟩
        exact (Router.pass_agrees hr (fun _ h => h) .refl).mono fun _ _ h _ => ⟨h, h, h, hr, rfl⟩
    | recover =>
        obtain ⟨hknown, h⟩ := Router.recover_agrees hr
        exact ⟨_, hknown, .bind (h.at_end.mono (fun _ _ h => h) fun _ _ _ h => h.2)⟩
  obtain ⟨hr', hknows⟩ := h.run
  subst hknows
  exact ⟨hr', hknown, h.mono (fun _ _ h => h) fun _ _ _ _ => trivial⟩

end RouteKeeper
