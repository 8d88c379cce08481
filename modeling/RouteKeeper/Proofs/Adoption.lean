import RouteKeeper.Proofs.DesiredTable
import RouteKeeper.Router

/-!
# What recovery adopts

Recovery goes through a list of intents and records each whose subnet is not recorded
yet. So a subnet that is recorded before keeps everything, any other gets the next hop
of the first intent that names it, and only the intents of unrecorded subnets matter.
-/

namespace RouteKeeper.Router

variable (t : DesiredTable) (i : Intent) (rest : List Intent)

theorem adopt_cons_of_known (h : (t.get? i.subnet).isSome) :
    adopt t (i :: rest) = adopt t rest := by
  have hne : t.get? i.subnet ≠ none := Option.isSome_iff_ne_none.mp h
  simp [adopt, DesiredTable.compareAndSet, hne]

theorem adopt_cons_of_unknown (h : t.get? i.subnet = none) :
    adopt t (i :: rest) = ((adopt (t.record i) rest).1 + 1, (adopt (t.record i) rest).2) := by
  simp [adopt, DesiredTable.compareAndSet, h]

/-- What the record of each intent keeps, adoption keeps. -/
theorem adopt_induction {P : DesiredTable → Prop} {t : DesiredTable} {intents : List Intent}
    (ht : P t) (hrecord : ∀ t, ∀ i ∈ intents, P t → P (t.record i)) : P (adopt t intents).2 := by
  induction intents generalizing t with
  | nil => exact ht
  | cons i rest ih =>
      have ih {t : DesiredTable} (ht : P t) := ih ht fun t j hj =>
        hrecord t j (List.mem_cons_of_mem _ hj)
      cases hi : t.get? i.subnet with
      | some old =>
          rw [adopt_cons_of_known t i rest (by simp [hi])]
          exact ih ht
      | none =>
          rw [adopt_cons_of_unknown t i rest hi]
          exact ih (hrecord t i List.mem_cons_self ht)

/-- A subnet keeps its next hop or gets that of the first intent for it. -/
theorem get?_adopt (intents : List Intent) (subnet : Network) :
    (adopt t intents).2.get? subnet =
      (t.get? subnet).or ((intents.find? (·.subnet == subnet)).map (·.nextHop)) := by
  induction intents generalizing t with
  | nil => simp [adopt]
  | cons i rest ih =>
      cases hi : t.get? i.subnet with
      | some old =>
          rw [adopt_cons_of_known t i rest (by simp [hi]), ih]
          by_cases h : i.subnet = subnet
          · subst h; simp [hi]
          · simp [h]
      | none =>
          rw [adopt_cons_of_unknown t i rest hi, ih]
          by_cases h : i.subnet = subnet
          · subst h; simp [hi]
          · simp [DesiredTable.get?_record_of_ne t i subnet h, h]

/-- Adopted subnets are not withdrawn, and all others keep their marks. -/
theorem isWithdrawn_adopt (intents : List Intent) (subnet : Network) :
    (adopt t intents).2.isWithdrawn subnet =
      (t.isWithdrawn subnet &&
        ((t.get? subnet).isSome || (intents.find? (·.subnet == subnet)).isNone)) := by
  induction intents generalizing t with
  | nil => simp [adopt]
  | cons i rest ih =>
      cases hi : t.get? i.subnet with
      | some old =>
          rw [adopt_cons_of_known t i rest (by simp [hi]), ih]
          by_cases h : i.subnet = subnet
          · subst h; simp [hi]
          · simp [h]
      | none =>
          rw [adopt_cons_of_unknown t i rest hi, ih]
          by_cases h : i.subnet = subnet
          · subst h; simp [hi]
          · simp [DesiredTable.get?_record_of_ne t i subnet h,
              DesiredTable.isWithdrawn_record_of_ne t i subnet h, h]

/-- A next hop that is taken to be live is kept, whatever is adopted. -/
theorem liveHop?_adopt {subnet : Network} {nextHop : Address}
    (h : t.liveHop? subnet = some nextHop) (intents : List Intent) :
    (adopt t intents).2.liveHop? subnet = some nextHop := by
  rw [DesiredTable.liveHop?_eq_some_iff] at h ⊢
  obtain ⟨hget, hmark⟩ := h
  rw [get?_adopt, isWithdrawn_adopt, hget, hmark]
  exact ⟨Option.some_or, Bool.false_and _⟩

/-- The intent of an installed route has the route's destination, without host bits, as subnet. -/
theorem intentOf?_eq_some_iff {r : InstalledRoute} {i : Intent} :
    intentOf? r = some i ↔
      ∃ n, r.destination = some n ∧ r.gateway = some i.nextHop ∧ i.subnet = n.truncate := by
  obtain ⟨destination, gateway, link⟩ := r
  obtain ⟨subnet, nextHop⟩ := i
  cases destination <;> cases gateway <;> simp [intentOf?, Intent.of, and_comm, eq_comm]

end RouteKeeper.Router
