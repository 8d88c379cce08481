import RouteKeeper.DesiredTable

/-!
# Looking things up in the table of desired routes

What each operation of the table does to the two look-ups, the next hop of a subnet and
its withdrawn mark. Later proofs read the table through these equations only.
-/

namespace RouteKeeper

namespace Network

/-- A network whose host bits were cleared has none. -/
@[simp] theorem truncate_canonical (n : Network) : n.truncate.Canonical := by
  have hspan : 0 < n.span := by
    rw [span, Nat.one_shiftLeft]
    exact Nat.two_pow_pos _
  show n.truncate.truncate = n.truncate
  simp only [truncate, Network.mk.injEq, Address.mk.injEq, and_true]
  show n.address.value / n.span * n.span / n.span * n.span = n.address.value / n.span * n.span
  rw [Nat.mul_div_cancel _ hspan]

theorem Canonical.truncate_eq {n : Network} (h : n.Canonical) : n.truncate = n := h

end Network

namespace Intent

theorem eq_iff {i j : Intent} : i = j ↔ i.subnet = j.subnet ∧ i.nextHop = j.nextHop := by
  cases i
  cases j
  simp

@[simp] theorem of_canonical (subnet : Network) (nextHop : Address) :
    (Intent.of subnet nextHop).Canonical :=
  subnet.truncate_canonical

/-- Only canonical intents are read. -/
theorem parse_canonical {subnetText nextHopText : String} {i : Intent}
    (h : parse subnetText nextHopText = .ok i) : i.Canonical := by
  simp only [parse] at h
  split at h
  · cases h
  · split at h
    · cases h
    · cases h
      exact of_canonical _ _

end Intent

namespace DesiredTable

variable (t : DesiredTable) (i : Intent) (subnet : Network)

@[simp] theorem get?_empty : empty.get? subnet = none := rfl

@[simp] theorem isWithdrawn_empty : empty.isWithdrawn subnet = false := rfl

private theorem find?_place (routes : List Intent) :
    (place i routes).find? (·.subnet == subnet) =
      if i.subnet = subnet then some i else routes.find? (·.subnet == subnet) := by
  induction routes with
  | nil =>
      by_cases h : i.subnet = subnet
      · simp [place, h]
      · simp [place, h]
  | cons j rest ih =>
      simp only [place]
      by_cases h : i.subnet = subnet
      · split
        · simp [h]
        · split
          · simp [h]
          · have hj : j.subnet ≠ subnet := by rintro rfl; contradiction
            simp [hj, ih, h]
      · split
        · have hj : j.subnet ≠ subnet := by rintro rfl; contradiction
          simp [h, hj]
        · split
          · simp [h]
          · simp only [List.find?_cons, ih, if_neg h]

/-- A recorded intent is found; other subnets keep their next hop. -/
theorem get?_record : (t.record i).get? subnet =
    if i.subnet = subnet then some i.nextHop else t.get? subnet := by
  simp only [get?, record, find?_place]
  split <;> simp

@[simp] theorem get?_record_self : (t.record i).get? i.subnet = some i.nextHop := by
  simp [get?_record]

theorem get?_record_of_ne (h : i.subnet ≠ subnet) :
    (t.record i).get? subnet = t.get? subnet := by
  simp [get?_record, h]

/-- Recording clears the mark of its own subnet and no other. -/
theorem isWithdrawn_record : (t.record i).isWithdrawn subnet =
    (i.subnet != subnet && t.isWithdrawn subnet) := by
  by_cases h : i.subnet = subnet
  · simp [isWithdrawn, record, h]
  · have h' : subnet ≠ i.subnet := fun e => h e.symm
    simp [isWithdrawn, record, h, h']

@[simp] theorem isWithdrawn_record_self : (t.record i).isWithdrawn i.subnet = false := by
  simp [isWithdrawn_record]

theorem isWithdrawn_record_of_ne (h : i.subnet ≠ subnet) :
    (t.record i).isWithdrawn subnet = t.isWithdrawn subnet := by
  simp [isWithdrawn_record, h]

/-- Marks leave the next hops alone. -/
@[simp] theorem get?_markWithdrawn (marked : Network) :
    (t.markWithdrawn marked).get? subnet = t.get? subnet := by
  simp only [markWithdrawn]
  split <;> rfl

/-- A mark is set on a recorded subnet and on no other. -/
theorem isWithdrawn_markWithdrawn (marked : Network) :
    (t.markWithdrawn marked).isWithdrawn subnet =
      (t.isWithdrawn subnet || (subnet == marked && (t.get? marked).isSome)) := by
  cases hw : t.isWithdrawn marked <;> cases hg : (t.get? marked).isSome
  · simp [markWithdrawn, hw, hg]
  · have hmarked : (t.markWithdrawn marked).withdrawn = marked :: t.withdrawn := by
      simp [markWithdrawn, hw, hg]
    by_cases h : subnet = marked
    · simp [isWithdrawn, hmarked, h]
    · simp [isWithdrawn, hmarked, h]
  · simp [markWithdrawn, hw, hg]
  · by_cases h : subnet = marked
    · subst h; simp [markWithdrawn, hw]
    · simp [markWithdrawn, hw, h]

theorem isWithdrawn_markWithdrawn_of_ne {marked : Network} (h : subnet ≠ marked) :
    (t.markWithdrawn marked).isWithdrawn subnet = t.isWithdrawn subnet := by
  simp [isWithdrawn_markWithdrawn, h]

/-- The next hop that the table takes to be live: the recorded one, unless it is withdrawn. -/
def liveHop? : Option Address :=
  if t.isWithdrawn subnet then none else t.get? subnet

theorem liveHop?_eq_some_iff {nextHop : Address} :
    t.liveHop? subnet = some nextHop ↔
      t.get? subnet = some nextHop ∧ t.isWithdrawn subnet = false := by
  cases h : t.isWithdrawn subnet <;> simp [liveHop?, h]

theorem liveHop?_congr {t t' : DesiredTable} {subnet : Network}
    (hget : t'.get? subnet = t.get? subnet)
    (hmark : t'.isWithdrawn subnet = t.isWithdrawn subnet) :
    t'.liveHop? subnet = t.liveHop? subnet := by
  simp [liveHop?, hget, hmark]

@[simp] theorem liveHop?_record_self : (t.record i).liveHop? i.subnet = some i.nextHop := by
  simp [liveHop?_eq_some_iff]

theorem liveHop?_record_of_ne (h : i.subnet ≠ subnet) :
    (t.record i).liveHop? subnet = t.liveHop? subnet :=
  liveHop?_congr (t.get?_record_of_ne i subnet h) (t.isWithdrawn_record_of_ne i subnet h)

theorem liveHop?_markWithdrawn_of_ne {marked : Network} (h : marked ≠ subnet) :
    (t.markWithdrawn marked).liveHop? subnet = t.liveHop? subnet :=
  liveHop?_congr (t.get?_markWithdrawn subnet marked)
    (t.isWithdrawn_markWithdrawn_of_ne subnet h.symm)

/-- An intent is current exactly when its next hop is taken to be live. -/
theorem isCurrent_iff : t.isCurrent i = true ↔ t.liveHop? i.subnet = some i.nextHop := by
  simp [liveHop?_eq_some_iff, isCurrent]

end DesiredTable

end RouteKeeper
