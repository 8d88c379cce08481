import RouteKeeper.Proofs.Injection

/-!
# Intents with host bits

An intent need not come from a text, and then its subnet may have host bits. The table and
the write take such a subnet as it is, while the delete of the route that is replaced clears
its host bits. So the delete names the last write of the subnet exactly when the subnet is
canonical, and the writes of any other subnet pile up, one path each.

## Implementation notes

What was written is read off the calls that the dataplane notes. Every call succeeds here, so
each noted write is also recorded.
-/

namespace RouteKeeper

open Recording Dataplane

/-- The next hops written for a subnet, oldest first. -/
def Recording.writtenHops (s : Recording) (subnet : Network) : List Address :=
  s.calls.filterMap fun
    | .upsert i => if i.subnet = subnet then some i.nextHop else none
    | .delete _ | .installed | .connections => none

/-- The calls of an injection after the last write of its subnet, if there was one. -/
def injectionCalls (last : Option Address) (i : Intent) : List Call :=
  match last with
  | none => [.upsert i]
  | some old => if old = i.nextHop then [] else [.delete (.of i.subnet old), .upsert i]

/-- Injections of intents as they are given, one after another, each at its time. -/
def injectAll (intents : List (Nat × Intent)) (s : Router × Recording) : Router × Recording :=
  intents.foldl
    (fun s i => ((Router.inject .vpp i.2).run (Recording.server .vpp) i.1 s.1 s.2).2) s

/-- A canonical subnet has at most one path, any other one for each of its writes. -/
def Recording.PathsByWrites (s : Recording) : Prop :=
  ∀ subnet : Network, if subnet.Canonical then (s.livePaths subnet).length ≤ 1
    else s.livePaths subnet = s.writtenHops subnet

/-- The delete of a replaced route names the subnet of the intent when that is canonical. -/
theorem of_subnet_eq_iff (i : Intent) (old : Address) :
    (Intent.of i.subnet old).subnet = i.subnet ↔ i.Canonical :=
  Iff.rfl

namespace Recording

variable (s : Recording) (i : Intent) (subnet : Network)

/-- The dataplane after a write that succeeds. -/
def wrote : Recording :=
  { s.note (.upsert i) with installed := write .vpp i s.installed }

/-- The dataplane after a delete. -/
def deleted : Recording :=
  { s.note (.delete i) with installed := erase .vpp i s.installed }

theorem writtenHops_wrote :
    (s.wrote i).writtenHops subnet =
      s.writtenHops subnet ++ if i.subnet = subnet then [i.nextHop] else [] := by
  by_cases h : i.subnet = subnet <;> simp [writtenHops, wrote, note, List.filterMap_append, h]

@[simp] theorem writtenHops_deleted : (s.deleted i).writtenHops subnet = s.writtenHops subnet := by
  simp [writtenHops, deleted, note, List.filterMap_append]

theorem livePaths_wrote :
    (s.wrote i).livePaths subnet =
      s.livePaths subnet ++ if i.subnet = subnet then [i.nextHop] else [] :=
  livePathsOf_write i s.installed subnet

theorem livePaths_deleted :
    (s.deleted i).livePaths subnet =
      if i.subnet = subnet then (s.livePaths subnet).filter (· ≠ i.nextHop)
      else s.livePaths subnet :=
  livePathsOf_erase i s.installed subnet

end Recording

/-- The table records the last write of every subnet; the paths are as many as the writes allow,
and the path of a canonical subnet is the recorded one. -/
structure DesiredTable.Follows (t : DesiredTable) (s : Recording) : Prop where
  serves : s.failing = []
  last : ∀ subnet, t.get? subnet = (s.writtenHops subnet).getLast?
  paths : s.PathsByWrites
  live : ∀ subnet : Network, subnet.Canonical → ∀ hop ∈ s.livePaths subnet,
    t.get? subnet = some hop

namespace DesiredTable.Follows

variable {t : DesiredTable} {s : Recording} {i : Intent} {old : Address}

/-- A delete takes nothing away from a subnet with host bits. -/
theorem deleted (h : t.Follows s) (i : Intent) (old : Address) :
    (t.markWithdrawn i.subnet).Follows (s.deleted (.of i.subnet old)) where
  serves := h.serves
  last subnet := by rw [get?_markWithdrawn, writtenHops_deleted, h.last]
  paths subnet := by
    have hpaths := h.paths subnet
    rw [livePaths_deleted, writtenHops_deleted]
    split
    · case isTrue hcanonical =>
        rw [if_pos hcanonical] at hpaths
        split
        · exact Nat.le_trans (List.length_filter_le _ _) hpaths
        · exact hpaths
    · case isFalse hcanonical =>
        rw [if_neg hcanonical] at hpaths
        have hne : (Intent.of i.subnet old).subnet ≠ subnet := by
          rintro rfl
          exact hcanonical (Intent.of_canonical i.subnet old)
        rw [if_neg hne, hpaths]
  live subnet hcanonical hop hhop := by
    rw [get?_markWithdrawn]
    rw [livePaths_deleted] at hhop
    split at hhop
    · exact h.live subnet hcanonical hop (List.mem_filter.mp hhop).1
    · exact h.live subnet hcanonical hop hhop

/-- The delete of the recorded route clears a canonical subnet. -/
theorem deleted_clears (h : t.Follows s) (hi : i.Canonical) (hold : t.get? i.subnet = some old) :
    (s.deleted (.of i.subnet old)).livePaths i.subnet = [] := by
  rw [livePaths_deleted, if_pos ((of_subnet_eq_iff i old).mpr hi), List.filter_eq_nil_iff]
  intro hop hhop
  have hrecorded : some hop = some old := (h.live i.subnet hi hop hhop).symm.trans hold
  simp [Intent.of, Option.some.inj hrecorded]

/-- A write into a canonical subnet without path, or into any other, is followed by its record. -/
theorem wrote_record (h : t.Follows s) (hfree : i.Canonical → s.livePaths i.subnet = []) :
    (t.record i).Follows (s.wrote i) where
  serves := h.serves
  last subnet := by
    rw [get?_record, writtenHops_wrote, h.last]
    split
    · simp
    · simp
  paths subnet := by
    have hpaths := h.paths subnet
    rw [livePaths_wrote, writtenHops_wrote]
    by_cases hs : i.subnet = subnet
    · subst hs
      by_cases hi : i.Canonical
      · rw [if_pos (show i.subnet.Canonical from hi), hfree hi, if_pos rfl]
        exact Nat.le_refl 1
      · rw [if_neg (show ¬i.subnet.Canonical from hi)] at hpaths ⊢
        rw [hpaths]
    · simpa only [hs, if_false, List.append_nil] using hpaths
  live subnet hcanonical hop hhop := by
    rw [livePaths_wrote] at hhop
    by_cases hs : i.subnet = subnet
    · subst hs
      have hnew : hop = i.nextHop := by simpa [hfree hcanonical] using hhop
      rw [get?_record_self, hnew]
    · rw [get?_record_of_ne t i subnet hs]
      exact h.live subnet hcanonical hop (by simpa [hs] using hhop)

end DesiredTable.Follows

namespace Router

variable {r : Router} {s : Recording} {i : Intent} (now : Nat)

/-- A write is made, succeeds and is recorded. -/
theorem writeAndRecord_follows (h : r.desired.Follows s)
    (hfree : i.Canonical → s.livePaths i.subnet = [])
    (hmarks : ∀ subnet, subnet ≠ i.subnet → r.desired.isWithdrawn subnet = false) :
    (writeAndRecord i r).Ensures (Recording.server .vpp) now (fun _ s => s.PathsByWrites)
      (fun _ r' s' => (r'.desired.Follows s' ∧ ∀ subnet, r'.desired.isWithdrawn subnet = false) ∧
        s'.calls = s.calls ++ [.upsert i]) r s := by
  have hserved : Recording.server .vpp (.upsert i) s = (.ok (), s.wrote i) :=
    server_upsert (by simp [h.serves])
  have hafter := h.wrote_record hfree
  refine ⟨h.paths, ?_⟩
  rw [hserved]
  refine ⟨hafter.paths, hafter.paths, ⟨hafter, fun subnet => ?_⟩, rfl⟩
  by_cases hs : i.subnet = subnet
  · rw [← hs, DesiredTable.isWithdrawn_record_self]
  · rw [DesiredTable.isWithdrawn_record_of_ne _ _ _ hs, hmarks subnet (Ne.symm hs)]

/-- An injection makes its calls, and the table follows the writes again at its end. -/
theorem inject_follows (h : r.desired.Follows s)
    (hmarks : ∀ subnet, r.desired.isWithdrawn subnet = false) :
    (inject .vpp i).Ensures (Recording.server .vpp) now (fun _ s => s.PathsByWrites)
      (fun _ r' s' => (r'.desired.Follows s' ∧ ∀ subnet, r'.desired.isWithdrawn subnet = false) ∧
        s'.calls = s.calls ++ injectionCalls (s.writtenHops i.subnet).getLast? i) r s := by
  rw [inject_eq]
  refine ⟨h.paths, .bind ?_⟩
  refine (reconcileIfDue_vpp_ensures fun _ => h.paths).mono (fun _ _ h => h) ?_
  rintro _ _ s ⟨⟨clock, rfl⟩, rfl, rfl⟩
  rw [← h.last]
  cases hlast : r.desired.get? i.subnet with
  | none =>
      have hcurrent : ¬r.desired.isCurrent i = true := by simp [DesiredTable.isCurrent, hlast]
      have hfree (hi : i.Canonical) : s.livePaths i.subnet = [] :=
        List.eq_nil_iff_forall_not_mem.mpr fun hop hhop => by
          simpa [hlast] using h.live i.subnet hi hop hhop
      rw [if_neg hcurrent, clearTheWay, hlast]
      exact writeAndRecord_follows now (r := { r with clock }) h hfree fun subnet _ => hmarks subnet
  | some old =>
      by_cases hold : old = i.nextHop
      · have hcurrent : r.desired.isCurrent i = true := by
          simp [DesiredTable.isCurrent, hlast, hold, hmarks]
        rw [if_pos hcurrent]
        exact ⟨h.paths, ⟨h, hmarks⟩, by simp [injectionCalls, hold]⟩
      · have hcurrent : ¬r.desired.isCurrent i = true := by
          simp [DesiredTable.isCurrent, hlast, hold]
        have hcleared := h.deleted i old
        have hmarked : ∀ subnet, subnet ≠ i.subnet →
            (r.desired.markWithdrawn i.subnet).isWithdrawn subnet = false := fun subnet hs => by
          rw [DesiredTable.isWithdrawn_markWithdrawn_of_ne _ _ hs, hmarks]
        have hwrite := writeAndRecord_follows now
          (r := { r with desired := r.desired.markWithdrawn i.subnet, clock }) hcleared
          (fun hi => h.deleted_clears hi hlast) hmarked
        rw [if_neg hcurrent, clearTheWay, hlast]
        simp only [hmarks, Mode.replacesRoutes, Bool.or_self, Bool.false_eq_true, if_false]
        refine ⟨h.paths, hcleared.paths, hwrite.mono (fun _ _ h => h) ?_⟩
        rintro _ r' s' ⟨hafter, hcalls⟩
        refine ⟨hafter, ?_⟩
        rw [hcalls, injectionCalls, if_neg hold]
        simp [Recording.deleted, note]

end Router

/-- Injections keep the table following the writes. -/
theorem injectAll_follows (intents : List (Nat × Intent)) {s : Router × Recording}
    (h : s.1.desired.Follows s.2) (hmarks : ∀ subnet, s.1.desired.isWithdrawn subnet = false) :
    (injectAll intents s).1.desired.Follows (injectAll intents s).2 ∧
      ∀ subnet, (injectAll intents s).1.desired.isWithdrawn subnet = false := by
  induction intents generalizing s with
  | nil => exact ⟨h, hmarks⟩
  | cons i rest ih =>
      obtain ⟨⟨hnext, hmarks⟩, -⟩ := (Router.inject_follows i.1 (i := i.2) h hmarks).run
      exact ih hnext hmarks

/-- The empty table follows a dataplane that was never called. -/
theorem DesiredTable.empty_follows : DesiredTable.empty.Follows {} where
  serves := rfl
  last _ := rfl
  paths subnet := by
    split
    · exact Nat.zero_le 1
    · rfl
  live _ _ _ hhop := by cases hhop

/-- **What a delete names.** After any injections into a VPP-mode dataplane that starts empty and
never fails, a further injection makes the calls that the last write of its subnet calls for. Each
delete among them has the next hop of that write, and its subnet exactly when the subnet is
canonical. At any moment a canonical subnet has at most one path, and any other has one for each
write that was ever made to it. -/
theorem delete_names_last_write_iff (intents : List (Nat × Intent)) (interval started now : Nat)
    (i : Intent) :
    let s := injectAll intents (.start interval started, {})
    let after := ((Router.inject .vpp i).run (Recording.server .vpp) now s.1 s.2).2
    after.2.calls = s.2.calls ++ injectionCalls (s.2.writtenHops i.subnet).getLast? i ∧
    (∀ d, .delete d ∈ injectionCalls (s.2.writtenHops i.subnet).getLast? i →
      (s.2.writtenHops i.subnet).getLast? = some d.nextHop ∧
        (d.subnet = i.subnet ↔ i.Canonical)) ∧
    ∀ (n : Nat) (subnet : Network),
      let s' := ((Router.inject .vpp i).cutOff (Recording.server .vpp) now n s.1 s.2).2
      if subnet.Canonical then (s'.livePaths subnet).length ≤ 1
      else s'.livePaths subnet = s'.writtenHops subnet := by
  intro s after
  obtain ⟨hfollows, hmarks⟩ := injectAll_follows intents
    (s := (.start interval started, {})) DesiredTable.empty_follows fun _ => rfl
  have hinject := Router.inject_follows now (i := i) hfollows hmarks
  refine ⟨hinject.run.2, fun d hd => ?_, fun n subnet => hinject.cutOff n subnet⟩
  cases hlast : (s.2.writtenHops i.subnet).getLast? with
  | none => simp [hlast, injectionCalls] at hd
  | some old =>
      rw [hlast, injectionCalls] at hd
      split at hd
      · cases hd
      · have hname : d = .of i.subnet old := by simpa using hd
        subst hname
        exact ⟨rfl, of_subnet_eq_iff i old⟩

/-- A subnet that is injected through one host and then through another. -/
private def moved (subnet : Network) : List (Nat × Intent) :=
  [.ofOctets 192 168 3 1, .ofOctets 192 168 3 5].map fun nextHop => (0, ⟨subnet, nextHop⟩)

/-- The delete names the subnet without its host bits, which was never written, so both next
hops stay live. -/
theorem delete_misses_write_of_host_bits :
    let subnet : Network := ⟨.ofOctets 10 1 2 3, 16, by decide⟩
    let s := (injectAll (moved subnet) (.start 60000 0, {})).2
    s.calls = [.upsert ⟨subnet, .ofOctets 192 168 3 1⟩,
        .delete ⟨⟨.ofOctets 10 1 0 0, 16, by decide⟩, .ofOctets 192 168 3 1⟩,
        .upsert ⟨subnet, .ofOctets 192 168 3 5⟩] ∧
      s.livePaths subnet = [.ofOctets 192 168 3 1, .ofOctets 192 168 3 5] := by
  decide +kernel

end RouteKeeper
