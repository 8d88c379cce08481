import RouteKeeper.Proofs.Kernel.Refinement

/-!
# The link of the next hop

A written route goes out over a link that a listed host route to its next hop names. The kernel
backend looks at the first such host route only. So it finds a link whenever one is named, except
where the first host route names none and hides a later one that does.

## Implementation notes

The calls of a write are told over any tables. That a failed write leaves the table alone is told
over a table in memory of which any guard may keep any call.
-/

namespace RouteKeeper.Kernel

open InstalledRoute

/-- A listed host route to an address names the link. -/
def LeadsTo (routes : List InstalledRoute) (x : Address) (link : Nat) : Prop :=
  ∃ r ∈ routes, r.destination = some (.host x) ∧ r.link = some link

/-- If the first listed host route to an address names no link, then no later one names one. -/
def HidesNoLink (routes : List InstalledRoute) (x : Address) : Prop :=
  ∀ r, routes.find? (·.destination == some (.host x)) = some r → r.link = none →
    ∀ link, ¬LeadsTo routes x link

section

variable {routes : List InstalledRoute} {x : Address} {link : Nat}

theorem linkTo?_eq_some_iff :
    linkTo? routes x = some link ↔
      ∃ r, routes.find? (·.destination == some (.host x)) = some r ∧ r.link = some link := by
  simp only [linkTo?, isHostRouteTo_eq, Option.bind_eq_some_iff]

/-- A link that is found is named by a listed host route. -/
theorem leadsTo_of_linkTo? (h : linkTo? routes x = some link) : LeadsTo routes x link := by
  obtain ⟨r, hfind, hlink⟩ := linkTo?_eq_some_iff.mp h
  exact ⟨r, List.mem_of_find?_eq_some hfind, by simpa using List.find?_some hfind, hlink⟩

/-- Where a link is named, a first host route is listed. -/
theorem LeadsTo.exists_first (h : LeadsTo routes x link) :
    ∃ r, routes.find? (·.destination == some (.host x)) = some r := by
  obtain ⟨r, hr, hhost, -⟩ := h
  exact Option.isSome_iff_exists.mp (List.find?_isSome.mpr ⟨r, hr, by simp [hhost]⟩)

/-- Nothing is hidden exactly where a link is found as soon as one is named. -/
theorem hidesNoLink_iff :
    HidesNoLink routes x ↔
      ((∃ link, LeadsTo routes x link) → ∃ link, linkTo? routes x = some link) := by
  constructor
  · rintro h ⟨link, hnamed⟩
    obtain ⟨r, hfirst⟩ := hnamed.exists_first
    cases hlink : r.link with
    | none => exact absurd hnamed (h r hfirst hlink link)
    | some found => exact ⟨found, linkTo?_eq_some_iff.mpr ⟨r, hfirst, hlink⟩⟩
  · intro h r hfirst hlink link hnamed
    obtain ⟨found, hfound⟩ := h ⟨link, hnamed⟩
    obtain ⟨r', hfirst', hlink'⟩ := linkTo?_eq_some_iff.mp hfound
    obtain rfl : r = r' := Option.some.inj (hfirst.symm.trans hfirst')
    exact Option.some_ne_none _ (hlink'.symm.trans hlink)

end

/-- What a write without a link fails with. -/
def notFound (i : Intent) : Failure :=
  inReplace i (.linkNotFound i.subnet.text i.nextHop.text)

section

variable {σ : Type} {server : Server tables σ} {i : Intent} {s : σ}
  {routes : List InstalledRoute}

/-- Without a listing a write ends there. -/
theorem calls_upsert_of_unlisted {cause : Failure} (h : (server .routes s).1 = .error cause) :
    ((upsert i).trace server s).map Prod.fst = [.routes] := by
  simp [upsert, Program.trace, h]

/-- Where no link is found a write ends after the listing. -/
theorem upsert_of_unlinked (h : (server .routes s).1 = .ok routes)
    (hlink : linkTo? routes i.nextHop = none) :
    ((upsert i).trace server s).map Prod.fst = [.routes] ∧
      ((upsert i).run server s).1 = .error (notFound i) := by
  simp [upsert, Program.trace, h, hlink, notFound]

/-- A link that is found is the one that the route is written over. -/
theorem calls_upsert_of_linked {link : Nat} (h : (server .routes s).1 = .ok routes)
    (hlink : linkTo? routes i.nextHop = some link) :
    ((upsert i).trace server s).map Prod.fst = [.routes, .replace (specFor i link)] := by
  simp only [upsert, Program.trace, h, hlink]
  cases (server (.replace (specFor i link)) (server .routes s).2).1 with
  | error cause => rfl
  | ok _ => rfl

/-- Where no link is named a write fails for want of one. -/
theorem upsert_of_unnamed (h : (server .routes s).1 = .ok routes)
    (hnone : ¬∃ link, LeadsTo routes i.nextHop link) :
    ((upsert i).trace server s).map Prod.fst = [.routes] ∧
      ((upsert i).run server s).1 = .error (notFound i) := by
  cases hlink : linkTo? routes i.nextHop with
  | none => exact upsert_of_unlinked h hlink
  | some link => exact absurd ⟨link, leadsTo_of_linkTo? hlink⟩ hnone

/-- A replacement goes over a link that is named. -/
theorem calls_upsert_cases (h : (server .routes s).1 = .ok routes) :
    ((upsert i).trace server s).map Prod.fst = [.routes] ∨
      ∃ link, LeadsTo routes i.nextHop link ∧
        ((upsert i).trace server s).map Prod.fst = [.routes, .replace (specFor i link)] := by
  cases hlink : linkTo? routes i.nextHop with
  | none => exact Or.inl (upsert_of_unlinked h hlink).1
  | some link => exact Or.inr ⟨link, leadsTo_of_linkTo? hlink, calls_upsert_of_linked h hlink⟩

/-- No link is hidden exactly where a write makes its replacement as soon as a link is named, and
fails for want of a link only when none is. -/
theorem hidesNoLink_iff_written (h : (server .routes s).1 = .ok routes) :
    HidesNoLink routes i.nextHop ↔
      ((∃ link, LeadsTo routes i.nextHop link) → ∃ link, LeadsTo routes i.nextHop link ∧
        ((upsert i).trace server s).map Prod.fst = [.routes, .replace (specFor i link)]) ∧
      (((upsert i).trace server s).map Prod.fst = [.routes] ∧
        ((upsert i).run server s).1 = .error (notFound i) →
          ¬∃ link, LeadsTo routes i.nextHop link) := by
  rw [hidesNoLink_iff]
  cases hlink : linkTo? routes i.nextHop with
  | none =>
      constructor
      · intro hfound
        have hnone : ¬∃ link, LeadsTo routes i.nextHop link := by
          intro hnamed
          obtain ⟨link, hlinked⟩ := hfound hnamed
          cases hlinked
        exact ⟨fun hnamed => absurd hnamed hnone, fun _ => hnone⟩
      · rintro ⟨-, hlast⟩ hnamed
        exact absurd hnamed (hlast (upsert_of_unlinked h hlink))
  | some link =>
      have hcalls := calls_upsert_of_linked h hlink
      constructor
      · intro _
        refine ⟨fun _ => ⟨link, leadsTo_of_linkTo? hlink, hcalls⟩, ?_⟩
        rintro ⟨hshort, -⟩
        rw [hcalls] at hshort
        cases hshort
      · intro _ _
        exact ⟨link, rfl⟩

end

section

variable {γ : Type} (naming : Naming) (guard : Table.Call → γ → Option Failure × γ)

/-- What a guarded table lists is what it holds. -/
theorem listed_of_guarded {s : γ × StaticTable} {routes : List InstalledRoute}
    (h : (Server.guarded guard StaticTable.server .routes s).1 = .ok routes) :
    routes = s.2.routes := by
  rcases Server.guarded_cases guard StaticTable.server .routes s with
    ⟨fault, g, hserved⟩ | ⟨g, hserved⟩
  · rw [hserved] at h
    cases h
  · rw [hserved] at h
    exact (Except.ok.inj h).symm

/-- A write that fails leaves the table alone. -/
theorem table_of_failed_upsert {i : Intent} {s : γ × StaticTable} {failure : Failure}
    (h : ((backend naming).serve (Server.guarded guard StaticTable.server) (.upsert i) s).1 =
      .error failure) :
    ((backend naming).serve (Server.guarded guard StaticTable.server) (.upsert i) s).2.2 = s.2 := by
  rcases serve_upsert_cases naming guard i s with ⟨cause, g, hserved⟩ | ⟨link, g, -, hserved⟩
  · rw [hserved]
  · rw [hserved] at h
    cases h

/-- **Which link a route is written over.** A write of the kernel backend lists the routes and then
makes one replacement at most, of the intent on-link over a link that a listed host route to the
next hop names. One that fails leaves the table as it was. If the routes are listed and none names
a link, the write fails for want of one. That it makes its replacement whenever a link is named,
and fails for want of a link only when none is, holds exactly where the first host route hides no
link. -/
theorem written_over_named_link_iff (i : Intent) (s : γ × StaticTable) :
    let server := Server.guarded guard StaticTable.server
    let calls := ((backend naming (.upsert i)).trace server s).map Prod.fst
    let result := (backend naming).serve server (.upsert i) s
    let callsOver (link : Nat) : List Table.Call :=
      [.routes, .replace ⟨link, i.subnet, i.nextHop, true⟩]
    let named (link : Nat) : Prop := LeadsTo s.2.routes i.nextHop link
    (calls = [.routes] ∨ ∃ link, named link ∧ calls = callsOver link) ∧
    (∀ failure, result.1 = .error failure → result.2.2 = s.2) ∧
    ((server .routes s).1.isOk = true →
      ((¬∃ link, named link) → calls = [.routes] ∧ result.1 = .error (notFound i)) ∧
      (HidesNoLink s.2.routes i.nextHop ↔
        ((∃ link, named link) → ∃ link, named link ∧ calls = callsOver link) ∧
        (calls = [.routes] ∧ result.1 = .error (notFound i) → ¬∃ link, named link))) := by
  intro server calls result callsOver named
  refine ⟨?_, fun failure hfailed => table_of_failed_upsert naming guard hfailed, ?_⟩
  · cases hlisted : (server .routes s).1 with
    | error cause => exact Or.inl (calls_upsert_of_unlisted hlisted)
    | ok routes =>
        obtain rfl := listed_of_guarded guard hlisted
        exact calls_upsert_cases hlisted
  · intro hok
    obtain ⟨routes, hlisted⟩ : ∃ routes, (server .routes s).1 = .ok routes := by
      cases hanswer : (server .routes s).1 with
      | error cause =>
          rw [hanswer] at hok
          cases hok
      | ok routes => exact ⟨routes, rfl⟩
    obtain rfl := listed_of_guarded guard hlisted
    exact ⟨upsert_of_unnamed hlisted, hidesNoLink_iff_written hlisted⟩

end

/-- The host that routes go through. -/
private def gateway : Address :=
  .ofOctets 192 168 3 1

/-- A table with a default route, a network around the gateway, and the given host routes. -/
private def tableWith (hostRoutes : List InstalledRoute) : StaticTable where
  routes := ⟨none, some (.ofOctets 172 18 0 1), some 2⟩ ::
    ⟨some ⟨.ofOctets 192 168 3 0, 24, by decide⟩, none, some 5⟩ :: hostRoutes

/-- A host route to the gateway. -/
private def hostRoute (link : Option Nat) : InstalledRoute :=
  ⟨some (.host gateway), none, link⟩

/-- The intent to reach a remote host through the gateway. -/
private def through : Intent :=
  ⟨.host (.ofOctets 10 1 0 7), gateway⟩

/-- Why a replacement fails. -/
private def busy : tables.Fault :=
  .netlink "route replace" "busy"

/-- Of three host routes the first names a link, the second none and the third another. The link of
the first is taken, and the replacement fails without effect. -/
theorem written_over_named_link_of_three :
    let server := Server.guarded (Server.scripted busy) StaticTable.server
    let s := ([false, true], tableWith [hostRoute (some 7), hostRoute none, hostRoute (some 9)])
    let result := (backend ⟨"vl3-", "nsm0"⟩).serve server (.upsert through) s
    (∃ link, LeadsTo s.2.routes gateway link ∧
        ((backend ⟨"vl3-", "nsm0"⟩ (.upsert through)).trace server s).map Prod.fst =
          [.routes, .replace ⟨link, through.subnet, gateway, true⟩]) ∧
      result.1 = .error (inReplace through busy) ∧ result.2.2 = s.2 := by
  intro server s result
  obtain ⟨-, hfailed, hlisted⟩ :=
    written_over_named_link_iff ⟨"vl3-", "nsm0"⟩ (Server.scripted busy) through s
  have hhides : HidesNoLink s.2.routes gateway := by
    intro r hfirst hlink
    obtain rfl : r = hostRoute (some 7) := (Option.some.inj hfirst).symm
    cases hlink
  have hnamed : LeadsTo s.2.routes gateway 9 :=
    ⟨hostRoute (some 9), by simp [s, tableWith], rfl, rfl⟩
  obtain ⟨hover, -⟩ := (hlisted rfl).2.mp hhides
  exact ⟨hover ⟨9, hnamed⟩, rfl, hfailed _ rfl⟩

/-- Where the first host route names no link, the link of the second is not found. -/
theorem not_written_over_hidden_link :
    let s := tableWith [hostRoute none, hostRoute (some 10)]
    LeadsTo s.routes gateway 10 ∧
      ((upsert through).trace StaticTable.server s).map Prod.fst = [.routes] ∧
      ((upsert through).run StaticTable.server s).1 = .error (notFound through) :=
  ⟨⟨hostRoute (some 10), by decide, rfl, rfl⟩, rfl, rfl⟩

end RouteKeeper.Kernel
