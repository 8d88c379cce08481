import Mathlib.Data.List.Basic
import RouteKeeper.Proofs.Kernel.Refinement

/-!
# Discovery over a table that is written to

The kernel backend takes the address at the client's end of a tunnel from the routes of the
tunnel's link, the last host route first. The routes that it writes itself are among them, on the
link of their next hop. That link has a host route, so a written route of more than one address
does not count, and a written host route does: then the tunnel is reported with its address.
-/

namespace RouteKeeper

/-- A network of one address is the network of that host. -/
theorem Network.eq_host {n : Network} (h : n.length = 32) : n = .host n.address := by
  obtain ⟨address, length, hlength⟩ := n
  obtain rfl : length = 32 := h
  rfl

namespace Kernel

variable {routes : List InstalledRoute} {link out : Nat} {i : Intent}

/-- The client addresses that the routes tell of a link, in order. -/
def addressesOn (routes : List InstalledRoute) (link : Nat) : List ClientAddress :=
  (routes.filterMap clientAddress?).filter (·.link == link)

/-- One more entry takes the place of what was there before the list. -/
private theorem getLast?_cons_or {α : Type} (a : α) (as : List α) (before : Option α) :
    (a :: as).getLast?.or before = as.getLast?.or (some a) := by
  rw [List.getLast?_cons]
  cases as.getLast? <;> rfl

/-- After any routes the last host route counts. Without one it is what was known as a host
before, and then the last route. -/
theorem foldl_prefer (known : Option ClientAddress) (found : List ClientAddress) :
    found.foldl (fun known c => some (prefer known c)) known =
      (found.filter (·.isHost)).getLast?.or
        (if known.any (·.isHost) then known else found.getLast?.or known) := by
  induction found generalizing known with
  | nil => cases known <;> simp
  | cons c rest ih =>
      rw [List.foldl_cons, ih, getLast?_cons_or]
      cases hc : c.isHost with
      | true =>
          have hprefer : prefer known c = c := by cases known <;> simp [prefer, hc]
          rw [hprefer, Option.any_some, if_pos hc, List.filter_cons_of_pos hc, getLast?_cons_or]
      | false =>
          rw [List.filter_cons_of_neg (Bool.eq_false_iff.mp hc)]
          cases known with
          | none => simp [prefer, hc]
          | some k => cases hk : k.isHost <;> simp [prefer, hc, hk]

/-- The client address of a link is that of its last host route, and without one that of its last
route. -/
theorem clientOf?_eq (routes : List InstalledRoute) (link : Nat) :
    clientOf? routes link =
      (((addressesOn routes link).filter (·.isHost)).getLast?.or
        (addressesOn routes link).getLast?).map (·.address) := by
  have hfold := foldl_prefer none (addressesOn routes link)
  rw [Option.any_none, if_neg Bool.false_ne_true, Option.or_none] at hfold
  exact congrArg (Option.map _) hfold

/-- A route tells a client address when it has a destination and a link. -/
theorem clientAddress?_eq_some_iff {r : InstalledRoute} {c : ClientAddress} :
    clientAddress? r = some c ↔
      ∃ n, r.destination = some n ∧ r.link = some c.link ∧
        n.address = c.address ∧ (n.length == 32) = c.isHost := by
  obtain ⟨destination, gateway, link⟩ := r
  obtain ⟨out, address, isHost⟩ := c
  cases destination <;> cases link <;> simp [clientAddress?]

theorem mem_addressesOn {c : ClientAddress} :
    c ∈ addressesOn routes link ↔ c.link = link ∧ ∃ r ∈ routes, clientAddress? r = some c := by
  simp [addressesOn, and_comm]

/-- A host route of a link is a route to its host. -/
theorem exists_host {c : ClientAddress} (h : c ∈ addressesOn routes link)
    (hc : c.isHost = true) : ∃ r ∈ routes, r.destination = some (.host c.address) := by
  obtain ⟨-, r, hr, htells⟩ := mem_addressesOn.mp h
  obtain ⟨⟨address, length, hlength⟩, hdestination, -, rfl, hhost⟩ :=
    clientAddress?_eq_some_iff.mp htells
  obtain rfl : length = 32 := by simpa [hc] using hhost
  exact ⟨r, hr, hdestination⟩

/-- A link that a host is found over has a host route. -/
theorem exists_last_of_linkTo? {x : Address} (h : linkTo? routes x = some out) :
    ∃ c, ((addressesOn routes out).filter (·.isHost)).getLast? = some c := by
  obtain ⟨r, hfind, hlink⟩ := Option.bind_eq_some_iff.mp h
  have hhost : r.destination = some (.host x) := by
    simpa [InstalledRoute.isHostRouteTo_eq] using List.find?_some hfind
  have htells : clientAddress? r = some ⟨out, x, true⟩ :=
    clientAddress?_eq_some_iff.mpr ⟨.host x, hhost, hlink, rfl, rfl⟩
  have hmem : ⟨out, x, true⟩ ∈ addressesOn routes out :=
    mem_addressesOn.mpr ⟨rfl, r, List.mem_of_find?_eq_some hfind, htells⟩
  refine Option.ne_none_iff_exists'.mp (mt List.getLast?_eq_none_iff.mp ?_)
  exact List.ne_nil_of_mem (List.mem_filter.mpr ⟨hmem, rfl⟩)

/-- Its client address is that of a host in the table. -/
theorem clientOf?_of_linkTo? {x : Address} (h : linkTo? routes x = some out) :
    ∃ client, clientOf? routes out = some client ∧
      ∃ r ∈ routes, r.destination = some (.host client) := by
  obtain ⟨c, hlast⟩ := exists_last_of_linkTo? h
  obtain ⟨hc, hhost⟩ := List.mem_filter.mp (List.mem_of_getLast? hlast)
  refine ⟨c.address, ?_, exists_host hc hhost⟩
  rw [clientOf?_eq, hlast]
  rfl

/-- What a written route tells of a link: its destination, if it is the link written over. -/
theorem addressesOn_append :
    addressesOn (routes ++ [(specFor i out).installed]) link =
      addressesOn routes link ++
        if out = link then [⟨out, i.subnet.address, i.subnet.length == 32⟩] else [] := by
  simp only [addressesOn, List.filterMap_append, List.filter_append]
  congr 1
  split
  case isTrue h => simp [clientAddress?, RouteSpec.installed, specFor, h]
  case isFalse h => simp [clientAddress?, RouteSpec.installed, specFor, h]

/-- A route that is written over the link of its next hop changes the client address of that link
if it is a host route, and no other client address. -/
theorem clientOf?_append (hlink : linkTo? routes i.nextHop = some out) :
    clientOf? (routes ++ [(specFor i out).installed]) link =
      if out = link ∧ i.subnet.length = 32 then some i.subnet.address
      else clientOf? routes link := by
  rw [clientOf?_eq, clientOf?_eq, addressesOn_append]
  by_cases hout : out = link
  · subst hout
    by_cases hlength : i.subnet.length = 32
    · simp [hlength]
    · -- The host route of the next hop stays ahead of the written route.
      obtain ⟨c, hlast⟩ := exists_last_of_linkTo? hlink
      simp [hlength, hlast]
  · simp [hout]

/-- The connection that a link tells of, given its addresses. -/
def connectionOf? (interfaceName : String) (routes : List InstalledRoute) (link : Link) :
    Except Failure (List Address) → Option Connection
  | .ok [own] => (clientOf? routes link.index).map fun client =>
      ⟨link.aliasName.getD link.name, interfaceName, client, own⟩
  | _ => none

/-- Links, each with what is answered when their addresses are looked up one after another. -/
def answersFor {σ : Type} (server : Server tables σ) :
    List Link → σ → List (Link × Except Failure (List Address))
  | [], _ => []
  | link :: rest, s =>
    (link, (server (.addresses link.index) s).1) ::
      answersFor server rest (server (.addresses link.index) s).2

/-- Each link tells of its own connection, by what is answered for it. -/
theorem run_connectionsOn {σ : Type} (server : Server tables σ) (s : σ) (interfaceName : String)
    (routes : List InstalledRoute) (links : List Link) :
    (connectionsOn interfaceName routes links).run server s =
      ((answersFor server links s).filterMap fun a =>
          connectionOf? interfaceName routes a.1 a.2,
        links.foldl (fun s link => (server (.addresses link.index) s).2) s) := by
  induction links generalizing s with
  | nil => rfl
  | cons link rest ih =>
      rw [connectionsOn, Program.run_call, answersFor, List.filterMap_cons, List.foldl_cons]
      rcases (server (.addresses link.index) s).1 with failure | (_ | ⟨own, _ | ⟨other, more⟩⟩)
      · exact ih _
      · exact ih _
      · cases hclient : clientOf? routes link.index with
        | none =>
            simp only [hclient, connectionOf?, Option.map_none]
            exact ih _
        | some client =>
            simp only [hclient, connectionOf?, Option.map_some]
            refine (Program.run_bind ..).trans ?_
            rw [ih]
            rfl
      · exact ih _

/-- Where looking addresses up changes nothing, every link has its own answer. -/
theorem answersFor_of_still {σ : Type} {server : Server tables σ} {s : σ}
    (hstill : ∀ link, (server (.addresses link) s).2 = s) (links : List Link) :
    answersFor server links s =
      links.map fun link => (link, (server (.addresses link.index) s).1) := by
  induction links with
  | nil => rfl
  | cons link rest ih => rw [answersFor, hstill, ih, List.map_cons]

/-- A link tells of a connection when it has one address and a client address. -/
theorem connectionOf?_eq_some_iff {interfaceName : String} {link : Link}
    {answer : Except Failure (List Address)} {c : Connection} :
    connectionOf? interfaceName routes link answer = some c ↔
      ∃ own client, answer = .ok [own] ∧ clientOf? routes link.index = some client ∧
        ⟨link.aliasName.getD link.name, interfaceName, client, own⟩ = c := by
  rcases answer with failure | (_ | ⟨own, _ | ⟨other, more⟩⟩) <;> simp [connectionOf?]

/-- What becomes of the connection on a link when an intent is written over a link: a host that is
written over the same link is its client address. -/
def readdress (i : Intent) (out : Nat) (link : Link) (c : Connection) : Connection :=
  if out = link.index ∧ i.subnet.length = 32 then { c with clientAddress := i.subnet.address }
  else c

section

variable (i : Intent) (out : Nat) (link : Link) (c : Connection)

@[simp] theorem podName_readdress : (readdress i out link c).podName = c.podName := by
  unfold readdress
  split <;> rfl

@[simp] theorem interfaceName_readdress :
    (readdress i out link c).interfaceName = c.interfaceName := by
  unfold readdress
  split <;> rfl

@[simp] theorem routerAddress_readdress :
    (readdress i out link c).routerAddress = c.routerAddress := by
  unfold readdress
  split <;> rfl

/-- A client address that changes is the written host. -/
theorem readdress_cases :
    readdress i out link c = c ∨ i.subnet = .host (readdress i out link c).clientAddress := by
  unfold readdress
  split
  case isTrue h => exact Or.inr (Network.eq_host h.2)
  case isFalse h => exact Or.inl rfl

end

/-- A write over the link of the next hop changes a connection at most in its client address. -/
theorem connectionOf?_append (hlink : linkTo? routes i.nextHop = some out)
    (interfaceName : String) (link : Link) (answer : Except Failure (List Address)) :
    connectionOf? interfaceName (routes ++ [(specFor i out).installed]) link answer =
      (connectionOf? interfaceName routes link answer).map (readdress i out link) := by
  rcases answer with failure | (_ | ⟨own, _ | ⟨other, more⟩⟩)
  · rfl
  · rfl
  · rw [connectionOf?, connectionOf?, clientOf?_append hlink]
    by_cases hhost : out = link.index ∧ i.subnet.length = 32
    · obtain ⟨client, hclient, -⟩ := clientOf?_of_linkTo? hlink
      rw [← hhost.1, hclient]
      simp [readdress, hhost.1, hhost.2]
    · simp [readdress, hhost, Function.comp_def]
  · rfl

/-- The connection that tables in memory tell of a link. -/
def connectionIn? (naming : Naming) (t : StaticTable) (link : Link) : Option Connection :=
  connectionOf? naming.interfaceName t.routes link (.ok (t.addressesOf link.index))

/-- Over tables in memory the connections are listed without fail. -/
theorem serve_connections (naming : Naming) (t : StaticTable) :
    (backend naming).serve StaticTable.server .connections t =
      (.ok ((t.links.filter naming.isTunnel).filterMap (connectionIn? naming t)), t) := by
  refine (Program.run_bind ..).trans ?_
  rw [run_connectionsOn, answersFor_of_still fun _ => rfl, List.filterMap_map,
    List.foldl_fixed' fun _ => rfl]
  rfl

/-- A write that succeeds is over the link of the next hop. It leaves the links and their addresses
alone, and to a new destination it adds a route. -/
theorem serve_upsert_fresh {naming : Naming} {t t' : StaticTable}
    (hfresh : ∀ r ∈ t.routes, r.destination ≠ some i.subnet)
    (hwrite : (backend naming).serve StaticTable.server (.upsert i) t = (.ok (), t')) :
    ∃ out, linkTo? t.routes i.nextHop = some out ∧
      t'.routes = t.routes ++ [(specFor i out).installed] ∧ t'.links = t.links ∧
      t'.addresses = t.addresses := by
  simp only [Adapter.serve, backend, upsert, Program.run, StaticTable.server] at hwrite
  cases hlink : linkTo? t.routes i.nextHop with
  | none =>
      rw [hlink] at hwrite
      cases hwrite
  | some out =>
      rw [hlink] at hwrite
      obtain ⟨-, rfl⟩ := Prod.mk.inj hwrite
      have hkept : t.routes.filter (·.destination != some i.subnet) = t.routes :=
        List.filter_eq_self.mpr fun r hr => by simpa using hfresh r hr
      exact ⟨out, rfl, congrArg (· ++ _) hkept, rfl, rfl⟩

/-- A host that is new to the tables is not the client address of any tunnel yet. -/
theorem readdress_eq_self_iff {naming : Naming} {t : StaticTable} {link : Link} {c : Connection}
    (hfresh : ∀ r ∈ t.routes, r.destination ≠ some i.subnet)
    (hlink : linkTo? t.routes i.nextHop = some out)
    (htells : connectionIn? naming t link = some c) :
    readdress i out link c = c ↔ ¬(out = link.index ∧ i.subnet.length = 32) := by
  refine ⟨?_, fun h => if_neg h⟩
  rintro hsame ⟨rfl, hlength⟩
  obtain ⟨client, hclient, r, hr, hhost⟩ := clientOf?_of_linkTo? hlink
  obtain ⟨own, _, -, htold, rfl⟩ := connectionOf?_eq_some_iff.mp htells
  obtain rfl := Option.some.inj (hclient.symm.trans htold)
  have haddress : i.subnet.address = client := by
    simpa [readdress, hlength] using congrArg Connection.clientAddress hsame
  rw [← haddress, ← Network.eq_host hlength] at hhost
  exact hfresh r hr hhost

/-- What is found is as before exactly when no change to it is one. -/
private theorem filterMap_map_eq_iff {α β : Type} {f : α → Option β} {g : α → β → β} {l : List α} :
    (l.filterMap fun a => (f a).map (g a)) = l.filterMap f ↔
      ∀ a ∈ l, ∀ b, f a = some b → g a b = b := by
  induction l with
  | nil => simp
  | cons a rest ih => cases hf : f a <;> simp [hf, ih]

/-- The connections are what they were exactly when no host is written over the link of a tunnel
that has one address. -/
theorem filterMap_readdress_eq_iff {naming : Naming} {t : StaticTable}
    (hfresh : ∀ r ∈ t.routes, r.destination ≠ some i.subnet)
    (hlink : linkTo? t.routes i.nextHop = some out) :
    ((t.links.filter naming.isTunnel).filterMap fun link =>
        (connectionIn? naming t link).map (readdress i out link)) =
      (t.links.filter naming.isTunnel).filterMap (connectionIn? naming t) ↔
    (i.subnet.length = 32 → ∀ link ∈ t.links, naming.isTunnel link = true →
      linkTo? t.routes i.nextHop = some link.index →
      (t.addressesOf link.index).length ≠ 1) := by
  rw [filterMap_map_eq_iff]
  constructor
  · intro hkept hlength link hmem htunnel hout hone
    obtain rfl : out = link.index := Option.some.inj (hlink.symm.trans hout)
    obtain ⟨own, hown⟩ := List.length_eq_one_iff.mp hone
    obtain ⟨client, hclient, -⟩ := clientOf?_of_linkTo? hlink
    have htells : connectionIn? naming t link = some _ :=
      connectionOf?_eq_some_iff.mpr ⟨own, client, congrArg Except.ok hown, hclient, rfl⟩
    have hsame := hkept link (List.mem_filter.mpr ⟨hmem, htunnel⟩) _ htells
    exact (readdress_eq_self_iff hfresh hlink htells).mp hsame ⟨rfl, hlength⟩
  · intro hspared link hmem c htells
    obtain ⟨hmem, htunnel⟩ := List.mem_filter.mp hmem
    refine (readdress_eq_self_iff hfresh hlink htells).mpr ?_
    rintro ⟨rfl, hlength⟩
    obtain ⟨own, client, hown, -, -⟩ := connectionOf?_eq_some_iff.mp htells
    apply hspared hlength link hmem htunnel hlink
    rw [Except.ok.inj hown]
    rfl

/-- **Discovery after a write.** A write to a new destination that succeeds leaves the connections
what they were, in their order, except for client addresses: one that is new is the host that was
written. It changes some client address exactly when it writes a host over the link of a tunnel
that has one address. -/
theorem connections_kept_iff (naming : Naming) (t t' : StaticTable) (i : Intent)
    (hfresh : ∀ r ∈ t.routes, r.destination ≠ some i.subnet)
    (hwrite : (backend naming).serve StaticTable.server (.upsert i) t = (.ok (), t')) :
    ∃ before after,
      (backend naming).serve StaticTable.server .connections t = (.ok before, t) ∧
      (backend naming).serve StaticTable.server .connections t' = (.ok after, t') ∧
      after.map (fun c => (c.podName, c.interfaceName, c.routerAddress)) =
        before.map (fun c => (c.podName, c.interfaceName, c.routerAddress)) ∧
      (∀ c ∈ after, c ∈ before ∨ i.subnet = .host c.clientAddress) ∧
      (after = before ↔
        (i.subnet.length = 32 → ∀ link ∈ t.links, naming.isTunnel link = true →
          linkTo? t.routes i.nextHop = some link.index →
          (t.addressesOf link.index).length ≠ 1)) := by
  obtain ⟨out, hlink, hroutes, hlinks, haddresses⟩ := serve_upsert_fresh hfresh hwrite
  have hafter : connectionIn? naming t' =
      fun link => (connectionIn? naming t link).map (readdress i out link) := by
    funext link
    rw [connectionIn?, hroutes, connectionOf?_append hlink, StaticTable.addressesOf, haddresses]
    rfl
  refine ⟨_, _, serve_connections naming t, serve_connections naming t', ?_, ?_, ?_⟩
  · rw [hafter, hlinks]
    simp [List.map_filterMap, Function.comp_def]
  · intro c hc
    rw [hafter, hlinks] at hc
    obtain ⟨link, hmem, htells⟩ := List.mem_filterMap.mp hc
    obtain ⟨c, hold, rfl⟩ := Option.map_eq_some_iff.mp htells
    rcases readdress_cases i out link c with hsame | hhost
    · rw [hsame]
      exact Or.inl (List.mem_filterMap.mpr ⟨link, hmem, hold⟩)
    · exact Or.inr hhost
  · rw [hafter, hlinks]
    exact filterMap_readdress_eq_iff hfresh hlink

/-- A tunnel whose client end the tables have a host route to. -/
private def tunnelled : StaticTable :=
  StaticTable.withLink { routes := [⟨some (.host (.ofOctets 192 168 3 1)), none, some 10⟩] }
    ⟨10, "vl3-a1b2", some "iperf-client-0"⟩ [.ofOctets 192 168 3 2]

/-- The intent to reach a network through the client of the tunnel. -/
private def throughClient (n : Network) : Intent :=
  ⟨n, .ofOctets 192 168 3 1⟩

/-- The tables after its write. -/
private def written (n : Network) : StaticTable :=
  { tunnelled with
    routes := tunnelled.routes ++ [(specFor (throughClient n) 10).installed]
    replaced := [specFor (throughClient n) 10] }

/-- The connections of the tables under the usual names. -/
private def listed (t : StaticTable) : Except Failure (List Connection) :=
  ((backend ⟨"vl3-", "nsm0"⟩).serve StaticTable.server .connections t).1

/-- After the write of a larger network through the client of a tunnel, the connections are the
same. -/
theorem connections_kept_iff_of_subnet :
    let i := throughClient ⟨.ofOctets 10 1 0 0, 24, by decide⟩
    (∀ r ∈ tunnelled.routes, r.destination ≠ some i.subnet) ∧
      (backend ⟨"vl3-", "nsm0"⟩).serve StaticTable.server (.upsert i) tunnelled =
        (.ok (), written i.subnet) ∧
      listed (written i.subnet) = listed tunnelled := by
  intro i
  have hfresh : ∀ r ∈ tunnelled.routes, r.destination ≠ some i.subnet := by decide
  refine ⟨hfresh, rfl, ?_⟩
  obtain ⟨before, after, hbefore, hafter, -, -, hkept⟩ :=
    connections_kept_iff ⟨"vl3-", "nsm0"⟩ tunnelled (written i.subnet) i hfresh rfl
  calc
    listed (written i.subnet) = .ok after := congrArg Prod.fst hafter
    _ = .ok before := congrArg Except.ok (hkept.mpr nofun)
    _ = listed tunnelled := (congrArg Prod.fst hbefore).symm

/-- After the write of a host through the client of a tunnel, that host is listed as the client's
end of the tunnel. -/
theorem connections_not_kept_of_host :
    let i := throughClient (.host (.ofOctets 10 1 0 7))
    (∀ r ∈ tunnelled.routes, r.destination ≠ some i.subnet) ∧
      (backend ⟨"vl3-", "nsm0"⟩).serve StaticTable.server (.upsert i) tunnelled =
        (.ok (), written i.subnet) ∧
      listed tunnelled =
        .ok [⟨"iperf-client-0", "nsm0", .ofOctets 192 168 3 1, .ofOctets 192 168 3 2⟩] ∧
      listed (written i.subnet) =
        .ok [⟨"iperf-client-0", "nsm0", .ofOctets 10 1 0 7, .ofOctets 192 168 3 2⟩] :=
  ⟨by decide, rfl, rfl, rfl⟩

end Kernel

end RouteKeeper
