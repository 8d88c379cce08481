import RouteKeeper.Proofs.Notation
import RouteKeeper.Vpp.Backend

/-!
# The two ends of a tunnel

The router's end of a tunnel is the first address of its interface, and the client's end is the
address one below. It is taken for granted, and checked nowhere, that both lie in one network of
four addresses. They do, unless the router's end is the first address of its network: then the
client's end is the last address of the network below. An interface is passed over only when its
first address is not written as an address or has last octet zero.
-/

namespace RouteKeeper

namespace Address

theorem lastOctet_eq (x : Address) : x.lastOctet = x.value % 256 := rfl

/-- The network of four addresses that an address lies in. -/
def tunnelNetwork (x : Address) : Network :=
  (⟨x, 30, by decide⟩ : Network).truncate

theorem tunnelNetwork_eq_iff_div {x y : Address} :
    x.tunnelNetwork = y.tunnelNetwork ↔ x.value / 4 = y.value / 4 := by
  simp only [tunnelNetwork, Network.truncate, Network.mk.injEq, Address.mk.injEq, and_true]
  show x.value / 4 * 4 = y.value / 4 * 4 ↔ _
  omega

/-- An address and the one above share a network of four unless the upper one is the first of its
network. -/
theorem tunnelNetwork_eq_iff {x y : Address} (h : x.value + 1 = y.value) :
    x.tunnelNetwork = y.tunnelNetwork ↔ ¬4 ∣ y.lastOctet := by
  rw [tunnelNetwork_eq_iff_div, lastOctet_eq]
  omega

end Address

namespace Vpp

/-- The address below is the one before, and only last octet zero has none. -/
theorem lower?_eq_some_iff {x y : Address} :
    lower? x = some y ↔ x.lastOctet ≠ 0 ∧ y.value + 1 = x.value := by
  obtain ⟨x, hx⟩ := x
  obtain ⟨y, hy⟩ := y
  unfold lower?
  split
  case isTrue hzero => simp [hzero]
  case isFalse hpos =>
    simp only [Option.some.injEq, Address.mk.injEq, Address.lastOctet_eq] at hpos ⊢
    omega

variable {interfaceName : String} {intf : Interface} {c : Connection}

/-- A connection is found on an interface whose first address, up to its first slash, is a written
address with another last octet than zero. -/
theorem connectionOn?_eq_some_iff :
    connectionOn? interfaceName intf = some c ↔
      ∃ first, intf.ipAddresses.head? = some first ∧
        first.toList.takeWhile (· != '/') = c.routerAddress.chars ∧
        c.routerAddress.lastOctet ≠ 0 ∧ c.clientAddress.value + 1 = c.routerAddress.value ∧
        c.podName = intf.name ∧ c.interfaceName = interfaceName := by
  simp only [connectionOn?, Option.bind_eq_bind, Option.bind_eq_some_iff,
    Address.ofChars?_eq_some_iff, lower?_eq_some_iff]
  constructor
  · rintro ⟨first, hfirst, own, hown, client, ⟨hzero, hclient⟩, hc⟩
    cases hc
    exact ⟨first, hfirst, hown, hzero, hclient, rfl, rfl⟩
  · rintro ⟨first, hfirst, hown, hzero, hclient, hpod, hinterface⟩
    refine ⟨first, hfirst, _, hown, _, ⟨hzero, hclient⟩, ?_⟩
    rw [← hpod, ← hinterface]
    rfl

/-- A router's end with another last octet than zero has a client's end. -/
theorem exists_connectionOn?_iff :
    (∃ c, connectionOn? interfaceName intf = some c) ↔
      ∃ first own, intf.ipAddresses.head? = some first ∧
        first.toList.takeWhile (· != '/') = Address.chars own ∧ own.lastOctet ≠ 0 := by
  simp only [connectionOn?_eq_some_iff]
  constructor
  · rintro ⟨c, first, hfirst, hown, hzero, -⟩
    exact ⟨first, c.routerAddress, hfirst, hown, hzero⟩
  · rintro ⟨first, own, hfirst, hown, hzero⟩
    obtain ⟨client, hclient⟩ : ∃ client, lower? own = some client := by
      rw [lower?, if_neg hzero]
      exact ⟨_, rfl⟩
    obtain ⟨-, hbelow⟩ := lower?_eq_some_iff.mp hclient
    exact ⟨⟨intf.name, interfaceName, client, own⟩, first, hfirst, hown, hzero, hbelow, rfl, rfl⟩

/-- **The two ends of a tunnel.** An interface has a connection exactly when its first address, up
to its first slash, is an address as it is written, with another last octet than zero. Then that
address is the router's end, and the address one below is the client's end. Whatever stands after
the slash, both lie in one network of prefix length 30 exactly when the last octet of the router's
end is no multiple of four. -/
theorem ends_share_network_iff (interfaceName : String) (intf : Interface) :
    ((∃ c, connectionOn? interfaceName intf = some c) ↔
      ∃ first own, intf.ipAddresses.head? = some first ∧
        first.toList.takeWhile (· != '/') = Address.chars own ∧ own.lastOctet ≠ 0) ∧
    ∀ c, connectionOn? interfaceName intf = some c →
      (∃ first, intf.ipAddresses.head? = some first ∧
        first.toList.takeWhile (· != '/') = c.routerAddress.chars) ∧
      c.clientAddress.value + 1 = c.routerAddress.value ∧
      c.podName = intf.name ∧ c.interfaceName = interfaceName ∧
      (c.clientAddress.tunnelNetwork = c.routerAddress.tunnelNetwork ↔
        ¬4 ∣ c.routerAddress.lastOctet) := by
  refine ⟨exists_connectionOn?_iff, fun c hfound => ?_⟩
  obtain ⟨first, hfirst, hown, -, hclient, hpod, hinterface⟩ := connectionOn?_eq_some_iff.mp hfound
  exact ⟨⟨first, hfirst, hown⟩, hclient, hpod, hinterface, Address.tunnelNetwork_eq_iff hclient⟩

/-- The second and third address of a network of four are the ends of a tunnel in it. -/
theorem ends_share_network_iff_of_third :
    let intf : Interface := { name := "pod-a", ipAddresses := ["10.5.0.6/30", "10.9.0.2/30"] }
    let c : Connection := ⟨"pod-a", "nsm0", .ofOctets 10 5 0 5, .ofOctets 10 5 0 6⟩
    connectionOn? "nsm0" intf = some c ∧
      c.clientAddress.tunnelNetwork = c.routerAddress.tunnelNetwork := by
  intro intf c
  have hfound : connectionOn? "nsm0" intf = some c := rfl
  obtain ⟨-, -, -, -, hshared⟩ := (ends_share_network_iff "nsm0" intf).2 c hfound
  exact ⟨hfound, hshared.mpr (by decide)⟩

/-- The first address of a network of four is one end of a tunnel whose other end is outside. -/
theorem ends_apart_of_first :
    let intf : Interface := { name := "pod-b", ipAddresses := ["10.0.0.4/30"] }
    let c : Connection := ⟨"pod-b", "nsm0", .ofOctets 10 0 0 3, .ofOctets 10 0 0 4⟩
    connectionOn? "nsm0" intf = some c ∧
      c.clientAddress.tunnelNetwork ≠ c.routerAddress.tunnelNetwork :=
  ⟨rfl, by decide⟩

end Vpp

end RouteKeeper
