import RouteKeeper.Address

/-!
# IPv4 networks

A network is an address with a prefix length. The address may have bits set
beyond the prefix (host bits); `truncate` clears them. Networks are ordered by
address, then by prefix length.
-/

namespace RouteKeeper

/-- An address together with the number of leading bits that name the network. -/
structure Network where
  /-- The address, host bits included. -/
  address : Address
  /-- The prefix length in bits. -/
  length : Nat
  length_le : length ≤ 32 := by omega
  deriving DecidableEq

namespace Network

instance : Inhabited Network := ⟨⟨default, 0, by decide⟩⟩

/-- The network of exactly one address. -/
def host (x : Address) : Network :=
  ⟨x, 32, by decide⟩

/-- A network from an address and a prefix length, if the length is at most 32. -/
def ofLength? (x : Address) (length : Nat) : Option Network :=
  if h : length ≤ 32 then some ⟨x, length, h⟩ else none

/-- The number of addresses in the network. -/
def span (n : Network) : Nat :=
  1 <<< (32 - n.length)

/-- Clears the host bits. -/
def truncate (n : Network) : Network :=
  { n with address := ⟨n.address.value / n.span * n.span,
      Nat.lt_of_le_of_lt (Nat.div_mul_le_self ..) n.address.value_lt⟩ }

/-- A network is canonical when it has no host bits. -/
def Canonical (n : Network) : Prop :=
  n.truncate = n

instance (n : Network) : Decidable n.Canonical :=
  inferInstanceAs (Decidable (n.truncate = n))

/-- The order by address, then by prefix length. -/
def before (m n : Network) : Bool :=
  m.address.value < n.address.value ||
    (m.address.value == n.address.value && m.length < n.length)

/-- The written form: the address, a slash and the prefix length. -/
def chars (n : Network) : List Char :=
  n.address.chars ++ '/' :: Text.digits n.length

/-- The written form as a string. -/
def text (n : Network) : String :=
  String.ofList n.chars

instance : ToString Network := ⟨text⟩

/-- A prefix length in one or two digits, at most 32. -/
def length? (cs : List Char) : Option Nat :=
  if cs.length ≤ 2 then (Text.number? cs).filter (· ≤ 32) else none

/-- Reads a network: four lenient octets, a slash and a prefix length. Host bits are kept. -/
def ofChars? (cs : List Char) : Option Network :=
  match Address.splitAt '/' cs with
  | [address, length] => do
    let x ← Address.dotted? Address.lenientOctet? address
    ofLength? x (← length? length)
  | _ => none

/-- Reads a network from a string. -/
def parse? (s : String) : Option Network :=
  ofChars? s.toList

end Network

end RouteKeeper
