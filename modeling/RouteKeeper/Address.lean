import RouteKeeper.Text.Number

/-!
# IPv4 addresses

An address is a number below `2 ^ 32`. Its written form is the four octets in
decimal with points between them, most significant first.

## Implementation notes

Two readers of an octet exist because two grammars do: an address is strict (no
leading zeros), a network is lenient (up to three digits, leading zeros allowed).
The reader of four dotted octets takes the octet's reader as an argument.
-/

namespace RouteKeeper

/-- An IPv4 address as a 32-bit number. -/
structure Address where
  /-- The address as a number, first octet most significant. -/
  value : Nat
  value_lt : value < 0x100000000 := by omega
  deriving DecidableEq

namespace Address

instance : Inhabited Address := ⟨⟨0, by decide⟩⟩

/-- The address with the given octets, each taken modulo 256. -/
def ofOctets (a b c d : Nat) : Address :=
  ⟨(a % 256) * 0x1000000 + (b % 256) * 0x10000 + (c % 256) * 0x100 + d % 256, by omega⟩

/-- The octet at a position counted from the least significant one. -/
def octet (x : Address) (place : Nat) : Nat :=
  x.value >>> (8 * place) % 256

/-- The least significant octet. -/
def lastOctet (x : Address) : Nat :=
  x.octet 0

/-- The written form: four octets in decimal, joined by points. -/
def chars (x : Address) : List Char :=
  Text.digits (x.octet 3) ++ '.' :: (Text.digits (x.octet 2) ++ '.' ::
    (Text.digits (x.octet 1) ++ '.' :: Text.digits (x.octet 0)))

/-- The written form as a string. -/
def text (x : Address) : String :=
  String.ofList x.chars

instance : ToString Address := ⟨text⟩

/-- The parts of a text between the given separator characters. -/
def splitAt (separator : Char) : List Char → List (List Char)
  | [] => [[]]
  | c :: rest =>
    if c = separator then [] :: splitAt separator rest
    else match splitAt separator rest with
      | [] => [[c]]
      | part :: parts => (c :: part) :: parts

/-- An octet in one to three digits, at most 255; leading zeros are allowed. -/
def lenientOctet? (cs : List Char) : Option Nat :=
  if cs.length ≤ 3 then (Text.number? cs).filter (· ≤ 255) else none

/-- An octet at most 255 without leading zeros. -/
def strictOctet? (cs : List Char) : Option Nat :=
  if cs.head? = some '0' ∧ cs.length ≠ 1 then none else lenientOctet? cs

/-- Reads exactly four octets with points between them. -/
def dotted? (octet? : List Char → Option Nat) (cs : List Char) : Option Address :=
  match splitAt '.' cs with
  | [a, b, c, d] => do
    return ofOctets (← octet? a) (← octet? b) (← octet? c) (← octet? d)
  | _ => none

/-- Reads an address in its strict grammar: no leading zeros, nothing around it. -/
def ofChars? (cs : List Char) : Option Address :=
  dotted? strictOctet? cs

/-- Reads an address from a string. -/
def parse? (s : String) : Option Address :=
  ofChars? s.toList

end Address

end RouteKeeper
