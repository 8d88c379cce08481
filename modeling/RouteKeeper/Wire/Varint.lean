/-!
# Variable-length integers

A number as a run of bytes with seven bits each, least significant first, where
all bytes but the last have their top bit set. A reader takes at most ten bytes
and numbers below `2 ^ 64`.
-/

namespace RouteKeeper.Wire

/-- The bytes of a number. -/
def varint (n : Nat) : List UInt8 :=
  if n < 128 then [UInt8.ofNat n]
  else UInt8.ofNat (128 + n % 128) :: varint (n / 128)
termination_by n
decreasing_by omega

/-- The number of bytes that a number takes. -/
def varintSize (n : Nat) : Nat :=
  if n < 128 then 1 else 1 + varintSize (n / 128)
termination_by n
decreasing_by omega

/-- Reads a number of at most the given number of bytes; the last of ten bytes is at most one. -/
def readVarintOf : Nat → List UInt8 → Option (Nat × List UInt8)
  | 0, _ => none
  | _ + 1, [] => none
  | left + 1, b :: bs =>
    if b.toNat < 128 then
      if left = 0 ∧ 1 < b.toNat then none else some (b.toNat, bs)
    else (readVarintOf left bs).map fun (n, rest) => (b.toNat - 128 + 128 * n, rest)

/-- Reads a number of at most ten bytes. -/
def readVarint (bs : List UInt8) : Option (Nat × List UInt8) :=
  readVarintOf 10 bs

end RouteKeeper.Wire
