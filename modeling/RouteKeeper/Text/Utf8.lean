/-!
# UTF-8

Characters as bytes and bytes as characters. Bytes that spell no character are
found part by part: one ill-formed part is the longest run that begins like the
spelling of a character.
-/

namespace RouteKeeper.Text

/-- The bytes of a string. -/
def utf8 (s : String) : List UInt8 :=
  s.toList.flatMap String.utf8EncodeChar

/-- The ranges of the bytes after a first byte, and the bits that the first byte carries. -/
def leading? (b : UInt8) : Option (Nat × List (UInt8 × UInt8)) :=
  let n := b.toNat
  if n < 0x80 then some (n, [])
  else if n < 0xc2 then none
  else if n < 0xe0 then some (n - 0xc0, [(0x80, 0xbf)])
  else if n = 0xe0 then some (0, [(0xa0, 0xbf), (0x80, 0xbf)])
  else if n = 0xed then some (0xd, [(0x80, 0x9f), (0x80, 0xbf)])
  else if n < 0xf0 then some (n - 0xe0, [(0x80, 0xbf), (0x80, 0xbf)])
  else if n = 0xf0 then some (0, [(0x90, 0xbf), (0x80, 0xbf), (0x80, 0xbf)])
  else if n < 0xf4 then some (n - 0xf0, [(0x80, 0xbf), (0x80, 0xbf), (0x80, 0xbf)])
  else if n = 0xf4 then some (4, [(0x80, 0x8f), (0x80, 0xbf), (0x80, 0xbf)])
  else none

/-- Reads bytes that lie in the given ranges. The code is missing if one does not; the rest then
begins with that byte. -/
def follow (code : Nat) : List (UInt8 × UInt8) → List UInt8 → Option Nat × List UInt8
  | [], bs => (some code, bs)
  | _ :: _, [] => (none, [])
  | (low, high) :: ranges, b :: bs =>
    if low ≤ b ∧ b ≤ high then follow (code * 64 + b.toNat % 64) ranges bs
    else (none, b :: bs)

/-- Reads one character, or one ill-formed part as none, after its first byte. -/
def readChar (b : UInt8) (bs : List UInt8) : Option Char × List UInt8 :=
  match leading? b with
  | none => (none, bs)
  | some (code, ranges) =>
    let (code, rest) := follow code ranges bs
    (code.map Char.ofNat, rest)

theorem length_follow_le (code : Nat) (ranges : List (UInt8 × UInt8)) (bs : List UInt8) :
    (follow code ranges bs).2.length ≤ bs.length := by
  induction ranges generalizing code bs with
  | nil => simp [follow]
  | cons range ranges ih =>
    cases bs with
    | nil => simp [follow]
    | cons b bs =>
      simp only [follow]
      split
      · exact Nat.le_succ_of_le (ih _ bs)
      · simp

theorem length_readChar_le (b : UInt8) (bs : List UInt8) :
    (readChar b bs).2.length ≤ bs.length := by
  unfold readChar
  split
  · simp
  · exact length_follow_le _ _ bs

/-- The characters of a run of bytes, with none in the place of each ill-formed part. -/
def readChars : List UInt8 → List (Option Char)
  | [] => []
  | b :: bs =>
    let read := readChar b bs
    read.1 :: readChars read.2
termination_by bs => bs.length
decreasing_by exact Nat.lt_succ_of_le (length_readChar_le b bs)

/-- The string that a run of bytes spells, if it is well-formed. -/
def ofUtf8? (bs : List UInt8) : Option String :=
  ((readChars bs).mapM id).map String.ofList

/-- The string that a run of bytes spells, with a replacement character for each ill-formed part. -/
def ofUtf8Lossy (bs : List UInt8) : String :=
  String.ofList ((readChars bs).map fun c => c.getD '\ufffd')

end RouteKeeper.Text
