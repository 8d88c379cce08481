import RouteKeeper.Text.Number

/-!
# Integers in texts

How the shell and its utilities read integers: white space, a sign, and digits in the
base that the beginning of the digits tells.
-/

namespace RouteKeeper.Shell.Integer

/-- The white space in front of a number and after it. -/
def isSpace (c : Char) : Bool :=
  c == ' ' || (9 ≤ c.toNat && c.toNat ≤ 13)

/-- The value of a digit in bases up to sixteen. -/
def digit? (c : Char) : Option Nat :=
  if c.isDigit then some (c.toNat - 48)
  else if 'a' ≤ c ∧ c ≤ 'f' then some (c.toNat - 87)
  else if 'A' ≤ c ∧ c ≤ 'F' then some (c.toNat - 55)
  else none

/-- Whether a character is a digit in a base. -/
def isDigitIn (base : Nat) (c : Char) : Bool :=
  (digit? c).any (· < base)

/-- The number that digits denote in a base. -/
def valueIn (base : Nat) (ds : List Char) : Nat :=
  ds.foldl (fun soFar c => soFar * base + (digit? c).getD 0) 0

/-- The digits at the front and the number that they denote, if there are any. -/
def digitsIn? (base : Nat) (cs : List Char) : Option (Nat × List Char) :=
  match cs.span (isDigitIn base) with
  | ([], _) => none
  | (ds, rest) => some (valueIn base ds, rest)

/-- The number at the front. After `0x` it is hexadecimal, after `0b` binary and after `0` octal;
without digits after its sign, a `0` stands for itself. -/
def natural? (cs : List Char) : Option (Nat × List Char) :=
  match cs with
  | '0' :: c :: rest =>
    if c == 'x' || c == 'X' then some ((digitsIn? 16 rest).getD (0, c :: rest))
    else if c == 'b' || c == 'B' then some ((digitsIn? 2 rest).getD (0, c :: rest))
    else digitsIn? 8 cs
  | cs => digitsIn? 10 cs

/-- The signed number at the front after white space; `natural` reads what follows the sign. -/
def signed? (natural : List Char → Option (Nat × List Char)) (cs : List Char) :
    Option (Int × List Char) :=
  match cs.dropWhile isSpace with
  | '-' :: rest => (natural rest).map fun (n, rest) => (-n, rest)
  | '+' :: rest => (natural rest).map fun (n, rest) => (n, rest)
  | rest => (natural rest).map fun (n, rest) => (n, rest)

/-- The least number of 64 bits. -/
def least : Int := -Int.pow 2 63

/-- The greatest number of 64 bits. -/
def greatest : Int := Int.pow 2 63 - 1

/-- Whether a number has 64 bits. -/
def fits (n : Int) : Bool :=
  least ≤ n && n ≤ greatest

/-- The number of 64 bits that is nearest. -/
def saturate (n : Int) : Int :=
  max least (min greatest n)

/-- The decimal number that a whole text denotes, if it has 64 bits. -/
def decimal? (s : String) : Option Int :=
  match signed? (digitsIn? 10) s.toList with
  | some (n, rest) => if fits n && rest.all isSpace then some n else none
  | none => none

/-- The number in any base that a whole text denotes, if it has 64 bits. White space alone denotes
zero. -/
def any? (s : String) : Option Int :=
  match signed? natural? s.toList with
  | some (n, rest) => if fits n && rest.all isSpace then some n else none
  | none => if s.toList.all isSpace then some 0 else none

/-- The greatest count or status that an argument may give. -/
def greatestCount : Nat := 1 <<< 31 - 1

/-- The count or status that a whole text denotes. -/
def count? (s : String) : Option Nat :=
  (decimal? s).bind fun n => if 0 ≤ n ∧ n ≤ greatestCount then some n.toNat else none

end RouteKeeper.Shell.Integer
