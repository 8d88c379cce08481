/-!
# Decimal numbers

Decimal digits as characters, the number that a run of digits denotes, and the
shortest run that denotes a number.
-/

namespace RouteKeeper.Text

/-- The value of an ASCII decimal digit. -/
def digit? (c : Char) : Option Nat :=
  if '0' ≤ c ∧ c ≤ '9' then some (c.toNat - '0'.toNat) else none

/-- A character is a digit when it is one of the ten ASCII decimal digits. -/
def isDigit (c : Char) : Bool :=
  (digit? c).isSome

/-- The character of a digit; numbers above nine are written as `9`. -/
def digitChar (n : Nat) : Char :=
  match n with
  | 0 => '0' | 1 => '1' | 2 => '2' | 3 => '3' | 4 => '4'
  | 5 => '5' | 6 => '6' | 7 => '7' | 8 => '8' | _ => '9'

/-- Reads digits from the most significant one on, continuing the number read so far. -/
def readDigits (soFar : Nat) : List Char → Option Nat
  | [] => some soFar
  | c :: rest => (digit? c).bind fun d => readDigits (10 * soFar + d) rest

/-- The number denoted by a non-empty run of decimal digits; leading zeros are allowed. -/
def number? : List Char → Option Nat
  | [] => none
  | c :: rest => readDigits 0 (c :: rest)

/-- The decimal digits of a number, without leading zeros. -/
def digits (n : Nat) : List Char :=
  if n < 10 then [digitChar n] else digits (n / 10) ++ [digitChar (n % 10)]
termination_by n
decreasing_by omega

/-- A number in decimal, with a minus sign when it is negative. -/
def intDigits (i : Int) : List Char :=
  if i < 0 then '-' :: digits i.natAbs else digits i.natAbs

/-- A number in decimal as a string. -/
def decimal (n : Nat) : String :=
  String.ofList (digits n)

/-- A signed number in decimal as a string. -/
def decimalInt (i : Int) : String :=
  String.ofList (intDigits i)

end RouteKeeper.Text
