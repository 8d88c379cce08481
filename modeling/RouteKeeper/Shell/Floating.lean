import RouteKeeper.Shell.Integer

/-!
# Floating-point numbers

Numbers with a mantissa of 53 bits, how a text denotes one, and how one is written in
decimal and in hexadecimal. A number is a fraction until it is rounded, and is rounded
to the nearest one, with a tie to the even neighbour.

## Implementation notes

Exponents of ten beyond four hundred decide the outcome by themselves, so that no power
is larger than it has to be.
-/

namespace RouteKeeper.Shell

/-- A floating-point number. -/
inductive Floating where
  /-- The mantissa times a power of two. -/
  | finite (negative : Bool) (mantissa : Nat) (exponent : Int)
  | infinite (negative : Bool)
  | nan (negative : Bool)
  deriving DecidableEq

namespace Floating

/-- A quotient rounded to the nearest integer, a tie to the even one. -/
def roundedQuotient (n d : Nat) : Nat :=
  let q := n / d
  let r := n % d
  if 2 * r < d then q
  else if 2 * r = d then q + q % 2
  else q + 1

/-- A fraction times a power of a base, as a fraction. -/
def scaled (base : Nat) (exponent : Int) (n d : Nat) : Nat × Nat :=
  if 0 ≤ exponent then (n * Nat.pow base exponent.toNat, d)
  else (n, d * Nat.pow base exponent.natAbs)

/-- The least exponent of a number. -/
def leastExponent : Int := -1074

/-- The greatest exponent of a number. -/
def greatestExponent : Int := 971

/-- The number nearest to a fraction, and whether it is out of range. -/
def ofFraction (negative : Bool) (n d : Nat) : Floating × Bool :=
  if n = 0 then (.finite negative 0 0, false)
  else
    let guess : Int := n.log2 - d.log2 - 52
    let (n', d') := scaled 2 (-guess) n d
    let exponent := if n' < d' * 1 <<< 52 then guess - 1 else guess
    let exponent := max exponent leastExponent
    let (n', d') := scaled 2 (-exponent) n d
    let mantissa := roundedQuotient n' d'
    let (mantissa, exponent) := if mantissa = 1 <<< 53 then (1 <<< 52, exponent + 1)
      else (mantissa, exponent)
    if greatestExponent < exponent then (.infinite negative, true)
    else (.finite negative mantissa exponent, mantissa < 1 <<< 52 && n' % d' ≠ 0)

/-! ## Reading -/

/-- The sign and digits of an exponent, after its letter. -/
def exponent? (cs : List Char) : Option (Int × List Char) :=
  match cs with
  | '-' :: rest => (Integer.digitsIn? 10 rest).map fun (n, rest) => (-(n : Int), rest)
  | '+' :: rest => (Integer.digitsIn? 10 rest).map fun (n, rest) => ((n : Int), rest)
  | rest => (Integer.digitsIn? 10 rest).map fun (n, rest) => ((n : Int), rest)

/-- The exponent at the front, after one of two letters; none stands for zero. -/
def exponentAfter (small large : Char) (cs : List Char) : Int × List Char :=
  match cs with
  | c :: rest => if c == small || c == large then (exponent? rest).getD (0, cs) else (0, cs)
  | [] => (0, [])

/-- Digits with a point among them: all digits, how many of them follow the point, and the rest. -/
def pointed? (base : Nat) (cs : List Char) : Option (List Char × Nat × List Char) :=
  let (whole, rest) := cs.span (Integer.isDigitIn base)
  let (fraction, rest) := match rest with
    | '.' :: after =>
      let (fraction, after) := after.span (Integer.isDigitIn base)
      if whole.isEmpty && fraction.isEmpty then ([], rest) else (fraction, after)
    | rest => ([], rest)
  if whole.isEmpty && fraction.isEmpty then none else some (whole ++ fraction, fraction.length, rest)

/-- A decimal number at the front, and whether it is out of range. -/
def decimal? (negative : Bool) (cs : List Char) : Option ((Floating × Bool) × List Char) :=
  (pointed? 10 cs).map fun (digits, places, rest) =>
    let (exponent, rest) := exponentAfter 'e' 'E' rest
    let n := Integer.valueIn 10 digits
    let size : Int := (digits.dropWhile (· == '0')).length + exponent - places
    if n = 0 then ((.finite negative 0 0, false), rest)
    else if 400 < size then ((.infinite negative, true), rest)
    else if size < -400 then ((.finite negative 0 0, true), rest)
    else
      let (n, d) := scaled 10 (exponent - places) n 1
      (ofFraction negative n d, rest)

/-- A hexadecimal number at the front, after its `0x`. -/
def hexadecimal? (negative : Bool) (cs : List Char) : Option ((Floating × Bool) × List Char) :=
  (pointed? 16 cs).map fun (digits, places, rest) =>
    let (exponent, rest) := exponentAfter 'p' 'P' rest
    let n := Integer.valueIn 16 digits
    let size : Int := 4 * (digits.dropWhile (· == '0')).length + exponent - 4 * places
    if n = 0 then ((.finite negative 0 0, false), rest)
    else if 1200 < size then ((.infinite negative, true), rest)
    else if size < -1200 then ((.finite negative 0 0, true), rest)
    else
      let (n, d) := scaled 2 (exponent - 4 * places) n 1
      (ofFraction negative n d, rest)

/-- Whether a text begins with a word in small or large letters. -/
def begins (word : String) (cs : List Char) : Bool :=
  word.toList.isPrefixOf ((cs.take word.length).map Char.toLower)

/-- What may follow `nan`: some characters in parentheses. -/
def afterNan (cs : List Char) : List Char :=
  match cs with
  | '(' :: rest =>
    match rest.dropWhile fun c => c.isAlphanum || c == '_' with
    | ')' :: rest => rest
    | _ => cs
  | cs => cs

/-- A number without a sign at the front, and whether it is out of range. -/
def unsigned? (negative : Bool) (cs : List Char) : Option ((Floating × Bool) × List Char) :=
  if begins "infinity" cs then some ((.infinite negative, false), cs.drop 8)
  else if begins "inf" cs then some ((.infinite negative, false), cs.drop 3)
  else if begins "nan" cs then some ((.nan negative, false), afterNan (cs.drop 3))
  else
    match cs with
    | '0' :: c :: rest =>
      if c == 'x' || c == 'X' then
        (hexadecimal? negative rest).or (some ((.finite negative 0 0, false), c :: rest))
      else decimal? negative cs
    | cs => decimal? negative cs

/-- The number at the front after white space, whether it is out of range, and the rest. -/
def read? (cs : List Char) : Option ((Floating × Bool) × List Char) :=
  match cs.dropWhile Integer.isSpace with
  | '-' :: rest => unsigned? true rest
  | '+' :: rest => unsigned? false rest
  | rest => unsigned? false rest

/-! ## Writing -/

/-- The digits of a number in a base up to sixteen. -/
def digitsOf (base n : Nat) : List Char :=
  Nat.toDigits base n

/-- Puts zeros in front of digits until there are so many. -/
def zeroFilled (width : Nat) (ds : List Char) : List Char :=
  List.replicate (width - ds.length) '0' ++ ds

/-- A point and the digits after it; a point without digits is written only if it is wanted. -/
def fraction (point : Bool) (ds : List Char) : List Char :=
  if ds.isEmpty && !point then [] else '.' :: ds

/-- The value of a mantissa and an exponent as a fraction. -/
def asFraction (mantissa : Nat) (exponent : Int) : Nat × Nat :=
  scaled 2 exponent mantissa 1

/-- The digits before and after the point, of which there are `places`. -/
def positional (mantissa : Nat) (exponent : Int) (places : Nat) : List Char × List Char :=
  let (n, d) := asFraction mantissa exponent
  let ds := zeroFilled (places + 1) (digitsOf 10 (roundedQuotient (n * Nat.pow 10 places) d))
  ds.splitAt (ds.length - places)

/-- The exponent of ten of the first digit of a fraction that is not zero. -/
def decimalExponent (n d : Nat) : Int :=
  let guess : Int := (digitsOf 10 n).length - (digitsOf 10 d).length
  let (n', d') := scaled 10 (-guess) n d
  if n' < d' then guess - 1 else guess

/-- The first digits of a value, one and `places` more, and the exponent of ten of the first. -/
def significant (mantissa : Nat) (exponent : Int) (places : Nat) : List Char × Int :=
  if mantissa = 0 then (List.replicate (places + 1) '0', 0)
  else
    let (n, d) := asFraction mantissa exponent
    let first := decimalExponent n d
    let (n', d') := scaled 10 (places - first) n d
    let ds := digitsOf 10 (roundedQuotient n' d')
    if ds.length = places + 2 then (ds.take (places + 1), first + 1) else (ds, first)

/-- An exponent of ten as it is written. -/
def exponentText (letter : Char) (exponent : Int) : List Char :=
  letter :: (if exponent < 0 then '-' else '+') :: zeroFilled 2 (digitsOf 10 exponent.natAbs)

/-- A value in scientific notation. -/
def scientific (upper point : Bool) (places mantissa : Nat) (exponent : Int) : List Char :=
  let (ds, first) := significant mantissa exponent places
  ds.take 1 ++ fraction point (ds.drop 1) ++ exponentText (if upper then 'E' else 'e') first

/-- Takes zeros from the end of digits. -/
def withoutZeros (ds : List Char) : List Char :=
  (ds.reverse.dropWhile (· == '0')).reverse

/-- A value with so many significant digits, in the shorter notation; zeros at the end are written
only if the point is wanted. -/
def general (upper point : Bool) (digits mantissa : Nat) (exponent : Int) : List Char :=
  let digits := max digits 1
  let (ds, first) := significant mantissa exponent (digits - 1)
  let trimmed (cs : List Char) := if point then cs else withoutZeros cs
  if -4 ≤ first ∧ first < digits then
    let (whole, rest) := positional mantissa exponent (digits - 1 - first).toNat
    whole ++ fraction point (trimmed rest)
  else
    ds.take 1 ++ fraction point (trimmed (ds.drop 1)) ++
      exponentText (if upper then 'E' else 'e') first

/-- A value in hexadecimal, after its `0x`, with so many places or as many as it takes. -/
def hexadecimal (upper point : Bool) (places : Option Nat) (mantissa : Nat) (exponent : Int) :
    List Char :=
  let (mantissa, exponent) : Nat × Int := if mantissa = 0 then (0, 0) else (mantissa, exponent + 52)
  let (mantissa, length) := match places with
    | some p => if p < 13 then (roundedQuotient mantissa (1 <<< (4 * (13 - p))), p) else (mantissa, 13)
    | none => (mantissa, 13)
  let ds := zeroFilled (length + 1) (digitsOf 16 mantissa)
  let rest := ds.drop 1
  let rest := match places with
    | some p => rest ++ List.replicate (p - length) '0'
    | none => withoutZeros rest
  let text := ds.take 1 ++ fraction point rest ++
    ['p', if exponent < 0 then '-' else '+'] ++ digitsOf 10 exponent.natAbs
  if upper then text.map Char.toUpper else text

end Floating

end RouteKeeper.Shell
