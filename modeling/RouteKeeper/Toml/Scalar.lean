import RouteKeeper.Text.Number
import RouteKeeper.Toml.Value

/-!
# TOML scalars without quotes

Truth values, integers in four bases, floating-point numbers, and dates and times.
A scalar is a run of characters; each reader takes the whole run or refuses it.
-/

namespace RouteKeeper.Toml

/-- The characters that a scalar is made of. -/
def isScalarChar (c : Char) : Bool :=
  c.isAlphanum || c == '_' || c == '+' || c == '-' || c == '.' || c == ':'

/-- Takes out underscores that stand between two digits; another underscore is refused. -/
def joinDigits (isDigit : Char → Bool) : List Char → Option (List Char)
  | [] => none
  | [c] => if isDigit c then some [c] else none
  | c :: '_' :: rest => if isDigit c then (joinDigits isDigit rest).map (c :: ·) else none
  | c :: rest => if isDigit c then (joinDigits isDigit rest).map (c :: ·) else none

/-- The value of a digit up to the base of sixteen, in either case. -/
def digitValue (c : Char) : Nat :=
  if c.isDigit then c.toNat - 48 else if c.isUpper then c.toNat - 55 else c.toNat - 87

/-- The number with the given digits. -/
def ofDigits (base : Nat) (ds : List Char) : Nat :=
  ds.foldl (fun n c => n * base + digitValue c) 0

/-- A hexadecimal digit. -/
def isHexDigit (c : Char) : Bool :=
  c.isDigit || ('a' ≤ c && c ≤ 'f') || ('A' ≤ c && c ≤ 'F')

/-- A number with digits of the given base. -/
def digitsIn? (base : Nat) (isDigit : Char → Bool) (cs : List Char) : Option Nat :=
  (joinDigits isDigit cs).map (ofDigits base)

/-- The digits of a decimal number without leading zeros. -/
def wholeDigits? (cs : List Char) : Option (List Char) :=
  (joinDigits Char.isDigit cs).filter fun ds => ds.length == 1 || ds.head? != some '0'

/-- A sign and what follows it. -/
def splitSign : List Char → Bool × List Char
  | '-' :: rest => (true, rest)
  | '+' :: rest => (false, rest)
  | cs => (false, cs)

/-- An integer in any of the four bases; only a decimal one has a sign. -/
def integer? (cs : List Char) : Option Int :=
  match cs with
  | '0' :: 'x' :: ds => (digitsIn? 16 isHexDigit ds).map Int.ofNat
  | '0' :: 'o' :: ds => (digitsIn? 8 (fun c => '0' ≤ c && c ≤ '7') ds).map Int.ofNat
  | '0' :: 'b' :: ds => (digitsIn? 2 (fun c => c == '0' || c == '1') ds).map Int.ofNat
  | cs =>
    let (negative, ds) := splitSign cs
    (wholeDigits? ds).map fun ds =>
      if negative then -(Int.ofNat (ofDigits 10 ds)) else Int.ofNat (ofDigits 10 ds)

/-- The least and the greatest integer that a document can hold. -/
def isHeld (n : Int) : Bool :=
  -Int.pow 2 127 ≤ n && n < Int.pow 2 128

/-- Splits a number into the digits before the point, those after it and the exponent. -/
def floatParts (cs : List Char) : List Char × Option (List Char) × Option (List Char) :=
  let isMark (c : Char) : Bool := c == 'e' || c == 'E'
  let mantissa := cs.takeWhile (!isMark ·)
  let exponent := (cs.dropWhile (!isMark ·)).tail?
  let whole := mantissa.takeWhile (· != '.')
  let fraction := (mantissa.dropWhile (· != '.')).tail?
  (whole, fraction, exponent)

/-- Whether digits with a decimal exponent stand for a number too great for 64 bits, which is so
from halfway between the greatest number and the next power of two on. -/
def overflows (ds : List Char) (exponent : Int) : Bool :=
  let n := ofDigits 10 ds
  let size : Int := ds.length + exponent
  if n = 0 ∨ size < 300 then false
  else if (ds.length : Int) + exponent - (ds.takeWhile (· == '0')).length > 400 then true
  else
    let limit := 1 <<< 1024 - 1 <<< 970
    let scale := Nat.pow 10 exponent.natAbs
    if exponent < 0 then limit * scale ≤ n else limit ≤ n * scale

/-- Whether a run of characters is a floating-point number within range. -/
def isFloat (cs : List Char) : Bool :=
  let (_, cs) := splitSign cs
  if cs = "inf".toList ∨ cs = "nan".toList then true
  else
    let (whole, fraction, exponent) := floatParts cs
    let whole := wholeDigits? whole
    let fractionDigits := (fraction.map (joinDigits Char.isDigit)).getD (some [])
    let (negative, exponentCs) := splitSign (exponent.getD ['0'])
    let exponentDigits := joinDigits Char.isDigit exponentCs
    match whole, fractionDigits, exponentDigits with
    | some w, some f, some e =>
      let e : Int := ofDigits 10 e
      (fraction.isSome || exponent.isSome) &&
        !overflows (w ++ f) ((if negative then -e else e) - f.length)
    | _, _, _ => false

/-- A number of exactly the given number of digits, within bounds. -/
def fixed? (width low high : Nat) (cs : List Char) : Option Nat :=
  if cs.length = width then (Text.number? cs).filter fun n => low ≤ n && n ≤ high else none

/-- The number of days of a month. -/
def daysIn (year month : Nat) : Nat :=
  if month = 2 then
    if (year % 4 = 0 ∧ year % 100 ≠ 0) ∨ year % 400 = 0 then 29 else 28
  else if month = 4 ∨ month = 6 ∨ month = 9 ∨ month = 11 then 30 else 31

/-- Whether a run of characters is a date. -/
def isDate (cs : List Char) : Bool :=
  match cs with
  | [y₁, y₂, y₃, y₄, '-', m₁, m₂, '-', d₁, d₂] =>
    match fixed? 4 0 9999 [y₁, y₂, y₃, y₄], fixed? 2 1 12 [m₁, m₂] with
    | some year, some month => (fixed? 2 1 (daysIn year month) [d₁, d₂]).isSome
    | _, _ => false
  | _ => false

/-- Whether a run of characters is a time to the minute, the second or a part of it. -/
def isTime (cs : List Char) : Bool :=
  match cs with
  | h₁ :: h₂ :: ':' :: m₁ :: m₂ :: rest =>
    (fixed? 2 0 23 [h₁, h₂]).isSome && (fixed? 2 0 59 [m₁, m₂]).isSome &&
    match rest with
    | [] => true
    | ':' :: s₁ :: s₂ :: rest =>
      (fixed? 2 0 60 [s₁, s₂]).isSome &&
      match rest with
      | [] => true
      | '.' :: ds => (Text.number? ds).isSome
      | _ => false
    | _ => false
  | _ => false

/-- Whether a run of characters is an offset from universal time. -/
def isOffset (cs : List Char) : Bool :=
  match cs with
  | ['Z'] | ['z'] => true
  | [sign, h₁, h₂, ':', m₁, m₂] =>
    (sign == '+' || sign == '-') && (fixed? 2 0 23 [h₁, h₂]).isSome &&
      (fixed? 2 0 59 [m₁, m₂]).isSome
  | _ => false

/-- Whether a run of characters is a time with or without an offset. -/
def isOffsetTime (cs : List Char) : Bool :=
  let startsOffset (c : Char) : Bool := c == 'Z' || c == 'z' || c == '+' || c == '-'
  let offset := cs.dropWhile (!startsOffset ·)
  isTime (cs.takeWhile (!startsOffset ·)) && (offset.isEmpty || isOffset offset)

/-- Whether a run of characters is a date, a time, or both with or without an offset. -/
def isDatetime (cs : List Char) : Bool :=
  isDate cs || isTime cs ||
    (isDate (cs.take 10) &&
      match cs.drop 10 with
      | c :: time => (c == 'T' || c == 't' || c == ' ') && isOffsetTime time
      | [] => false)

/-- Takes the characters of a scalar. A date may be followed by a blank and a time. -/
def scalarRun (cs : List Char) : List Char × List Char :=
  let run := cs.takeWhile isScalarChar
  let rest := cs.dropWhile isScalarChar
  match rest with
  | ' ' :: c :: _ =>
    if isDate run && c.isDigit then
      (run ++ ' ' :: rest.tail.takeWhile isScalarChar, rest.tail.dropWhile isScalarChar)
    else (run, rest)
  | _ => (run, rest)

/-- The value of a scalar. -/
def scalar? (cs : List Char) : Option Value :=
  if cs = "true".toList then some (.boolean true)
  else if cs = "false".toList then some (.boolean false)
  else match integer? cs with
    | some n => if isHeld n then some (.integer n) else none
    | none =>
      if isFloat cs then some (.float cs)
      else if isDatetime cs then some (.datetime cs)
      else none

end RouteKeeper.Toml
