import RouteKeeper.Json.Value
import RouteKeeper.Text.Number

/-!
# Reading JSON

Readers take the characters that are left and return what they read with the rest,
or nothing if the text is malformed. A value may nest as deep as the text is long.

## Implementation notes

The readers that go down into arrays and objects count down a fuel. Each level
takes at least one character, so the length of the text is fuel enough.
-/

namespace RouteKeeper.Json

/-- The characters that may stand between the parts of a JSON text. -/
def isSpace (c : Char) : Bool :=
  c == ' ' || c == '\n' || c == '\t' || c == '\r'

/-- Passes over spaces. -/
def skipSpace (cs : List Char) : List Char :=
  cs.dropWhile isSpace

/-- The value of a hexadecimal digit in either case. -/
def hexValue? (c : Char) : Option Nat :=
  if '0' ≤ c ∧ c ≤ '9' then some (c.toNat - 48)
  else if 'a' ≤ c ∧ c ≤ 'f' then some (c.toNat - 87)
  else if 'A' ≤ c ∧ c ≤ 'F' then some (c.toNat - 55)
  else none

/-- Reads the four hexadecimal digits of an escape. -/
def unit? : List Char → Option (Nat × List Char)
  | a :: b :: c :: d :: rest => do
    return (4096 * (← hexValue? a) + 256 * (← hexValue? b) + 16 * (← hexValue? c) + (← hexValue? d),
      rest)
  | _ => none

/-- A leading surrogate, the first half of a pair. -/
def isLeading (n : Nat) : Bool :=
  0xd800 ≤ n && n ≤ 0xdbff

/-- A trailing surrogate, the second half of a pair. -/
def isTrailing (n : Nat) : Bool :=
  0xdc00 ≤ n && n ≤ 0xdfff

/-- The point of a 16-bit unit that has no other half. -/
def pointOf (n : Nat) : Point :=
  if isLeading n || isTrailing n then .surrogate n else .char (Char.ofNat n)

/-- Puts a unit before the points read after it; a leading surrogate joins a trailing one that
was spelt right after it. -/
def joinUnit (n : Nat) (trailing : Option Nat) (ps : List Point) : List Point :=
  match trailing, ps with
  | some m, .surrogate _ :: rest =>
    .char (Char.ofNat (0x10000 + (n - 0xd800) * 0x400 + (m - 0xdc00))) :: rest
  | _, ps => pointOf n :: ps

/-- The trailing surrogate that an escape at the front spells. -/
def trailing? : List Char → Option Nat
  | '\\' :: 'u' :: rest => ((unit? rest).map (·.1)).filter isTrailing
  | _ => none

/-- The character that a one-letter escape stands for. -/
def escaped? : Char → Option Char
  | '"' => some '"'
  | '\\' => some '\\'
  | '/' => some '/'
  | 'b' => some '\x08'
  | 'f' => some '\x0c'
  | 'n' => some '\n'
  | 'r' => some '\r'
  | 't' => some '\t'
  | _ => none

/-- Reads a string after its opening quote. -/
def stringBody : Nat → List Char → Option (List Point × List Char)
  | 0, _ => none
  | _ + 1, [] => none
  | _ + 1, '"' :: rest => some ([], rest)
  | fuel + 1, '\\' :: 'u' :: rest => do
    let (n, rest) ← unit? rest
    let (ps, after) ← stringBody fuel rest
    return (joinUnit n (if isLeading n then trailing? rest else none) ps, after)
  | fuel + 1, '\\' :: c :: rest => do
    let c ← escaped? c
    let (ps, after) ← stringBody fuel rest
    return (.char c :: ps, after)
  | fuel + 1, c :: rest =>
    if c == '\\' || c.toNat < 32 then none
    else do
      let (ps, after) ← stringBody fuel rest
      return (.char c :: ps, after)

/-- Reads a non-empty run of digits. -/
def digitRun (cs : List Char) : Option (List Char × List Char) :=
  match cs.span Text.isDigit with
  | ([], _) => none
  | (ds, rest) => some (ds, rest)

/-- Reads the part of a number before a point or exponent: no leading zeros. -/
def integerPart (cs : List Char) : Option (List Char × List Char) := do
  let (ds, rest) ← digitRun cs
  if ds.head? = some '0' ∧ ds.length ≠ 1 then none else some (ds, rest)

/-- Reads the point and the digits after it, if they are there. -/
def fractionPart : List Char → Option (List Char × List Char)
  | '.' :: rest => (digitRun rest).map fun (ds, rest) => ('.' :: ds, rest)
  | cs => some ([], cs)

/-- Reads a sign, if there is one. -/
def signPart : List Char → List Char × List Char
  | '+' :: rest => (['+'], rest)
  | '-' :: rest => (['-'], rest)
  | cs => ([], cs)

/-- Reads the exponent, if there is one. -/
def exponentPart : List Char → Option (List Char × List Char)
  | c :: rest =>
    if c == 'e' || c == 'E' then do
      let (sign, rest) := signPart rest
      let (ds, rest) ← digitRun rest
      return (c :: (sign ++ ds), rest)
    else some ([], c :: rest)
  | [] => some ([], [])

/-- Reads a number and keeps its spelling. -/
def number (cs : List Char) : Option (List Char × List Char) := do
  let (minus, cs) := match cs with
    | '-' :: rest => (['-'], rest)
    | cs => ([], cs)
  let (whole, cs) ← integerPart cs
  let (fraction, cs) ← fractionPart cs
  let (exponent, cs) ← exponentPart cs
  return (minus ++ whole ++ fraction ++ exponent, cs)

/-- Reads a string with its quotes. -/
def string : List Char → Option (List Point × List Char)
  | '"' :: rest => stringBody (rest.length + 1) rest
  | _ => none

/-- Reads a fixed word. -/
def word (w : List Char) (v : Value) (cs : List Char) : Option (Value × List Char) :=
  if w.isPrefixOf cs then some (v, cs.drop w.length) else none

/-- Reads the name of a member with the colon after it. -/
def memberName (cs : List Char) : Option (List Point × List Char) := do
  let (name, rest) ← string (skipSpace cs)
  match skipSpace rest with
  | ':' :: rest => some (name, rest)
  | _ => none

mutual

/-- Reads a value, with spaces before it. -/
def value : Nat → List Char → Option (Value × List Char)
  | 0, _ => none
  | fuel + 1, cs =>
    match skipSpace cs with
    | 'n' :: rest => word "ull".toList .null rest
    | 't' :: rest => word "rue".toList (.bool true) rest
    | 'f' :: rest => word "alse".toList (.bool false) rest
    | '"' :: rest => (string ('"' :: rest)).map fun (ps, rest) => (.string ps, rest)
    | '[' :: rest =>
      match skipSpace rest with
      | ']' :: rest => some (.array [], rest)
      | rest => (items fuel rest).map fun (vs, rest) => (.array vs, rest)
    | '{' :: rest =>
      match skipSpace rest with
      | '}' :: rest => some (.object [], rest)
      | rest => (members fuel rest).map fun (ms, rest) => (.object ms, rest)
    | rest => (number rest).map fun (spelling, rest) => (.number spelling, rest)

/-- Reads items separated by commas, to the closing bracket. -/
def items : Nat → List Char → Option (List Value × List Char)
  | 0, _ => none
  | fuel + 1, cs => do
    let (v, rest) ← value fuel cs
    match skipSpace rest with
    | ']' :: rest => some ([v], rest)
    | ',' :: rest => (items fuel rest).map fun (vs, rest) => (v :: vs, rest)
    | _ => none

/-- Reads members separated by commas, to the closing brace. -/
def members : Nat → List Char → Option (List (List Point × Value) × List Char)
  | 0, _ => none
  | fuel + 1, cs => do
    let (name, rest) ← memberName cs
    let (v, rest) ← value fuel rest
    match skipSpace rest with
    | '}' :: rest => some ([(name, v)], rest)
    | ',' :: rest => (members fuel rest).map fun (ms, rest) => ((name, v) :: ms, rest)
    | _ => none

end

/-- Reads a whole text as one value. -/
def parse (s : String) : Option Value := do
  let (v, rest) ← value (s.toList.length + 1) s.toList
  if (skipSpace rest).isEmpty then some v else none

end RouteKeeper.Json
