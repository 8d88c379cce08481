import RouteKeeper.Shell.Escape
import RouteKeeper.Shell.Floating

/-!
# Formats

What `printf` writes: a format with conversions, which is used again until all
arguments are converted.

## Implementation notes

An argument that cannot be converted as a whole is complained about, and what can be
converted of it is written. A mistake in the format ends the writing.
-/

namespace RouteKeeper.Shell.Printf

/-- A conversion of a format, without its letter. -/
structure Conversion where
  flags : List Char
  /-- The least number of characters. -/
  width : Nat := 0
  /-- The greatest number of characters, or the least number of digits. -/
  precision : Option Nat := none
  deriving DecidableEq

/-- Whether a conversion has a flag. -/
def Conversion.has (c : Conversion) (flag : Char) : Bool :=
  c.flags.contains flag

/-- Fills up to the width with blanks. -/
def Conversion.pad (c : Conversion) (cs : List Char) : List Char :=
  let fill := List.replicate (c.width - cs.length) ' '
  if c.has '-' then cs ++ fill else fill ++ cs

/-- Fills up to the width with zeros between a start and digits, or with blanks. -/
def Conversion.fill (c : Conversion) (zeros : Bool) (start digits : List Char) : List Char :=
  let missing := c.width - start.length - digits.length
  let zeros := if zeros && c.has '0' && !c.has '-' then List.replicate missing '0' else []
  c.pad (start ++ zeros ++ digits)

/-- Converts a text, of which the precision leaves the beginning. -/
def Conversion.text (c : Conversion) (cs : List Char) : List Char :=
  c.pad (match c.precision with
    | some n => cs.take n
    | none => cs)

/-- The sign of a number. -/
def Conversion.sign (c : Conversion) (negative : Bool) : List Char :=
  if negative then ['-'] else if c.has '+' then ['+'] else if c.has ' ' then [' '] else []

/-- The digits of an integer; the precision has the least number of them, and without any the digits
of zero are none. -/
def Conversion.digits (c : Conversion) (base n : Nat) : List Char :=
  let ds := if n = 0 then [] else Floating.digitsOf base n
  Floating.zeroFilled (c.precision.getD 1) ds

/-- Converts an integer with a sign. -/
def Conversion.signed (c : Conversion) (n : Int) : List Char :=
  c.fill c.precision.isNone (c.sign (n < 0)) (c.digits 10 n.natAbs)

/-- Converts an integer without a sign. -/
def Conversion.unsigned (c : Conversion) (letter : Char) (n : Nat) : List Char :=
  let zeros := c.precision.isNone
  match letter with
  | 'o' =>
    let ds := c.digits 8 n
    c.fill zeros [] (if c.has '#' && ds.head? ≠ some '0' then '0' :: ds else ds)
  | 'x' => c.fill zeros (if c.has '#' && n ≠ 0 then ['0', 'x'] else []) (c.digits 16 n)
  | 'X' =>
    let ds := (c.digits 16 n).map Char.toUpper
    c.fill zeros (if c.has '#' && n ≠ 0 then ['0', 'X'] else []) ds
  | _ => c.fill zeros [] (c.digits 10 n)

/-- Converts a floating-point number. -/
def Conversion.floating (c : Conversion) (letter : Char) (x : Floating) : List Char :=
  let upper := letter.isUpper
  let point := c.has '#'
  let named (negative : Bool) (name : String) : List Char :=
    c.pad (c.sign negative ++ name.toList.map fun d => if upper then d.toUpper else d)
  match x with
  | .infinite negative => named negative "inf"
  | .nan negative => named negative "nan"
  | .finite negative mantissa exponent =>
    let places := c.precision.getD 6
    let start := c.sign negative
    match letter.toLower with
    | 'f' =>
      let (whole, rest) := Floating.positional mantissa exponent places
      c.fill true start (whole ++ Floating.fraction point rest)
    | 'e' => c.fill true start (Floating.scientific upper point places mantissa exponent)
    | 'g' => c.fill true start (Floating.general upper point places mantissa exponent)
    | _ =>
      c.fill true (start ++ ['0', if upper then 'X' else 'x'])
        (Floating.hexadecimal upper point c.precision mantissa exponent)

/-! ## Arguments -/

/-- What is wrong with an argument of which `rest` could not be converted. -/
def complaint? (argument : String) (rest : Option (List Char)) (inRange : Bool) : Option String :=
  match rest with
  | none => if argument.isEmpty then none else some (argument ++ ": expected numeric value")
  | some [] => if inRange then none else some (argument ++ ": Numerical result out of range")
  | some _ => some (argument ++ ": not completely converted")

/-- The code of the character after a quote, if an argument begins with one. -/
def quoted? (argument : String) : Option Nat :=
  match argument.toList with
  | '\'' :: rest | '"' :: rest => some ((rest.head?.map Char.toNat).getD 0)
  | _ => none

/-- The number with a sign that an argument denotes, and what is wrong with the argument. -/
def signedOf (argument : String) : Int × Option String :=
  match quoted? argument, Integer.signed? Integer.natural? argument.toList with
  | some code, _ => (code, none)
  | none, some (n, rest) =>
    (Integer.saturate n, complaint? argument (some rest) (Integer.fits n))
  | none, none => (0, complaint? argument none true)

/-- The number without a sign that an argument denotes, and what is wrong with the argument. -/
def unsignedOf (argument : String) : Nat × Option String :=
  match quoted? argument, Integer.signed? Integer.natural? argument.toList with
  | some code, _ => (code, none)
  | none, some (n, rest) =>
    let inRange := n.natAbs < 1 <<< 64
    let value := if inRange then (n % Int.pow 2 64).toNat else 1 <<< 64 - 1
    (value, complaint? argument (some rest) inRange)
  | none, none => (0, complaint? argument none true)

/-- The floating-point number that an argument denotes, and what is wrong with the argument. -/
def floatingOf (argument : String) : Floating × Option String :=
  match quoted? argument, Floating.read? argument.toList with
  | some code, _ => ((Floating.ofFraction false code 1).1, none)
  | none, some ((x, outOfRange), rest) => (x, complaint? argument (some rest) (!outOfRange))
  | none, none => (.finite false 0 0, complaint? argument none true)

/-! ## Writing -/

/-- What has been written so far, backwards, and what was wrong. -/
structure Progress where
  written : List Char := []
  complaints : List String := []
  arguments : List String
  status : Nat := 0

/-- How the writing of a format ends. -/
inductive Ending where
  /-- All of it is written. -/
  | complete
  /-- An argument ended it. -/
  | ended
  /-- The format has a mistake. -/
  | failed (complaint : String)
  deriving DecidableEq

/-- Writes through a state. -/
abbrev Writing := StateM Progress

/-- Takes the next argument; one that is missing is empty. -/
def nextArgument : Writing String :=
  modifyGet fun p => (p.arguments.headD "", { p with arguments := p.arguments.tail })

/-- Adds characters to what is written. -/
def put (cs : List Char) : Writing Unit :=
  modify fun p => { p with written := cs.reverse ++ p.written }

/-- Takes note of what is wrong with an argument. -/
def note : Option String → Writing Unit
  | none => return ()
  | some text => modify fun p => { p with complaints := text :: p.complaints, status := 1 }

/-- The integer of 32 bits that a number leaves. -/
def ofWord (n : Int) : Int :=
  n.bmod (1 <<< 32)

/-- A width or precision in a format, or the one that a star takes from the arguments. -/
def measure (cs : List Char) : Writing (Option Int × List Char) := do
  match cs with
  | '*' :: rest => do
    let (n, wrong) := signedOf (← nextArgument)
    note wrong
    return (some (ofWord n), rest)
  | cs =>
    let (ds, rest) := cs.span Char.isDigit
    return (if ds.isEmpty then none else some (Integer.valueIn 10 ds), rest)

/-- Converts the next argument by a letter; tells whether the letter is known, and whether the
argument ends the writing. -/
def convert (c : Conversion) (letter : Char) : Writing (Option Bool) := do
  match letter with
  | 's' => do
    put (c.text (← nextArgument).toList)
    return some false
  | 'b' => do
    let x ← nextArgument
    let (cs, ended) := Escape.expand x.length x.toList
    put (c.text cs)
    return some ended
  | 'c' => do
    put (c.pad [(← nextArgument).toList.headD '\x00'])
    return some false
  | _ =>
    if letter == 'd' || letter == 'i' then do
      let (n, wrong) := signedOf (← nextArgument)
      note wrong
      put (c.signed n)
      return some false
    else if "ouxX".toList.contains letter then do
      let (n, wrong) := unsignedOf (← nextArgument)
      note wrong
      put (c.unsigned letter n)
      return some false
    else if "aAeEfFgG".toList.contains letter then do
      let (x, wrong) := floatingOf (← nextArgument)
      note wrong
      put (c.floating letter x)
      return some false
    else return none

/-- The greatest width. -/
def greatestWidth : Nat := 1 <<< 31 - 2

/-- Writes a format once. -/
def once : Nat → List Char → Writing Ending
  | _, [] => return .complete
  | 0, _ => return .complete
  | fuel + 1, '\\' :: cs => do
    let (c, rest) := Escape.afterBackslash cs
    put [c]
    once fuel rest
  | fuel + 1, '%' :: '%' :: cs => do
    put ['%']
    once fuel cs
  | fuel + 1, '%' :: cs => do
    let (flags, rest) := cs.span ("#-+ 0".toList.contains ·)
    let (width, rest) ← measure rest
    let (precision, rest) ← match rest with
      | '.' :: rest => do
        let (precision, rest) ← measure rest
        pure (some (precision.getD 0), rest)
      | rest => pure (none, rest)
    match rest with
    | [] => return .failed "missing format character"
    | letter :: after =>
      let width := width.getD 0
      let flags := if width < 0 then '-' :: flags else flags
      let c : Conversion :=
        ⟨flags, width.natAbs, precision.bind fun p => if p < 0 then none else some p.toNat⟩
      if greatestWidth < c.width || c.precision.any (greatestWidth < ·) then
        return .failed "xvsnprintf failed"
      match ← convert c letter with
      | some false => once fuel after
      | some true => return .ended
      | none =>
        let directive := '%' :: cs.take (cs.length - after.length)
        return .failed (String.ofList directive ++ ": invalid directive")
  | fuel + 1, c :: cs => do
    put [c]
    once fuel cs

/-- Writes a format again as long as it takes arguments and some are left. -/
def again : Nat → List Char → Writing Ending
  | 0, _ => return .complete
  | fuel + 1, format => do
    let before := (← get).arguments.length
    match ← once format.length format with
    | .complete =>
      let left := (← get).arguments.length
      if 0 < left && left < before then again fuel format else return .complete
    | ending => return ending

/-- Writes arguments by a format: what is written, what is wrong, and the status. -/
def write (format : String) (arguments : List String) : String × List String × Nat :=
  let (ending, p) := (again (arguments.length + 1) format.toList).run { arguments }
  let (complaints, status) := match ending with
    | .failed complaint => (complaint :: p.complaints, 2)
    | _ => (p.complaints, p.status)
  (String.ofList p.written.reverse, complaints.reverse, status)

end RouteKeeper.Shell.Printf
