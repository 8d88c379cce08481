import RouteKeeper.Shell.Printf
import RouteKeeper.Shell.Regex
import RouteKeeper.Shell.Utility.Basic

/-!
# Programs that calculate

The program that writes the numbers of a sequence, and the one that evaluates an
expression.
-/

namespace RouteKeeper.Shell.Utility

/-! ## Sequences -/

/-- A decimal number: so many units of its last place. -/
structure Decimal where
  units : Int
  places : Nat
  /-- How many characters it was written with. -/
  length : Nat

/-- The decimal number that a text spells. -/
def Decimal.ofText? (s : String) : Option Decimal :=
  let (negative, cs) := match s.toList with
    | '-' :: rest => (true, rest)
    | '+' :: rest => (false, rest)
    | cs => (false, cs)
  let (whole, rest) := cs.span Char.isDigit
  let (part, rest) := match rest with
    | '.' :: rest => rest.span Char.isDigit
    | rest => ([], rest)
  let exponent : Option Int := match rest with
    | [] => some 0
    | e :: rest => if e == 'e' || e == 'E' then integer? (String.ofList rest) else none
  if whole.isEmpty && part.isEmpty then none
  else exponent.map fun e =>
    let n : Int := Integer.valueIn 10 (whole ++ part)
    let n := if negative then -n else n
    let places : Int := part.length - e
    ⟨n * Int.pow 10 (-places).toNat, places.toNat, s.length⟩

/-- A decimal number in units of another place. -/
def Decimal.scaled (d : Decimal) (places : Nat) : Int :=
  d.units * Int.pow 10 (places - d.places)

/-- A number of units of a place as it is written, filled up with zeros. -/
def decimalText (places width : Nat) (n : Int) : String :=
  let ds := Nat.toDigits 10 n.natAbs
  let ds := List.replicate (places + 1 - ds.length) '0' ++ ds
  let text := ds.take (ds.length - places) ++
    if places = 0 then [] else '.' :: ds.drop (ds.length - places)
  let sign : List Char := if n < 0 then ['-'] else []
  String.ofList (sign ++ List.replicate (width - sign.length - text.length) '0' ++ text)

/-- Whether an argument begins like an option and not like a negative number. -/
def isOption (x : String) : Bool :=
  match x.toList with
  | '-' :: c :: _ => !(c.isDigit || c == '.')
  | _ => false

/-- The arguments of `seq`: options end at the first number, which may be negative. -/
def splitNumbers : List String → List String × List String
  | [] => ([], [])
  | [x] => if isOption x then ([x], []) else ([], [x])
  | x :: value :: rest =>
    if !isOption x then ([], x :: value :: rest)
    else if x == "-s" || x == "-f" then
      let (more, numbers) := splitNumbers rest
      (x :: value :: more, numbers)
    else
      let (more, numbers) := splitNumbers (value :: rest)
      (x :: more, numbers)

/-- Writes the numbers from a first one to a last one. -/
def seq : Utility := fun arguments => do
  let (options, numbers) := splitNumbers arguments
  let a ← readArguments
    { letters := "f:s:w", names := [("separator", 's'), ("equal-width", 'w'), ("format", 'f')] }
    options
  let numbers := a.others ++ numbers
  if numbers.isEmpty then refuse "missing operand"
  if 3 < numbers.length then
    refuse ("extra operand " ++ quoted (numbers.getD 3 ""))
  let ds ← numbers.mapM fun x =>
    match Decimal.ofText? x with
    | some d => pure d
    | none => refuse ("invalid floating point argument: " ++ quoted x)
  let one : Decimal := ⟨1, 0, 1⟩
  let (first, step, last) := match ds with
    | [last] => (one, one, last)
    | [first, last] => (first, one, last)
    | [first, step, last] => (first, step, last)
    | _ => (one, one, one)
  if step.units = 0 then
    refuse ("invalid Zero increment value: " ++ quoted (numbers.getD 1 ""))
  let places := max first.places step.places
  let common := max places last.places
  let low := first.scaled common
  let by_ := step.scaled common
  let high := last.scaled common
  let count := if 0 < by_ then (high - low) / by_ + 1 else (low - high) / (-by_) + 1
  let shown (i : Nat) : Int := first.scaled places + step.scaled places * i
  let text (width : Nat) (i : Nat) : String :=
    match a.value? 'f' with
    | some format => (Printf.write format [decimalText places 0 (shown i)]).1
    | none => decimalText places width (shown i)
  let width := if a.has 'w' then
      max (text 0 0).length (text 0 (count.toNat - 1)).length
    else 0
  let separator := (a.value? 's').getD "\n"
  if 0 < count then
    let block : Nat := 4096
    for start in List.range (count.toNat / block + 1) do
      let from_ := start * block
      let left := min block (count.toNat - from_)
      let texts := (List.range' from_ left).map fun i =>
        text width i ++ if i + 1 = count.toNat then "\n" else separator
      put (String.join texts)
  return 0

/-! ## Expressions -/

/-- What an expression comes to: a text, which may be an integer. -/
abbrev Evaluate := StateT (List String) (Except String)

/-- Whether a value counts as false. -/
def isNull (s : String) : Bool :=
  s.isEmpty || (integer? s = some 0 && !s.startsWith "+") 

/-- The integer that a value is. -/
def asInteger (s : String) : Evaluate Int :=
  match integer? s with
  | some n => if s.startsWith "+" then throw "non-integer argument" else return n
  | none => throw "non-integer argument"

/-- Takes the next argument if it is one of some operators. -/
def operator? (operators : List String) : Evaluate (Option String) := do
  match ← get with
  | x :: rest =>
    if operators.contains x then do
      set rest
      return some x
    else return none
  | [] => return none

/-- What a pattern matches at the start of a text: the first group, or the number of characters. -/
def matched (text pattern : String) : Evaluate String := do
  match Regex.ofText false pattern.toList with
  | .error complaint => throw complaint
  | .ok r =>
    let hasGroup := (pattern.toList.zip pattern.toList.tail).contains ('\\', '(')
    match Regex.matchAt? r false { rest := text.toList } with
    | none => return if hasGroup then "" else "0"
    | some (part, place) =>
      if hasGroup then return String.ofList ((place.groups.lookup 1).getD [])
      else return Text.decimal part.length

/-- Joins values by operators of one rank, from the left to the right. -/
def joinWith (operators : List String) (next : Evaluate String)
    (apply : (operator left right : String) → Evaluate String) : Nat → String → Evaluate String
  | 0, left => return left
  | fuel + 1, left => do
    match ← operator? operators with
    | none => return left
    | some operator => do
      let right ← next
      joinWith operators next apply fuel (← apply operator left right)

/-- Compares two values, as integers if both are. -/
def compareValues (operator left right : String) : Bool :=
  let order := match integer? left, integer? right with
    | some m, some n => compare m n
    | _, _ => compare left right
  match operator with
  | "<" => order == .lt
  | "<=" => order != .gt
  | "=" | "==" => order == .eq
  | "!=" => order != .eq
  | ">=" => order != .lt
  | _ => order == .gt

/-- Calculates with two values. -/
def calculate (operator left right : String) : Evaluate String := do
  let m ← asInteger left
  let n ← asInteger right
  match operator with
  | "+" => return Text.decimalInt (m + n)
  | "-" => return Text.decimalInt (m - n)
  | "*" => return Text.decimalInt (m * n)
  | _ =>
    if n = 0 then throw "division by zero"
    else return Text.decimalInt (if operator == "/" then m.tdiv n else m.tmod n)

/-- Evaluates the operators of a rank and of those that bind more tightly; rank zero is that of the
operands. -/
def rank : Nat → Nat → Evaluate String
  | 0, _ => throw "syntax error"
  | fuel + 1, 0 => operand fuel
  | fuel + 1, level + 1 => do
    let next := rank fuel level
    let first ← next
    let join (operators : List String)
        (apply : (operator left right : String) → Evaluate String) : Evaluate String :=
      joinWith operators next apply fuel first
    match level with
    | 0 => join [":"] fun _ => matched
    | 1 => join ["*", "/", "%"] calculate
    | 2 => join ["+", "-"] calculate
    | 3 =>
      join ["<", "<=", "=", "==", "!=", ">=", ">"] fun operator x y =>
        return if compareValues operator x y then "1" else "0"
    | 4 => join ["&"] fun _ x y => return if isNull x || isNull y then "0" else x
    | _ =>
      join ["|"] fun _ x y =>
        return if !isNull x then x else if isNull y then "0" else y
where
  /-- An argument is missing after another one. -/
  lacking {α : Type} (last : String) : Evaluate α :=
    throw ("syntax error: missing argument after " ++ quoted last)
  /-- Takes an argument as a value. -/
  value (last : String) : Evaluate String := do
    match ← get with
    | x :: rest => do
      set rest
      return x
    | [] => lacking last
  /-- Reads an operand. -/
  operand (fuel : Nat) : Evaluate String := do
    match ← get with
    | [] => throw "syntax error: missing argument"
    | x :: rest => do
      set rest
      match x with
      | "(" => do
        let inner ← rank fuel 6
        match ← get with
        | ")" :: rest => do
          set rest
          return inner
        | [] => throw ("syntax error: expecting ')' after " ++ quoted inner)
        | y :: _ => throw ("syntax error: expecting ')' instead of " ++ quoted y)
      | ")" => throw "syntax error: unexpected ')'"
      | "+" => value x
      | "length" =>
        if rest.isEmpty then lacking x
        else return Text.decimal (← rank fuel 0).length
      | "index" => do
        if rest.isEmpty then lacking x
        let text ← rank fuel 0
        let set_ ← rank fuel 0
        let i := text.toList.findIdx fun c => set_.contains c
        return Text.decimal (if i < text.length then i + 1 else 0)
      | "match" => do
        if rest.isEmpty then lacking x
        let text ← rank fuel 0
        matched text (← rank fuel 0)
      | "substr" => do
        if rest.isEmpty then lacking x
        let text ← rank fuel 0
        let start := integer? (← rank fuel 0)
        let length := integer? (← rank fuel 0)
        match start, length with
        | some (.ofNat (m + 1)), some (.ofNat n) =>
          return String.ofList ((text.toList.drop m).take n)
        | _, _ => return ""
      | x => return x

/-- Evaluates an expression. -/
def expr : Utility := fun arguments => do
  let arguments := if arguments.head? = some "--" then arguments.tail else arguments
  if arguments.isEmpty then refuse "missing operand" 2
  let evaluate : Evaluate String := do
    let result ← rank (8 * arguments.length + 16) 6
    match ← get with
    | [] => return result
    | x :: _ => throw ("syntax error: unexpected argument " ++ quoted x)
  match evaluate.run arguments with
  | .ok (result, _) => do
    put (result ++ "\n")
    return if isNull result then 1 else 0
  | .error complaint => do
    let complaint :=
      if complaint == "syntax error: missing argument" then
        "syntax error: missing argument after " ++ quoted (arguments.getLast?.getD "")
      else complaint
    giveUp complaint 2

end RouteKeeper.Shell.Utility
