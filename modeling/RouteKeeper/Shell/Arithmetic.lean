import RouteKeeper.Shell.Integer
import RouteKeeper.Text.Number

/-!
# Arithmetic expansion

Expressions over 64-bit integers with the operators of C. Arithmetic wraps around,
and division goes towards zero. What does not decide the value of `&&`, `||` or `?:`
is read and not evaluated.

## Implementation notes

An expression is evaluated while it is read, so that of two mistakes the first one
counts. Readers count down a fuel; each operand and each operator takes a symbol, and
at most seven readers start at one symbol.
-/

namespace RouteKeeper.Shell.Arithmetic

/-- A symbol of an expression. -/
inductive Symbol where
  | number (value : Int64)
  | name (text : String)
  | sign (text : String)
  /-- What follows is no symbol. -/
  | unknown
  deriving DecidableEq

/-- The operators on two numbers. -/
inductive Operator where
  | multiply | divide | remainder | add | subtract | shiftLeft | shiftRight
  | less | lessEqual | greater | greaterEqual | equal | notEqual | bitAnd | bitXor | bitOr
  deriving DecidableEq

/-- Why an expression has no value. -/
inductive Complaint where
  /-- A number, a name or a parenthesis is missing. -/
  | primaryNeeded
  /-- Something follows the end of the expression. -/
  | endNeeded
  /-- A colon is missing. -/
  | colonNeeded
  /-- A parenthesis is not closed. -/
  | parenthesisNeeded
  /-- A division by zero. -/
  | divisionByZero
  /-- A division whose result has more than 64 bits; the processor refuses it. -/
  | divisionOverflow
  /-- The value of a variable is no number. -/
  | illegalNumber (text : String)
  deriving DecidableEq

/-- The operators of two characters or more, longer ones first. -/
def longSigns : List String :=
  ["<<=", ">>=", "<<", ">>", "<=", ">=", "==", "!=", "&&", "||", "+=", "-=", "*=", "/=", "%=",
    "&=", "^=", "|="]

/-- The operator at the front. -/
def sign? (cs : List Char) : Option (String × List Char) :=
  match longSigns.find? fun s => s.toList.isPrefixOf cs with
  | some s => some (s, cs.drop s.length)
  | none =>
    match cs with
    | c :: rest => if "+-*/%<>=!~&^|?:()".toList.contains c then some (String.singleton c, rest)
      else none
    | [] => none

/-- The symbols of an expression, up to what is none. -/
def symbols : Nat → List Char → List Symbol
  | _, [] => []
  | 0, _ => [.unknown]
  | fuel + 1, c :: cs =>
    if c == ' ' || c == '\t' || c == '\n' then symbols fuel cs
    else if c.isDigit then
      match Integer.natural? (c :: cs) with
      | some (n, rest) => .number (.ofInt (Integer.saturate n)) :: symbols fuel rest
      | none => [.unknown]
    else if c.isAlpha || c == '_' then
      let (name, rest) := (c :: cs).span fun c => c.isAlphanum || c == '_'
      .name (String.ofList name) :: symbols fuel rest
    else
      match sign? (c :: cs) with
      | some (s, rest) => .sign s :: symbols fuel rest
      | none => [.unknown]

/-- The operator on two numbers that a sign stands for, and its level; lower levels bind more
tightly. -/
def operator? : String → Option (Nat × Operator)
  | "*" => some (0, .multiply)
  | "/" => some (0, .divide)
  | "%" => some (0, .remainder)
  | "+" => some (1, .add)
  | "-" => some (1, .subtract)
  | "<<" => some (2, .shiftLeft)
  | ">>" => some (2, .shiftRight)
  | "<" => some (3, .less)
  | "<=" => some (3, .lessEqual)
  | ">" => some (3, .greater)
  | ">=" => some (3, .greaterEqual)
  | "==" => some (4, .equal)
  | "!=" => some (4, .notEqual)
  | "&" => some (5, .bitAnd)
  | "^" => some (6, .bitXor)
  | "|" => some (7, .bitOr)
  | _ => none

/-- The operator in front of the equals sign of an assignment. -/
def assignment? : String → Option (Option Operator)
  | "=" => some none
  | "<<=" => some (some .shiftLeft)
  | ">>=" => some (some .shiftRight)
  | "+=" => some (some .add)
  | "-=" => some (some .subtract)
  | "*=" => some (some .multiply)
  | "/=" => some (some .divide)
  | "%=" => some (some .remainder)
  | "&=" => some (some .bitAnd)
  | "^=" => some (some .bitXor)
  | "|=" => some (some .bitOr)
  | _ => none

/-- A truth value as a number. -/
def truth (b : Bool) : Int64 :=
  if b then 1 else 0

/-- Applies an operator to two numbers. -/
def Operator.apply (op : Operator) (a b : Int64) : Except Complaint Int64 :=
  match op with
  | .multiply => .ok (a * b)
  | .divide => do
    checkDivision a b
    return a / b
  | .remainder => do
    checkDivision a b
    return a % b
  | .add => .ok (a + b)
  | .subtract => .ok (a - b)
  | .shiftLeft => .ok (a <<< b)
  | .shiftRight => .ok (a >>> b)
  | .less => .ok (truth (a < b))
  | .lessEqual => .ok (truth (a ≤ b))
  | .greater => .ok (truth (b < a))
  | .greaterEqual => .ok (truth (b ≤ a))
  | .equal => .ok (truth (a = b))
  | .notEqual => .ok (truth (a ≠ b))
  | .bitAnd => .ok (a &&& b)
  | .bitXor => .ok (a ^^^ b)
  | .bitOr => .ok (a ||| b)
where
  /-- Whether a division can be made. -/
  checkDivision (a b : Int64) : Except Complaint Unit :=
    if b = 0 then .error .divisionByZero
    else if a = Int64.minValue ∧ b = -1 then .error .divisionOverflow
    else .ok ()

/-- The number that the value of a variable denotes; a missing or blank one denotes zero. -/
def ofText (s : String) : Except Complaint Int64 :=
  match Integer.any? s with
  | some n => .ok (.ofInt n)
  | none => .error (.illegalNumber s)

/-- A number as the value of a variable. -/
def toText (n : Int64) : String :=
  Text.decimalInt n.toInt

/-- The values that assignments give to variables, latest first. -/
abbrev Assigned := List (String × String)

/-- What is left of an expression, and what it has assigned so far. -/
structure Progress where
  rest : List Symbol
  assigned : Assigned := []

/-- Evaluates part of an expression. -/
abbrev Evaluation := StateT Progress (Except Complaint)

/-- The symbol that comes next. -/
def peek : Evaluation (Option Symbol) := do
  return (← get).rest.head?

/-- Passes over a symbol. -/
def advance : Evaluation Unit :=
  modify fun p => { p with rest := p.rest.tail }

/-- The number that a variable denotes. -/
def lookUp (valueOf : String → String) (name : String) : Evaluation Int64 := do
  ofText (((← get).assigned.lookup name).getD (valueOf name))

/-- Gives a variable a number. -/
def assign (name : String) (value : Int64) : Evaluation Unit :=
  modify fun p => { p with assigned := (name, toText value) :: p.assigned }

/-- The operator on two numbers that comes next. -/
def nextOperator : Evaluation (Option (Nat × Operator)) := do
  match ← peek with
  | some (.sign s) => return operator? s
  | _ => return none

mutual

/-- Evaluates an assignment or a choice; what is skipped is only read. -/
def whole (valueOf : String → String) : Nat → (skipped : Bool) → Evaluation Int64
  | 0, _ => throw .primaryNeeded
  | fuel + 1, skipped => do
    match (← get).rest with
    | .name x :: .sign s :: rest =>
      match assignment? s with
      | none => choice valueOf fuel skipped
      | some op => do
        modify fun p => { p with rest }
        let b ← whole valueOf fuel skipped
        if skipped then return b
        let value ← match op with
          | none => pure b
          | some op => op.apply (← lookUp valueOf x) b
        assign x value
        return value
    | _ => choice valueOf fuel skipped

/-- Evaluates a choice between two expressions, or a single one. -/
def choice (valueOf : String → String) : Nat → (skipped : Bool) → Evaluation Int64
  | 0, _ => throw .primaryNeeded
  | fuel + 1, skipped => do
    let a ← either valueOf fuel skipped
    if (← peek) ≠ some (.sign "?") then return a
    advance
    let b ← whole valueOf fuel (skipped || a = 0)
    if (← peek) ≠ some (.sign ":") then throw .colonNeeded
    advance
    let c ← choice valueOf fuel (skipped || a ≠ 0)
    return if a ≠ 0 then b else c

/-- Evaluates expressions joined by `||`. -/
def either (valueOf : String → String) : Nat → (skipped : Bool) → Evaluation Int64
  | 0, _ => throw .primaryNeeded
  | fuel + 1, skipped => do
    let a ← both valueOf fuel skipped
    if (← peek) ≠ some (.sign "||") then return a
    advance
    let b ← either valueOf fuel (skipped || a ≠ 0)
    return truth (a ≠ 0 || b ≠ 0)

/-- Evaluates expressions joined by `&&`. -/
def both (valueOf : String → String) : Nat → (skipped : Bool) → Evaluation Int64
  | 0, _ => throw .primaryNeeded
  | fuel + 1, skipped => do
    let a ← joined valueOf fuel skipped
    if (← peek) ≠ some (.sign "&&") then return a
    advance
    let b ← both valueOf fuel (skipped || a = 0)
    return truth (a ≠ 0 && b ≠ 0)

/-- Evaluates operands joined by operators on two numbers. -/
def joined (valueOf : String → String) : Nat → (skipped : Bool) → Evaluation Int64
  | 0, _ => throw .primaryNeeded
  | fuel + 1, skipped => do
    let a ← operand valueOf fuel skipped
    match ← nextOperator with
    | some (level, op) => joinedAfter valueOf fuel skipped 8 a level op
    | none => return a

/-- Evaluates the operators after an operand, as long as they bind more tightly than `limit`. -/
def joinedAfter (valueOf : String → String) :
    Nat → (skipped : Bool) → (limit : Nat) → Int64 → Nat → Operator → Evaluation Int64
  | 0, _, _, _, _, _ => throw .primaryNeeded
  | fuel + 1, skipped, limit, a, level, op => do
    advance
    let b ← operand valueOf fuel skipped
    let b ← match ← nextOperator with
      | some (level', op') =>
        if level' < level then joinedAfter valueOf fuel skipped level b level' op' else pure b
      | none => pure b
    let value ← if skipped then pure b else op.apply a b
    match ← nextOperator with
    | some (level', op') =>
      if limit ≤ level' then return value
      else joinedAfter valueOf fuel skipped limit value level' op'
    | none => return value

/-- Evaluates a number, a name, or an expression in parentheses, perhaps after signs. -/
def operand (valueOf : String → String) : Nat → (skipped : Bool) → Evaluation Int64
  | 0, _ => throw .primaryNeeded
  | fuel + 1, skipped => do
    let next ← peek
    advance
    match next with
    | some (.number n) => return n
    | some (.name x) => if skipped then return 0 else lookUp valueOf x
    | some (.sign "(") => do
      let a ← whole valueOf fuel skipped
      if (← peek) ≠ some (.sign ")") then throw .parenthesisNeeded
      advance
      return a
    | some (.sign "+") => operand valueOf fuel skipped
    | some (.sign "-") => return -(← operand valueOf fuel skipped)
    | some (.sign "!") => return truth ((← operand valueOf fuel skipped) = 0)
    | some (.sign "~") => return ~~~(← operand valueOf fuel skipped)
    | _ => throw .primaryNeeded

end

/-- The value of an expression and what it assigns; `valueOf` gives the value of a variable that is
not assigned in it. -/
def evaluate (valueOf : String → String) (cs : List Char) :
    Except Complaint (Int64 × Assigned) := do
  let ts := symbols (cs.length + 1) cs
  let (value, p) ← (whole valueOf (8 * ts.length + 8) false).run { rest := ts }
  if p.rest.isEmpty then return (value, p.assigned) else throw .endNeeded

/-- The text of a complaint about an expression. -/
def Complaint.text (expression : String) : Complaint → String
  | .primaryNeeded => arithmetic "expecting primary"
  | .endNeeded => arithmetic "expecting EOF"
  | .colonNeeded => arithmetic "expecting ':'"
  | .parenthesisNeeded => arithmetic "expecting ')'"
  | .divisionByZero | .divisionOverflow => arithmetic "division by zero"
  | .illegalNumber text => "Illegal number: " ++ text
where
  /-- Names the expression in a complaint. -/
  arithmetic (what : String) : String :=
    "arithmetic expression: " ++ what ++ ": \"" ++ expression ++ "\""

end RouteKeeper.Shell.Arithmetic
