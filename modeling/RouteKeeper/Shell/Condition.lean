import RouteKeeper.Shell.Integer

/-!
# Conditions

The conditions that `test` decides: comparisons of texts and integers, properties of
files, and what `!`, `-a`, `-o` and parentheses make of them.

## Implementation notes

Whether a word is an operator depends on the words after it. A condition is decided
while it is read, and of two mistakes the first one counts. What is asked about files
and descriptors is handed in.
-/

namespace RouteKeeper.Shell.Condition

/-- What a word is taken for. -/
inductive Lexeme where
  | ending
  | operand
  /-- An operator on the word after it. -/
  | unary
  /-- An operator on the words at its sides. -/
  | binary
  | not
  | and
  | or
  | openParen
  | closeParen
  deriving DecidableEq

/-- The operators on one word. -/
def unaryOperators : List String :=
  ["-r", "-w", "-x", "-e", "-f", "-d", "-c", "-b", "-p", "-u", "-g", "-k", "-s", "-t", "-z", "-n",
    "-h", "-O", "-G", "-L", "-S"]

/-- The operators on two words. -/
def binaryOperators : List String :=
  ["=", "!=", "<", ">", "-eq", "-ne", "-ge", "-gt", "-le", "-lt", "-nt", "-ot", "-ef"]

/-- What an operator is taken for, if a word is one. -/
def operator? (word : String) : Option Lexeme :=
  if unaryOperators.contains word then some .unary
  else if binaryOperators.contains word then some .binary
  else
    match word with
    | "!" => some .not
    | "-a" => some .and
    | "-o" => some .or
    | "(" => some .openParen
    | ")" => some .closeParen
    | _ => none

/-- What can be asked about files and descriptors. -/
structure Answers where
  /-- Whether a file has the property that an operator names. -/
  holds : (operator path : String) → Bool
  /-- Whether two files are related as an operator has it. -/
  relates : (operator left right : String) → Bool
  /-- Whether a descriptor leads to a terminal. -/
  isTerminal : Int → Bool

/-- What the word at a place is taken for. An operator on one word is an operand if no word follows
it, or if an operator on two words does and a word after that. -/
def lexeme (words : List String) (i : Nat) : Lexeme :=
  match words[i]? with
  | none => .ending
  | some word =>
    match operator? word with
    | none => .operand
    | some .unary =>
      match words[i + 1]?, words[i + 2]? with
      | none, _ => .operand
      | some _, none => .unary
      | some next, some _ => if operator? next = some .binary then .operand else .unary
    | some .openParen => if words[i + 1]?.isSome then .openParen else .operand
    | some operator => operator

/-- Reads a condition: the place that has been reached. -/
abbrev Decision := StateT Nat (Except String)

/-- The integer that a word denotes. -/
def integer (word : String) : Decision Int :=
  match Integer.decimal? word with
  | some n => return n
  | none => throw ("Illegal number: " ++ word)

/-- The word at the place that has been reached. -/
def word (words : List String) : Decision String := do
  return words.getD (← get) ""

/-- Decides an operator on one word. -/
def decideUnary (answers : Answers) (operator operand : String) : Decision Bool := do
  match operator with
  | "-z" => return operand.isEmpty
  | "-n" => return !operand.isEmpty
  | "-t" => return answers.isTerminal (← integer operand)
  | _ => return answers.holds operator operand

/-- Decides an operator on two words. -/
def decideBinary (answers : Answers) (left operator right : String) : Decision Bool := do
  let compare (holds : Int → Int → Bool) : Decision Bool := do
    let a ← integer left
    let b ← integer right
    return holds a b
  match operator with
  | "=" => return left == right
  | "!=" => return left != right
  | "<" => return left < right
  | ">" => return right < left
  | "-eq" => compare fun a b => a == b
  | "-ne" => compare fun a b => a != b
  | "-ge" => compare fun a b => b ≤ a
  | "-gt" => compare fun a b => b < a
  | "-le" => compare fun a b => a ≤ b
  | "-lt" => compare fun a b => a < b
  | _ => return answers.relates operator left right

mutual

/-- Decides conditions joined by `-o`; all of them are read. -/
def anyOf (answers : Answers) (words : List String) : Nat → Lexeme → Decision Bool
  | 0, _ => throw "argument expected"
  | fuel + 1, first => do
    let a ← allOf answers words fuel first
    if lexeme words ((← get) + 1) = .or then do
      modify (· + 2)
      let b ← anyOf answers words fuel (lexeme words (← get))
      return a || b
    else return a

/-- Decides conditions joined by `-a`; all of them are read. -/
def allOf (answers : Answers) (words : List String) : Nat → Lexeme → Decision Bool
  | 0, _ => throw "argument expected"
  | fuel + 1, first => do
    let a ← negated answers words fuel first
    if lexeme words ((← get) + 1) = .and then do
      modify (· + 2)
      let b ← allOf answers words fuel (lexeme words (← get))
      return a && b
    else return a

/-- Decides a condition, perhaps after `!`. -/
def negated (answers : Answers) (words : List String) : Nat → Lexeme → Decision Bool
  | 0, _ => throw "argument expected"
  | fuel + 1, .not => do
    let next := lexeme words ((← get) + 1)
    if next ≠ .ending then modify (· + 1)
    return !(← negated answers words fuel next)
  | fuel + 1, first => primary answers words fuel first

/-- Decides a condition without an operator before or after it. -/
def primary (answers : Answers) (words : List String) : Nat → Lexeme → Decision Bool
  | 0, _ => throw "argument expected"
  | _ + 1, .ending => return false
  | fuel + 1, .openParen => do
    modify (· + 1)
    let next := lexeme words (← get)
    if next = .closeParen then return false
    let a ← anyOf answers words fuel next
    modify (· + 1)
    if lexeme words (← get) ≠ .closeParen then throw "closing paren expected"
    return a
  | _ + 1, .unary => do
    let operator ← word words
    modify (· + 1)
    decideUnary answers operator (← word words)
  | _ + 1, _ => do
    let left ← word words
    if lexeme words ((← get) + 1) = .binary then do
      modify (· + 1)
      let operator ← word words
      modify (· + 1)
      match words[(← get)]? with
      | some right => decideBinary answers left operator right
      | none => throw (operator ++ ": argument expected")
    else return !left.isEmpty

end

/-- Decides the condition that all words make up; `first` is what the first one is taken for. -/
def decideAll (answers : Answers) (words : List String) (first : Lexeme) : Except String Bool := do
  let (value, i) ← (anyOf answers words (4 * words.length + 8) first).run 0
  match words[i]?, words[i + 1]? with
  | some w, some _ =>
    throw (if w.isEmpty then "unexpected operator" else w ++ ": unexpected operator")
  | _, _ => return value

/-- Decides three or four words, or another number of them. Before three or four words, a `!` negates
what follows and parentheses fall away, unless the second of three is an operator on two words. -/
def decideWords (answers : Answers) : List String → Except String Bool
  | [] => .ok false
  | [a, b, c] =>
    if operator? b = some .binary then decideAll answers [a, b, c] .operand
    else if a == "(" && c == ")" then decideAll answers [b] (lexeme [b] 0)
    else if a == "!" then (decideAll answers [b, c] (lexeme [b, c] 0)).map (!·)
    else decideAll answers [a, b, c] (lexeme [a, b, c] 0)
  | [a, b, c, d] =>
    if a == "(" && d == ")" then decideAll answers [b, c] (lexeme [b, c] 0)
    else if a == "!" then
      if operator? c = some .binary then (decideAll answers [b, c, d] .operand).map (!·)
      else if b == "(" && d == ")" then (decideAll answers [c] (lexeme [c] 0)).map (!·)
      else if b == "!" then (decideAll answers [c, d] (lexeme [c, d] 0)).map (!·)
      else (decideAll answers [b, c, d] (lexeme [b, c, d] 0)).map (!·)
    else decideAll answers [a, b, c, d] (lexeme [a, b, c, d] 0)
  | words => decideAll answers words (lexeme words 0)

/-- Decides a condition. Between brackets, the last word has to begin with the closing one. -/
def decide (answers : Answers) (bracketed : Bool) (words : List String) : Except String Bool :=
  if bracketed then
    if (words.getLast?.getD "").startsWith "]" then decideWords answers words.dropLast
    else .error "missing ]"
  else decideWords answers words

end RouteKeeper.Shell.Condition
