/-!
# Shell syntax

The pieces of words, and the commands that words, redirections and reserved words
make up.

## Implementation notes

The text of a here-document follows on later lines than its redirection. A script
keeps these texts beside its command, and a redirection refers to them by number.
-/

namespace RouteKeeper.Shell

/-- Where a redirection leads. -/
inductive Direction where
  /-- Reads from a file. -/
  | input
  /-- Writes to a file. -/
  | output
  /-- Writes to a file, which may be there. -/
  | overwrite
  /-- Writes to the end of a file. -/
  | append
  /-- Reads from a file and writes to it. -/
  | both
  /-- Leads where another descriptor leads. -/
  | duplicate
  deriving DecidableEq

/-- What an expansion does when a parameter is missing. -/
inductive Fallback where
  /-- Takes the given word instead. -/
  | use
  /-- Takes the given word and assigns it. -/
  | assign
  /-- Complains with the given word. -/
  | complain
  /-- Takes the given word when the parameter is not missing. -/
  | replace
  deriving DecidableEq

mutual

/-- A piece of a word. -/
inductive Piece where
  /-- A character as it stands. -/
  | plain (c : Char)
  /-- A character after a backslash. -/
  | escaped (c : Char)
  /-- What stands between single quotes. -/
  | single (text : List Char)
  /-- What stands between double quotes. -/
  | double (pieces : List Piece)
  /-- The value of a parameter. -/
  | parameter (name : String) (form : Form)
  /-- The value of an arithmetic expression. -/
  | arithmetic (pieces : List Piece)
  /-- What a script writes. -/
  | outputOf (script : Script)

/-- What is made of the value of a parameter. -/
inductive Form where
  /-- The value. -/
  | value
  /-- The length of the value. -/
  | length
  /-- The value, unless the parameter is unset or, if `orEmpty`, empty. -/
  | fallback (kind : Fallback) (orEmpty : Bool) (word : List Piece)
  /-- The value without what the pattern matches at its start or its end. -/
  | trimmed (atEnd longest : Bool) (pattern : List Piece)
  /-- There is no such form. -/
  | unknown

/-- A redirection of a descriptor. -/
inductive Redirection where
  /-- It leads where the word has it. -/
  | toward (descriptor : Nat) (direction : Direction) (target : List Piece)
  /-- It reads the here-document of the given number. -/
  | document (descriptor : Nat) (number : Nat)

/-- A command. The number of a line is that of the line where the command begins. -/
inductive Command where
  /-- Nothing at all. -/
  | nothing
  /-- Assignments, words and redirections. -/
  | simple (line : Nat) (assignments : List (String × List Piece)) (words : List (List Piece))
      (redirections : List Redirection)
  /-- A command in a shell of its own. -/
  | subshell (line : Nat) (body : Command) (redirections : List Redirection)
  /-- A command with redirections. -/
  | redirected (line : Nat) (body : Command) (redirections : List Redirection)
  /-- A command in a shell of its own, which is not waited for. -/
  | background (line : Nat) (body : Command) (redirections : List Redirection)
  /-- Commands that each read what the one before writes; they are waited for or not. -/
  | pipeline (awaited : Bool) (stages : List Command)
  /-- A command with the opposite outcome. -/
  | not (body : Command)
  /-- The second command if the first one succeeds. -/
  | andThen (first second : Command)
  /-- The second command if the first one fails. -/
  | orElse (first second : Command)
  /-- One command after the other. -/
  | sequence (first second : Command)
  /-- One of two commands, by the outcome of a third. -/
  | branch (condition yes no : Command)
  /-- A command as long as another one succeeds, or fails if `negated`. -/
  | loop (negated : Bool) (condition body : Command)
  /-- A command for each of the fields of some words. -/
  | each (line : Nat) (name : String) (words : List (List Piece)) (body : Command)
  /-- The first command one of whose patterns matches a word. -/
  | select (line : Nat) (word : List Piece) (cases : List (List (List Piece) × Command))
  /-- Names a command. -/
  | define (line : Nat) (name : String) (body : Command)

/-- A command and the texts of its here-documents. -/
inductive Script where
  | mk (command : Command) (documents : List (List Piece))

end

/-- A word: its pieces in order. -/
abbrev Word := List Piece

/-- The command of a script. -/
def Script.command : Script → Command
  | .mk command _ => command

/-- The texts of a script's here-documents. -/
def Script.documents : Script → List Word
  | .mk _ documents => documents

/-- Whether a command is nothing at all. -/
def Command.isNothing : Command → Bool
  | .nothing => true
  | _ => false

/-- One command after another, of which either may be nothing. -/
def Command.followedBy : Command → Command → Command
  | .nothing, second => second
  | first, second => .sequence first second

/-- The text of a word without quotes and expansions. -/
def bareText? (word : Word) : Option String :=
  (word.mapM fun
    | Piece.plain c => some c
    | _ => none).map String.ofList

/-! ## What cannot be read -/

/-- Why a script cannot be read. -/
inductive Complaint where
  /-- A quote is not closed. -/
  | openQuote
  /-- A backquote is not closed. -/
  | openBackquote
  /-- A brace of an expansion is not closed. -/
  | openBrace
  /-- The parentheses of an arithmetic expression are not closed. -/
  | openArithmetic
  /-- A loop needs the name of a variable. -/
  | badLoopVariable
  /-- A function cannot have this name. -/
  | badFunctionName
  /-- The token is not the one needed here. -/
  | unexpected (found : String) (needed : Option String)
  /-- The script nests too deeply. -/
  | tooDeep
  deriving DecidableEq

/-- The text of a complaint about a script. -/
def Complaint.text : Complaint → String
  | .openQuote => "Unterminated quoted string"
  | .openBackquote => "EOF in backquote substitution"
  | .openBrace => "Missing '\x7d'"
  | .openArithmetic => "Missing '))'"
  | .badLoopVariable => "Bad for loop variable"
  | .badFunctionName => "Bad function name"
  | .unexpected found (some needed) => found ++ " unexpected (expecting " ++ needed ++ ")"
  | .unexpected found none => found ++ " unexpected"
  | .tooDeep => "nested too deeply"

/-- What is wrong with a script, and on which line. -/
structure Mistake where
  line : Nat
  complaint : Complaint
  deriving DecidableEq

end RouteKeeper.Shell
