import RouteKeeper.Shell.Redirect

/-!
# Programs of a host

What a program is given and what it comes to: it reads its standard input and files,
writes to its descriptors, and ends with a status.

## Implementation notes

A program that gives up ends like one that has taken the place of a shell.
-/

namespace RouteKeeper.Shell

/-- A program: what it does with its arguments, and how it ends. -/
abbrev Utility := List String → Act Nat

namespace Utility

/-- Ends the program. -/
def quit {α : Type} (status : Nat) : Act α := do
  Act.setStatus status
  throw .replaced

/-- Complains with the name by which the program was called. -/
def complain (text : String) : Act Unit := do
  Act.sayLine ((← get).name ++ ": " ++ text)

/-- Complains with the name of the program, and ends it. -/
def giveUp {α : Type} (text : String) (status : Nat := 1) : Act α := do
  complain text
  quit status

/-- Gives a hint after a complaint about the way in which the program was called. -/
def sayHint : Act Unit := do
  Act.sayLine ("Try '" ++ (← get).name ++ " --help' for more information.")

/-- Complains about the way in which the program was called, and ends it. -/
def refuse {α : Type} (text : String) (status : Nat := 1) : Act α := do
  complain text
  sayHint
  quit status

/-- Writes to the standard output; the program ends if it cannot. -/
def put (text : String) (status : Nat := 1) : Act Unit := do
  match ← Act.write 1 text with
  | none => return ()
  | some problem => giveUp ("write error: " ++ problem.text) status

/-- Takes back what was read at the end of a file, if it was a file. -/
def unread (descriptor length : Nat) : Act Unit :=
  modify fun m =>
    match (m.descriptors.lookup descriptor).map fun n => (n, m.world.channels.lookup n) with
    | some (number, some (.file place position reads writes appends)) =>
      m.setChannel number (.file place (position - length) reads writes appends)
    | _ => m

/-! ## Options -/

/-- The options of a program: the letters, with a colon after those that have an argument, and
the names that stand for letters. -/
structure Grammar where
  letters : String
  names : List (String × Char) := []
  /-- Options can follow other arguments. -/
  mixed : Bool := true

/-- What the arguments of a program are. -/
structure Arguments where
  options : List (Char × String) := []
  others : List String := []
  deriving DecidableEq

namespace Arguments

/-- Whether an option is given. -/
def has (a : Arguments) (letter : Char) : Bool :=
  a.options.any (·.1 == letter)

/-- The argument of the last option of a letter. -/
def value? (a : Arguments) (letter : Char) : Option String :=
  (a.options.filter (·.1 == letter)).getLast?.map (·.2)

end Arguments

/-- Whether an option of a letter has an argument, if there is such an option. -/
def Grammar.takes? (g : Grammar) (letter : Char) : Option Bool :=
  if letter == ':' then none
  else
    match g.letters.toList.dropWhile (· != letter) with
    | [] => none
    | _ :: ':' :: _ => some true
    | _ => some false

/-- Reads the letters of an argument; the arguments after it may be needed. -/
def Grammar.readLetters (g : Grammar) : List Char → List String →
    Except String (List (Char × String) × List String)
  | [], rest => .ok ([], rest)
  | c :: cs, rest =>
    match g.takes? c with
    | none => .error ("invalid option -- '" ++ String.singleton c ++ "'")
    | some false => do
      let (more, rest) ← g.readLetters cs rest
      return ((c, "") :: more, rest)
    | some true =>
      match cs, rest with
      | [], [] => .error ("option requires an argument -- '" ++ String.singleton c ++ "'")
      | [], value :: rest => .ok ([(c, value)], rest)
      | cs, rest => .ok ([(c, String.ofList cs)], rest)

/-- Reads an option by its name, which may be cut short; the arguments after it may be needed. -/
def Grammar.readName (g : Grammar) (text : String) (rest : List String) :
    Except String ((Char × String) × List String) :=
  let (name, value) := match text.toList.span (· != '=') with
    | (name, _ :: value) => (String.ofList name, some (String.ofList value))
    | (name, []) => (String.ofList name, none)
  let fitting := g.names.filter fun (x, _) => x.startsWith name
  let exact := g.names.filter fun (x, _) => x == name
  let letters := (fitting.map (·.2)).eraseDups
  let meant := match exact, fitting, letters with
    | found :: _, _, _ => some found
    | _, found :: _, [_] => some found
    | _, _, _ => none
  match meant with
  | none =>
    if fitting.isEmpty then .error ("unrecognized option '--" ++ text ++ "'")
    else .error ("option '--" ++ text ++ "' is ambiguous; possibilities: " ++
      " ".intercalate (fitting.map fun (x, _) => "'--" ++ x ++ "'"))
  | some (name, letter) =>
    match g.takes? letter, value, rest with
    | some true, some value, rest => .ok ((letter, value), rest)
    | some true, none, value :: rest => .ok ((letter, value), rest)
    | some true, none, [] => .error ("option '--" ++ name ++ "' requires an argument")
    | _, some _, _ => .error ("option '--" ++ name ++ "' doesn't allow an argument")
    | _, none, rest => .ok ((letter, ""), rest)

/-- Reads the arguments of a program, or tells what is wrong with them. -/
def Grammar.read (g : Grammar) : Nat → List String → Except String Arguments
  | 0, others => .ok { others }
  | _ + 1, [] => .ok {}
  | fuel + 1, x :: rest =>
    match x.toList with
    | ['-', '-'] => .ok { others := rest }
    | '-' :: '-' :: name => do
      let (option, rest) ← g.readName (String.ofList name) rest
      let a ← g.read fuel rest
      return { a with options := option :: a.options }
    | '-' :: c :: cs => do
      let (options, rest) ← g.readLetters (c :: cs) rest
      let a ← g.read fuel rest
      return { a with options := options ++ a.options }
    | _ =>
      if g.mixed then do
        let a ← g.read fuel rest
        return { a with others := x :: a.others }
      else .ok { others := x :: rest }

/-- Reads the arguments of a program, which ends if something is wrong with them. -/
def readArguments (g : Grammar) (arguments : List String) (status : Nat := 1) :
    Act Arguments :=
  match g.read (arguments.length + 1) arguments with
  | .ok a => return a
  | .error complaint => refuse complaint status

/-! ## Input -/

/-- The bytes at the start of a program's file. -/
def programText : String :=
  "\x7fELF"

/-- How many characters are read at once from a file without an end. -/
def endless : Nat := 1 <<< 17

/-- What a file holds; a dash stands for the standard input. -/
def input (path : String) (endless : Nat := endless) : Act (Except Problem Act.Input) := do
  if path == "-" then Act.readAvailable 0 endless
  else
    let m ← get
    match m.world.disk.find m.place path with
    | .error problem => return .error problem
    | .ok (_, none) => return .error .missing
    | .ok (_, some e) =>
      match e.node with
      | .file text => return .ok { text }
      | .program _ => return .ok { text := programText }
      | .directory => return .error .isDirectory
      | .device .null => return .ok { text := "" }
      | .device (.descriptor number) =>
        if (m.descriptors.lookup number).isNone then return .error .missing
        else Act.readAvailable number endless
      | .device .terminal => return .error .noDevice
      | .device _ =>
        return .ok
          { text := String.ofList (List.replicate endless '\x00'), wanting := some .exhausted }
      | .link _ => return .error .looping

/-- All that a file holds. -/
def contents (path : String) : Act (Except Problem String) := do
  match ← input path with
  | .ok i => return .ok (← i.whole)
  | .error problem => return .error problem

/-- Does something with what each of some files holds, or complains about the file. The status tells
whether there were complaints. -/
def withEach (complaint : (path : String) → Problem → String) (paths : List String)
    (act : (path : String) → Act.Input → Act Unit) : Act Nat := do
  let mut status := 0
  for path in if paths.isEmpty then ["-"] else paths do
    match ← input path with
    | .ok i => act path i
    | .error problem => do
      complain (complaint path problem)
      status := 1
  return status

/-- Does something with what each of some files holds at once, and has more of it only if nobody wants
less. -/
def withEachPart (complaint : (path : String) → Problem → String)
    (paths : List String) (act : (path text : String) → Act Unit) : Act Nat :=
  withEach complaint paths fun path i => do
    act path i.text
    let _ ← i.whole

/-- The lines of a text without their ends. -/
def linesOf (text : String) : List String :=
  let parts := partsAt '\n' text
  if parts.getLast? = some "" then parts.dropLast else parts

/-- Whether the last line of a text has no end. -/
def isOpen (text : String) : Bool :=
  !text.isEmpty && !text.endsWith "\n"

/-- Lines with their ends. -/
def textOfLines (ls : List String) : String :=
  String.join (ls.map (· ++ "\n"))

/-- A decimal number without a sign. -/
def natural? (s : String) : Option Nat :=
  if !s.isEmpty && s.toList.all Char.isDigit then some (Integer.valueIn 10 s.toList) else none

/-- A decimal number with or without a sign. -/
def integer? (s : String) : Option Int :=
  match s.toList with
  | '-' :: cs => (natural? (String.ofList cs)).map fun n => -(n : Int)
  | '+' :: cs => (natural? (String.ofList cs)).map Int.ofNat
  | cs => (natural? (String.ofList cs)).map Int.ofNat

/-! ## Names in complaints -/

/-- Whether a character can be shown as it is. -/
def isShown (c : Char) : Bool :=
  ' ' ≤ c && c ≤ '~'

/-- A character that cannot be shown, as an escape. -/
def escape (c : Char) : List Char :=
  match c.toNat with
  | 7 => ['\\', 'a']
  | 8 => ['\\', 'b']
  | 9 => ['\\', 't']
  | 10 => ['\\', 'n']
  | 11 => ['\\', 'v']
  | 12 => ['\\', 'f']
  | 13 => ['\\', 'r']
  | n =>
    let ds := Nat.toDigits 8 n
    '\\' :: List.replicate (3 - ds.length) '0' ++ ds

/-- A text in single quotes. -/
def quoted (s : String) : String :=
  let shown (c : Char) : List Char :=
    if c == '\'' || c == '\\' then ['\\', c] else if isShown c then [c] else escape c
  "'" ++ String.ofList (s.toList.flatMap shown) ++ "'"

/-- The runs of characters that can be shown, and of those that cannot, as a shell reads them. -/
def shellRuns : Nat → List Char → List Char
  | 0, _ => []
  | _, [] => []
  | fuel + 1, c :: cs =>
    if isShown c then
      let (run, rest) := (c :: cs).span isShown
      let text := run.flatMap fun d => if d == '\'' then ['\'', '\\', '\'', '\''] else [d]
      '\'' :: text ++ ['\''] ++ shellRuns fuel rest
    else
      let (run, rest) := (c :: cs).span (!isShown ·)
      ['$', '\''] ++ run.flatMap escape ++ ['\''] ++ shellRuns fuel rest

/-- A name as a shell reads it. -/
def shellQuoted (s : String) : String :=
  let cs := s.toList
  if cs.all isShown && cs.contains '\'' && !cs.any fun c => "\"$`\\!".toList.contains c then
    "\"" ++ s ++ "\""
  else if cs.isEmpty then "''"
  else
    let start := if cs.head?.any isShown then [] else ['\'', '\'']
    String.ofList (start ++ shellRuns (cs.length + 1) cs)

/-- Whether a shell takes a character for something else. -/
def isSpecial (c : Char) : Bool :=
  !isShown c || " !\"$&'()*;<=>?[\\^`|".toList.contains c

/-- A name in complaints, as a shell reads it. -/
def named (s : String) : String :=
  let cs := s.toList
  let startsSpecially := cs.head?.any fun c => c == '#' || c == '~'
  let isBrace := s == "\x7b" || s == "\x7d"
  if cs.isEmpty || cs.any isSpecial || startsSpecially || isBrace then shellQuoted s else s

end Utility

end RouteKeeper.Shell
