import RouteKeeper.Shell.Parameter
import RouteKeeper.Shell.Script

/-!
# What the name of a command stands for

A name stands for a function, for a utility that is part of the shell, or for a program
in one of the directories of the search path.

## Implementation notes

Some names are listed in the order of the cells of a table: the cell of a name is the
sum of its characters and sixteen times the first one, modulo the size of the table.
-/

namespace RouteKeeper.Shell

/-- The utilities that are part of the shell and whose names functions can have. -/
def otherBuiltins : List String :=
  ["[", "alias", "bg", "cd", "chdir", "command", "echo", "false", "fg", "getopts", "hash", "jobs",
    "kill", "printf", "pwd", "read", "test", "true", "type", "ulimit", "umask", "unalias", "wait"]

/-- The utilities whose arguments are assignments. -/
def declarers : List String :=
  ["alias", "export", "local", "readonly"]

/-- Whether a utility is part of the shell. -/
def isBuiltin (name : String) : Bool :=
  specials.contains name || otherBuiltins.contains name

/-- The search path of a shell without one. -/
def standardPath : String :=
  "/usr/local/sbin:/usr/local/bin:/usr/sbin:/usr/bin:/sbin:/bin"

/-- What a name stands for. -/
inductive Meaning where
  | function (f : Function)
  | builtin
  /-- The program at a path. -/
  | program (path : String)
  /-- Nothing; there is something of that name that is no program, or not even that. -/
  | unknown (problem : Problem)

namespace Machine

/-- The search path. -/
def path (m : Machine) : String :=
  (m.value? "PATH").getD ""

/-- The first file of a name in the directories of a path. -/
def search (m : Machine) (name : String) : List String → (problem : Problem) → Except Problem String
  | [], problem => .error problem
  | directory :: rest, problem =>
    let path := if directory.isEmpty then name else directory ++ "/" ++ name
    match m.world.disk.find m.place path with
    | .ok (_, some e) =>
      match e.node with
      | .file _ | .program _ => .ok path
      | _ => m.search name rest .denied
    | _ => m.search name rest problem

/-- What the name of a program stands for. -/
def program (m : Machine) (path name : String) : Meaning :=
  if name.contains '/' then .program name
  else
    match m.search name (partsAt ':' path) .missing with
    | .ok path => .program path
    | .error problem => .unknown problem

/-- What a name stands for; functions are passed over if they are not `wanted`. -/
def meaning (m : Machine) (wanted : Bool) (path name : String) : Meaning :=
  match if wanted then m.functions.lookup name else none with
  | some f => .function f
  | none => if isBuiltin name then .builtin else m.program path name

/-- Takes note of the path of a program that was looked up. -/
def remember (m : Machine) (name path : String) : Machine :=
  if name.contains '/' || (m.known.lookup name).isSome then m
  else { m with known := m.known ++ [(name, path)] }

end Machine

/-- Why a program cannot be started, as it is written in complaints. -/
def Problem.textForProgram : Problem → String
  | .missing | .notDirectory => "not found"
  | problem => problem.text

/-- The cell of a name in a table. -/
def cellOf (size : Nat) (name : String) : Nat :=
  let codes := name.toList.map Char.toNat
  (16 * codes.headD 0 + codes.foldl (· + ·) 0) % 32768 % size

/-- Names with their values, in the order of their cells. -/
def inCells {α : Type} (size : Nat) (xs : List (String × α)) : List (String × α) :=
  xs.mergeSort fun a b => cellOf size a.1 ≤ cellOf size b.1

/-- A text in quotes, as the shell reads it: single quotes, and double ones around those. -/
def quotedText (s : String) : String :=
  String.ofList (runs s.toList.length s.toList)
where
  /-- Quotes the characters up to a quote, and the quotes after it, and so on. -/
  runs : Nat → List Char → List Char
    | 0, cs => '\'' :: cs ++ ['\'']
    | fuel + 1, cs =>
      let (plain, rest) := cs.span (· != '\'')
      let (quotes, rest) := rest.span (· == '\'')
      '\'' :: plain ++ ['\''] ++
        (if quotes.isEmpty then [] else '"' :: quotes ++ ['"']) ++
        (if quotes.isEmpty || rest.isEmpty then [] else runs fuel rest)

end RouteKeeper.Shell
