import RouteKeeper.Shell.Lookup

/-!
# Options of utilities

How the options in front of the arguments of a utility are read, and what a utility
that is part of the shell comes to.
-/

namespace RouteKeeper.Shell

/-- What a utility comes to. -/
structure Report where
  /-- What it writes to its standard output. -/
  output : String := ""
  /-- How it ends; zero is success. -/
  status : Nat := 0
  deriving DecidableEq

/-- A utility that is part of the shell. -/
abbrev Builtin := List String → Act Report

namespace Builtin

open Act (fail)

/-- Lines as they are written. -/
def linesText (ls : List String) : String :=
  String.join (ls.map (· ++ "\n"))

/-- Reads the letters of an argument. Tells the options and their arguments, and the last letter if
its argument is missing. -/
def letters (known : List Char) : List Char → Act (List (Char × String) × Option Char)
  | [] => return ([], none)
  | c :: rest =>
    match known.dropWhile (· != c) with
    | [] => fail ("Illegal option -" ++ String.singleton c)
    | _ :: ':' :: _ =>
      if rest.isEmpty then return ([], some c) else return ([(c, String.ofList rest)], none)
    | _ => do
      let (more, missing) ← letters known rest
      return ((c, "") :: more, missing)

/-- The options in front of the arguments, and the arguments. A colon after a letter says that its
option has an argument; two signs end the options. -/
def options (known : String) : List String → Act (List (Char × String) × List String)
  | [] => return ([], [])
  | x :: rest =>
    match x.toList with
    | ['-', '-'] => return ([], rest)
    | '-' :: c :: cs => do
      let (first, missing) ← letters known.toList (c :: cs)
      match missing, rest with
      | none, rest => do
        let (more, rest) ← options known rest
        return (first ++ more, rest)
      | some letter, [] => fail ("No arg for -" ++ String.singleton letter ++ " option")
      | some letter, value :: rest => do
        let (more, rest) ← options known rest
        return (first ++ (letter, value) :: more, rest)
    | _ => return ([], x :: rest)

/-- A count or a status that an argument gives. -/
def count (argument : String) : Act Nat :=
  match Integer.count? argument with
  | some n => return n
  | none => fail ("Illegal number: " ++ argument)

end Builtin

end RouteKeeper.Shell
