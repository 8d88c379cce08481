import RouteKeeper.Shell.Builtin.Option
import RouteKeeper.Shell.Condition
import RouteKeeper.Shell.Printf

/-!
# Utilities that write and decide

The utilities that write their arguments, and those that decide a condition on texts,
integers and files.
-/

namespace RouteKeeper.Shell.Builtin

open Act (fail)

/-- Writes arguments. -/
def echo : Builtin := fun arguments => do
  return { output := Escape.echo arguments }

/-- Writes arguments by a format. -/
def printf : Builtin := fun arguments => do
  let (_, rest) ← options "" arguments
  match rest with
  | [] => fail "usage: printf format [arg ...]"
  | format :: arguments =>
    let (output, complaints, status) := Printf.write format arguments
    for complaint in complaints do
      Act.complain complaint
    return { output, status }

/-! ## Conditions -/

/-- What a path leads to. A special file for a descriptor is what the descriptor leads to. -/
inductive Found where
  | entry (e : Entry)
  /-- What one process writes and another one reads. -/
  | pipe

/-- What a path leads to, if it leads anywhere. -/
def found? (m : Machine) (path : String) (follow : Bool) : Option Found :=
  match m.world.disk.find m.place path follow with
  | .ok (_, some e) =>
    match e.node with
    | .device (.descriptor number) =>
      match m.channel? number with
      | none => none
      | some (.sink _) | some (.pipe _ _ _) => some .pipe
      | some (.device kind) => some (.entry { node := .device kind, mode := 0o666 })
      | some (.file place _ _ _ _) => (m.world.disk.entry? place).map .entry
    | _ => some (.entry e)
  | _ => none

/-- Whether a file has the property that an operator names. -/
def holds (m : Machine) (operator path : String) : Bool :=
  let isLinkAsked := operator == "-h" || operator == "-L"
  match found? m path (!isLinkAsked) with
  | none => false
  | some .pipe => ["-r", "-w", "-e", "-p", "-O", "-G"].contains operator
  | some (.entry e) =>
    match operator with
    | "-f" => match e.node with
      | .file _ | .program _ => true
      | _ => false
    | "-d" => e.node = .directory
    | "-c" => match e.node with
      | .device _ => true
      | _ => false
    | "-h" | "-L" => match e.node with
      | .link _ => true
      | _ => false
    | "-s" => match e.node with
      | .file text => !text.isEmpty
      | .device _ => false
      | _ => true
    | "-x" => e.node = .directory || e.mode &&& 0o111 ≠ 0
    | "-u" => e.mode &&& 0o4000 ≠ 0
    | "-g" => e.mode &&& 0o2000 ≠ 0
    | "-k" => e.mode &&& 0o1000 ≠ 0
    | "-r" | "-w" | "-e" | "-O" | "-G" => true
    | _ => false

/-- Whether two files are related as an operator has it. -/
def relates (m : Machine) (operator left right : String) : Bool :=
  match m.world.disk.find m.place left, m.world.disk.find m.place right with
  | .ok (a, some x), .ok (b, some y) =>
    match operator with
    | "-nt" => y.time < x.time
    | "-ot" => x.time < y.time
    | _ => a == b
  | _, _ => false

/-- What a shell knows of files; no descriptor leads to a terminal. -/
def answers (m : Machine) : Condition.Answers where
  holds := holds m
  relates := relates m
  isTerminal _ := false

/-- Decides a condition. -/
def test (bracketed : Bool) : Builtin := fun arguments => do
  match Condition.decide (answers (← get)) bracketed arguments with
  | .ok decision => return { status := if decision then 0 else 1 }
  | .error complaint => fail complaint

end RouteKeeper.Shell.Builtin
