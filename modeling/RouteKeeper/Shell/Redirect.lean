import RouteKeeper.Shell.Expansion

/-!
# Redirection

How the words of redirections are expanded, and how descriptors are led elsewhere for
the time of a command.
-/

namespace RouteKeeper.Shell

open Act (fail)

/-- A redirection whose word is expanded. -/
inductive Ready where
  | file (descriptor : Nat) (direction : Direction) (path : String)
  /-- It leads where another descriptor leads, or nowhere. -/
  | duplicate (descriptor : Nat) (source : Option Nat)
  | document (descriptor : Nat) (word : Word)

namespace Ready

/-- The descriptor that is redirected. -/
def descriptor : Ready → Nat
  | .file d _ _ => d
  | .duplicate d _ => d
  | .document d _ => d

end Ready

/-- Expands the word of a redirection. -/
def expandRedirection (output : Script → Act String) : Redirection → Act Ready
  | .document descriptor number => do
    return .document descriptor ((← get).documents.getD number [])
  | .toward descriptor .duplicate word => do
    match (← expandText output .atStart word).toList with
    | ['-'] => return .duplicate descriptor none
    | [c] =>
      match Text.digit? c with
      | some n => return .duplicate descriptor (some n)
      | none => badNumber
    | _ => badNumber
  | .toward descriptor direction word => do
    return .file descriptor direction (← expandText output .atStart word)
where
  /-- Complains about a text that is no descriptor. -/
  badNumber : Act Ready := do
    modify fun m => { m with line := m.reached }
    fail "Syntax error: Bad fd number"

/-- Why a file cannot be opened, as it is written in complaints. -/
def Problem.textForOpening (creates : Bool) : Problem → String
  | .missing | .notDirectory => if creates then "Directory nonexistent" else "No such file"
  | problem => problem.text

/-- The channel to a file at a path, or what stands against it. A file that is written need not be
there; unless writing is appending or mixed with reading, what it held is lost. -/
def openFile (m : Machine) (direction : Direction) (path : String) : Except Problem (Machine × Nat) := do
  let d := m.world.disk
  let reads := direction = .input || direction = .both
  let writes := direction ≠ .input
  let truncates := direction = .output || direction = .overwrite
  let added (m : Machine) (c : Channel) : Machine × Nat :=
    let (number, m) := m.addChannel c
    (m, number)
  let (place, entry) ← d.find m.place path
  match entry with
  | none =>
    if !writes then throw .missing
    else if path.endsWith "/" then throw .isDirectory
    else
      let mode := 0o666 - (m.mask &&& 0o666)
      let m := { m with world.disk := d.put place ⟨.file "", mode, m.clock⟩ }
      return added m (.file place 0 reads writes (direction = .append))
  | some e =>
    match e.node with
    | .directory => if writes then throw .isDirectory else return added m (.file place 0 true false false)
    | .device (.descriptor number) =>
      match m.descriptors.lookup number with
      | some channel => return (m, channel)
      | none => throw .missing
    | .device .terminal => throw .noDevice
    | .device kind => return added m (.device kind)
    | _ =>
      if m.hasOption 'C' && direction = .output then throw .exists
      else
        let m := if truncates then
            { m with world.disk := d.put place { e with node := .file "", time := m.clock } }
          else m
        return added m (.file place 0 reads writes (direction = .append))

/-- Applies a redirection. -/
def Ready.apply (output : Script → Act String) : Ready → Act Unit
  | .file descriptor direction path => do
    match openFile (← get) direction path with
    | .ok (m, number) => set (m.lead descriptor (some number))
    | .error problem =>
      let creates := direction ≠ .input
      fail ((if creates then "cannot create " else "cannot open ") ++ path ++ ": " ++
        problem.textForOpening creates)
  | .duplicate descriptor none => modify fun m => m.lead descriptor none
  | .duplicate descriptor (some source) => do
    let m ← get
    match m.descriptors.lookup source with
    | some number => set (m.lead descriptor (some number))
    | none =>
      if source ≠ descriptor then
        fail (Text.decimal source ++ ": " ++ Problem.badDescriptor.text)
  | .document descriptor word => do
    let text ← expandText output .nowhere word
    let m ← get
    let (number, m) := m.addChannel (.pipe m.world.fresh [(m.clock, text.toList)] false)
    set (m.lead descriptor (some number))

/-- Applies redirections one after the other; tells whether all of them could be applied. -/
def applyAll (output : Script → Act String) (rs : List Ready) : Act Bool := fun m =>
  match (rs.forM (Ready.apply output)).run m with
  | (.ok (), m) => (.ok true, m)
  | (.error .failed, m) => (.ok false, m)
  | (.error stop, m) => (.error stop, m)

/-- Leads descriptors back to where they led before. -/
def leadBack (before : Machine) (rs : List Ready) : Act Unit :=
  modify fun m =>
    let m := rs.foldl (fun m r => m.lead r.descriptor (before.descriptors.lookup r.descriptor)) m
    m.forgetChannels before.world.fresh

/-- Does something while descriptors are redirected; they are led back when it stops, too. -/
def whileRedirected {α : Type} (before : Machine) (rs : List Ready) (act : Act α) : Act α := fun m =>
  let (result, after) := act.run m
  (result, ((leadBack before rs).run after).2)

end RouteKeeper.Shell
