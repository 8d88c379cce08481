import RouteKeeper.Shell.Process

/-!
# Loops and choices

How commands are carried out again and again, for each of some fields, or for the
first pattern that matches.

## Implementation notes

Carrying out a command is handed in. A loop ends by itself after more rounds than
anybody waits for.
-/

namespace RouteKeeper.Shell

/-- More rounds than anybody waits for. -/
def manyRounds : Nat := 1 <<< 20

/-- What is still to be passed over after a part of a loop, and whether the loop goes on. -/
def Skip.afterRound : Option Skip → Option Skip × Bool
  | none => (none, true)
  | some (.leave loops) => (if loops ≤ 1 then none else some (.leave (loops - 1)), false)
  | some (.again loops) =>
    if loops ≤ 1 then (none, true) else (some (.again (loops - 1)), false)
  | some (.giveBack given) => (some (.giveBack given), false)

/-- Whether the end of a function or script is to be reached. -/
def Machine.givesBack (m : Machine) : Bool :=
  match m.skip with
  | some (.giveBack _) => true
  | _ => false

/-- Carries out the rounds of a loop with a condition. The status is that of the last body. -/
def conditionalRounds (go : Carry) (tested negated : Bool) (condition body : Command) :
    Nat → (status : Nat) → Act Unit
  | 0, _ => throw .exhausted
  | fuel + 1, status => fun m =>
    match (go { tested := true } condition).run m with
    | (.error stop, m) => (.error stop, m)
    | (.ok (), m) =>
      if m.skip.isSome then
        let (skip, goesOn) := Skip.afterRound m.skip
        let status := if m.givesBack then m.status else status
        if goesOn then
          conditionalRounds go tested negated condition body fuel status { m with skip }
        else (.ok (), { m with skip, status })
      else if (m.status == 0) == negated then (.ok (), { m with status })
      else
        match (go { tested } body).run m with
        | (.error stop, m) => (.error stop, m)
        | (.ok (), m) =>
          let (skip, goesOn) := Skip.afterRound m.skip
          if goesOn then
            conditionalRounds go tested negated condition body fuel m.status { m with skip }
          else (.ok (), { m with skip })

/-- Carries out the rounds of a loop over fields. The status is that of the last body. -/
def fieldRounds (go : Carry) (tested : Bool) (name : String) (body : Command) :
    List String → (status : Nat) → Act Unit
  | [], status => Act.setStatus status
  | x :: rest, _ => fun m =>
    match (do Act.assign name x; go { tested } body : Act Unit).run m with
    | (.error stop, m) => (.error stop, m)
    | (.ok (), m) =>
      let (skip, goesOn) := Skip.afterRound m.skip
      if goesOn then fieldRounds go tested name body rest m.status { m with skip }
      else (.ok (), { m with skip })

/-- Does something as part of a loop. -/
def inLoop (act : Act Unit) : Act Unit := do
  modify fun m => { m with loops := m.loops + 1 }
  act
  modify fun m => { m with loops := m.loops - 1 }

/-- Whether one of some patterns matches a text; they are expanded one after the other. -/
def matchesOne (output : Script → Act String) (text : List Char) : List Word → Act Bool
  | [] => return false
  | word :: rest => do
    let items ← expandPattern output word
    if Pattern.accepts items text then return true else matchesOne output text rest

/-- The first command one of whose patterns matches a text. -/
def chosen (output : Script → Act String) (text : List Char) :
    List (List Word × Command) → Act (Option Command)
  | [] => return none
  | (words, command) :: rest => do
    if ← matchesOne output text words then return some command else chosen output text rest

end RouteKeeper.Shell
