import RouteKeeper.Shell.Regex
import RouteKeeper.Shell.Utility.Character

/-!
# Editing lines

The program that changes lines by a script: commands that are applied to the lines that
their addresses mean.

## Implementation notes

The commands of a script stand in one list, and a block is left by going to the command
after its end. A line can be worked on as long as some fuel lasts.
-/

namespace RouteKeeper.Shell.Utility

namespace Edit

/-! ## Scripts -/

/-- Which lines a command is applied to. -/
inductive Address where
  | line (n : Nat)
  | last
  | pattern (r : Option Regex) (ignoresCase : Bool)
  /-- A line, and every so many lines after it. -/
  | step (first by_ : Nat)
  /-- So many lines after the first address. -/
  | after (n : Nat)

/-- A part of a replacement. -/
inductive Part where
  | text (cs : List Char)
  | group (number : Nat)
  /-- What follows is changed to capital letters or small ones, or no longer; or just its first
  letter. -/
  | case_ (letter : Char)

/-- What a command does. -/
inductive Action where
  | openBlock
  | closeBlock
  | substitute (r : Option Regex) (ignoresCase : Bool) (parts : List Part) (which : Nat)
      (all prints : Bool)
  | translate (table : List (Char × Char))
  | append (text : String)
  | insert (text : String)
  | change (text : String)
  | label (name : String)
  /-- Goes to a label: always, after a substitution, or without one. -/
  | jump (kind : Char) (name : String)
  /-- Another command by its letter, perhaps with a number. -/
  | plain (letter : Char) (n : Nat)

/-- A command with its addresses. -/
structure Command where
  first : Option Address := none
  second : Option Address := none
  negated : Bool := false
  action : Action

/-- What is left of a script, or what is wrong with it and how much was left then. -/
abbrev Read := StateT (List Char) (Except (String × Nat))

/-- Complains at the place that has been reached. -/
def wrong {α : Type} (complaint : String) : Read α := do
  throw (complaint, (← get).length)

/-- Complains at the end of the script. -/
def unfinished {α : Type} (complaint : String) : Read α :=
  throw (complaint, 0)

/-- Takes the next character. -/
def next : Read (Option Char) := do
  match ← get with
  | [] => return none
  | c :: rest => do
    set rest
    return some c

/-- Passes over characters. -/
def pass (isPassed : Char → Bool) : Read Unit :=
  modify fun cs => cs.dropWhile isPassed

/-- Takes characters. -/
def take (isTaken : Char → Bool) : Read (List Char) := do
  let (taken, rest) := (← get).span isTaken
  set rest
  return taken

/-- Reads up to a delimiter. A backslash before the delimiter falls away; in a bracket, the delimiter
is a character like others if `brackets`. -/
def delimited (delimiter : Char) (brackets : Bool) : Nat → (inBracket : Bool) → List Char →
    Option (List Char × List Char)
  | 0, _, _ => none
  | _, _, [] => none
  | fuel + 1, inBracket, '\\' :: c :: rest =>
    let taken : List Char :=
      if c == delimiter && !inBracket then [c]
      else if c == 'n' && !inBracket && brackets then ['\n'] else ['\\', c]
    if inBracket then
      (delimited delimiter brackets fuel true (c :: rest)).map fun (cs, left) => ('\\' :: cs, left)
    else (delimited delimiter brackets fuel inBracket rest).map fun (cs, left) => (taken ++ cs, left)
  | fuel + 1, inBracket, c :: rest =>
    if c == delimiter && !inBracket then some ([], rest)
    else if c == '\n' && brackets && !inBracket then none
    else
      let (skipped, rest) : List Char × List Char :=
        if brackets && c == '[' && !inBracket then
          match rest with
          | '^' :: ']' :: rest => ([c, '^', ']'], rest)
          | ']' :: rest => ([c, ']'], rest)
          | rest => ([c], rest)
        else ([c], rest)
      let inside := if brackets && c == '[' then true else if c == ']' then false else inBracket
      (delimited delimiter brackets fuel inside rest).map fun (cs, left) => (skipped ++ cs, left)

/-- The regular expression that a text spells; an empty one stands for the last one that was used. -/
def readRegex (extended : Bool) (cs : List Char) : Read (Option Regex) :=
  if cs.isEmpty then return none
  else
    match Regex.ofText extended cs with
    | .ok r => return some r
    | .error complaint => unfinished complaint

/-- Reads an address, if one is there. -/
def address? (extended : Bool) : Read (Option Address) := do
  match ← get with
  | '$' :: rest => do
    set rest
    return some .last
  | '+' :: rest => do
    set rest
    return some (.after (Integer.valueIn 10 (← take Char.isDigit)))
  | '/' :: rest => pattern '/' rest
  | '\\' :: c :: rest => pattern c rest
  | c :: _ =>
    if c.isDigit then do
      let n := Integer.valueIn 10 (← take Char.isDigit)
      match ← get with
      | '~' :: rest => do
        set rest
        return some (.step n (Integer.valueIn 10 (← take Char.isDigit)))
      | _ => return some (.line n)
    else return none
  | [] => return none
where
  /-- Reads a regular expression up to a delimiter, and the letter after it. -/
  pattern (delimiter : Char) (rest : List Char) : Read (Option Address) := do
    match delimited delimiter true (rest.length + 1) false rest with
    | none => unfinished "unterminated address regex"
    | some (cs, rest) => do
      let ignoresCase := rest.head? = some 'I'
      set (if ignoresCase then rest.tail else rest)
      return some (.pattern (← readRegex extended cs) ignoresCase)

/-- The parts of a replacement. -/
def partsOf : List Char → List Part
  | [] => []
  | '&' :: rest => .group 0 :: partsOf rest
  | '\\' :: c :: rest =>
    match Text.digit? c with
    | some n => .group n :: partsOf rest
    | none =>
      if "ULEul".toList.contains c then .case_ c :: partsOf rest
      else
        let d := match c with
          | 'n' => '\n'
          | 't' => '\t'
          | 'r' => '\r'
          | c => c
        .text [d] :: partsOf rest
  | c :: rest => .text [c] :: partsOf rest

/-- Reads the end of a command: blanks, and the end of a line, a semicolon or a closing brace. -/
def endOfCommand : Read Unit := do
  pass isBlank
  match ← get with
  | [] => return ()
  | c :: rest =>
    if c == '\n' || c == ';' then set rest
    else if c == '\x7d' || c == '#' then return ()
    else do
      set rest
      wrong "extra characters after command"

/-- Reads the flags of a substitution: which match, all matches, printing, and the case. -/
def flags : Nat → (which : Nat) → (all prints ignoresCase : Bool) →
    Read (Nat × Bool × Bool × Bool)
  | 0, which, all, prints, ignoresCase => return (which, all, prints, ignoresCase)
  | fuel + 1, which, all, prints, ignoresCase => do
    match ← get with
    | 'g' :: rest => do
      set rest
      flags fuel which true prints ignoresCase
    | 'p' :: rest => do
      set rest
      flags fuel which all true ignoresCase
    | c :: rest =>
      if c == 'i' || c == 'I' then do
        set rest
        flags fuel which all prints true
      else if c.isDigit then do
        let n := Integer.valueIn 10 (← take Char.isDigit)
        if n = 0 then wrong "number option to `s' command may not be zero"
        flags fuel n all prints ignoresCase
      else if c == '\n' || c == ';' || c == '\x7d' || c == '#' || isBlank c then
        return (which, all, prints, ignoresCase)
      else do
        set rest
        wrong "unknown option to `s'"
    | [] => return (which, all, prints, ignoresCase)

/-- Reads the text of a command up to the end of a line. A backslash joins lines. -/
def textOfCommand : Read String := do
  pass isBlank
  match ← get with
  | '\\' :: rest => set (match rest.dropWhile isBlank with
    | '\n' :: more => more
    | _ => rest)
  | _ => pure ()
  let cs ← get
  if cs.isEmpty then unfinished "expected \\ after `a', `c' or `i'"
  let (text, rest) := go cs
  set rest
  return String.ofList (text ++ ['\n'])
where
  /-- The characters up to the end of a line that no backslash joins to the next one. -/
  go : List Char → List Char × List Char
    | [] => ([], [])
    | '\n' :: rest => ([], rest)
    | '\\' :: c :: rest =>
      let (text, left) := go rest
      (c :: text, left)
    | c :: rest =>
      let (text, left) := go rest
      (c :: text, left)

/-- Reads what a command does. -/
def action (extended : Bool) : Read Action := do
  match ← next with
  | none => unfinished "missing command"
  | some '\x7b' => return .openBlock
  | some '\x7d' => do
    endOfCommand
    return .closeBlock
  | some 's' => do
    let delimiter := (← next).getD '\n'
    let cs ← get
    match delimited delimiter true (cs.length + 1) false cs with
    | none => unfinished "unterminated `s' command"
    | some (pattern, rest) =>
      match delimited delimiter false (rest.length + 1) false rest with
      | none => unfinished "unterminated `s' command"
      | some (replacement, rest) => do
        set rest
        let r ← readRegex extended pattern
        let parts := partsOf replacement
        let groups := (r.map Regex.groupCount).getD 9
        for part in parts do
          if let .group n := part then
            if groups < n then
              let number := Text.decimal n
              wrong ("invalid reference \\" ++ number ++ " on `s' command's RHS")
        let (which, all, prints, ignoresCase) ← flags (rest.length + 1) 1 false false false
        endOfCommand
        return .substitute r ignoresCase parts which all prints
  | some 'y' => do
    let delimiter := (← next).getD '\n'
    let cs ← get
    let parts := do
      let (old, rest) ← delimited delimiter false (cs.length + 1) false cs
      let (new, rest) ← delimited delimiter false (rest.length + 1) false rest
      return (old, new, rest)
    match parts with
    | none => unfinished "unterminated `y' command"
    | some (old, new, rest) => do
      set rest
      let old := plainCharacters old
      let new := plainCharacters new
      if old.length ≠ new.length then wrong "strings for `y' command are different lengths"
      endOfCommand
      return .translate (old.zip new)
  | some 'a' => return .append (← textOfCommand)
  | some 'i' => return .insert (← textOfCommand)
  | some 'c' => return .change (← textOfCommand)
  | some ':' => do
    pass isBlank
    let name ← take fun c => c != '\n' && c != ';'
    if name.isEmpty then wrong "\":\" lacks a label"
    endOfCommand
    return .label (String.ofList name)
  | some c =>
    if c == 'b' || c == 't' || c == 'T' then do
      pass isBlank
      let name ← take fun c => c != '\n' && c != ';' && c != '\x7d' && !isBlank c
      endOfCommand
      return .jump c (String.ofList name)
    else if "dDgGhHlnNpPqQxz=".toList.contains c then do
      pass isBlank
      let ds ← take fun d => d.isDigit && (c == 'q' || c == 'Q' || c == 'l')
      let n := Integer.valueIn 10 ds
      endOfCommand
      return .plain c n
    else wrong ("unknown command: `" ++ String.singleton c ++ "'")
where
  /-- Characters without the backslashes in front of them. -/
  plainCharacters : List Char → List Char
    | '\\' :: 'n' :: rest => '\n' :: plainCharacters rest
    | '\\' :: c :: rest => c :: plainCharacters rest
    | c :: rest => c :: plainCharacters rest
    | [] => []

/-- Reads the commands of a script. -/
def commands (extended : Bool) : Nat → (depth : Nat) → Read (List Command)
  | 0, _ => return []
  | fuel + 1, depth => do
    pass fun c => c == '\n' || c == ';' || isBlank c
    match ← get with
    | [] => if depth = 0 then return [] else throw ("unmatched `\x7b'", 1 <<< 32)
    | '#' :: _ => do
      pass (· != '\n')
      commands extended fuel depth
    | _ => do
      let first ← address? extended
      pass isBlank
      let second ← match first, ← get with
        | some _, ',' :: rest => do
          set rest
          pass isBlank
          match ← address? extended with
          | some a => pure (some a)
          | none => do
            let _ ← next
            wrong "unexpected `,'"
        | _, _ => pure none
      pass isBlank
      let negated := (← get).head? = some '!'
      if negated then
        pass fun c => c == '!' || isBlank c
      let a ← action extended
      let depth ← match a with
        | .openBlock => pure (depth + 1)
        | .closeBlock => if depth = 0 then wrong "unexpected `\x7d'" else pure (depth - 1)
        | _ => pure depth
      let more ← commands extended fuel depth
      return { first, second, negated, action := a } :: more

/-! ## Applying -/

/-- What is known while lines are edited. -/
structure State where
  space : List Char := []
  hold : List Char := []
  line : Nat := 0
  /-- The lines that are left. -/
  left : List (List Char)
  /-- What has been written, the latest first. -/
  written : List String := []
  /-- What is written after the line. -/
  appended : List String := []
  substituted : Bool := false
  /-- The commands whose second address has not been reached, and the line at which it is, if it is
  known. -/
  active : List (Nat × Option Nat) := []
  lastRegex : Option (Regex × Bool) := none
  /-- The status with which the program ends now. -/
  ending : Option Nat := none

/-- How the editing of a line goes on. -/
inductive Step where
  | goTo (i : Nat)
  /-- The line is done with; it is written unless the lines are written on demand. -/
  | finish (prints : Bool)
  /-- The first line of what is edited is done with, and the rest is edited again. -/
  | again

/-- Writes a text. -/
def State.write (s : State) (text : String) : State :=
  { s with written := text :: s.written }

/-- Whether an address means the line. -/
def State.meets (s : State) : Address → Bool × State
  | .line n => (s.line == n, s)
  | .last => (s.left.isEmpty, s)
  | .step first by_ =>
    (if by_ = 0 then s.line == first else first ≤ s.line && (s.line - first) % by_ == 0, s)
  | .after _ => (false, s)
  | .pattern r ignoresCase =>
    match r.map (·, ignoresCase) <|> s.lastRegex with
    | none => (false, s)
    | some (r, fold) =>
      ((Regex.search r fold { rest := s.space }).isSome, { s with lastRegex := some (r, fold) })

/-- Whether a command is applied to the line. -/
def State.applies (s : State) (i : Nat) (c : Command) : Bool × State :=
  let (result, s) := match c.first, c.second with
    | none, _ => (true, s)
    | some a, none => s.meets a
    | some a, some b =>
      match s.active.lookup i with
      | some goal =>
        let (ends, s) : Bool × State := match goal with
          | some n => (n ≤ s.line, s)
          | none => s.meets b
        let isPast := goal.any (· < s.line)
        let s := if ends then { s with active := s.active.filter (·.1 ≠ i) } else s
        (!isPast, s)
      | none =>
        let startsBefore : Bool := match a with
          | .line 0 => s.line == 1
          | _ => false
        let (starts, s) := s.meets a
        if startsBefore then
          let (ends, s) := s.meets b
          (true, if ends then s else { s with active := (i, none) :: s.active })
        else if !starts then (false, s)
        else
          match b with
          | .line n =>
            (true, if n ≤ s.line then s else { s with active := (i, some n) :: s.active })
          | .after n =>
            (true, if n = 0 then s else { s with active := (i, some (s.line + n)) :: s.active })
          | _ => (true, { s with active := (i, none) :: s.active })
  (result != c.negated, s)

/-- What a replacement comes to for a match. -/
def replacement (m : Regex.Match) : List Part → (all : Option Char) → (once : Option Char) → List Char
  | [], _, _ => []
  | .case_ c :: rest, all, _ =>
    if c == 'u' || c == 'l' then replacement m rest all (some c)
    else replacement m rest (if c == 'E' then none else some c) none
  | part :: rest, all, once =>
    let cs := match part with
      | .text cs => cs
      | .group 0 => m.text
      | .group n => (m.groups.lookup n).getD []
      | .case_ _ => []
    let cs := match all with
      | some 'U' => cs.map Char.toUpper
      | some 'L' => cs.map Char.toLower
      | _ => cs
    let changed := match once, cs with
      | some 'u', c :: cs => c.toUpper :: cs
      | some 'l', c :: cs => c.toLower :: cs
      | _, cs => cs
    changed ++ replacement m rest all (if cs.isEmpty then once else none)

/-- Replaces matches from a place on: the `which`-th one, and those after it if `all`. Tells whether
there was one. An empty match right after another match does not count. -/
def substituteFrom (r : Regex) (fold all : Bool) (parts : List Part) :
    Nat → (which : Nat) → (afterMatch : Bool) → Regex.Place → List Char × Bool
  | 0, _, _, p => (p.rest, false)
  | fuel + 1, which, afterMatch, p =>
    match Regex.search r fold p with
    | none => (p.rest, false)
    | some m =>
      let goOn (which : Nat) (afterMatch : Bool) (p : Regex.Place) : List Char × Bool :=
        substituteFrom r fold all parts fuel which afterMatch p
      if m.text.isEmpty && m.before.isEmpty && afterMatch then
        match p.next with
        | none => ([], false)
        | some (c, q) =>
          let (cs, found) := goOn which false q
          (c :: cs, found)
      else
        let counts := which ≤ 1
        let text := if counts then replacement m parts none none else m.text
        if counts && !all then (m.before ++ text ++ m.after.rest, true)
        else if m.text.isEmpty then
          match m.after.next with
          | none => (m.before ++ text, counts)
          | some (c, q) =>
            let (cs, found) := goOn (which - 1) false q
            (m.before ++ text ++ c :: cs, counts || found)
        else
          let (cs, found) := goOn (which - 1) true m.after
          (m.before ++ text ++ cs, counts || found)

/-- The place after the end of the block that begins at a place. -/
def afterBlock (cs : List Command) : Nat → (i depth : Nat) → Nat
  | 0, i, _ => i
  | fuel + 1, i, depth =>
    match cs[i]? with
    | none => i
    | some c =>
      match c.action with
      | .openBlock => afterBlock cs fuel (i + 1) (depth + 1)
      | .closeBlock => if depth ≤ 1 then i + 1 else afterBlock cs fuel (i + 1) (depth - 1)
      | _ => afterBlock cs fuel (i + 1) depth

/-- The place of a label, or the end of the script. -/
def placeOf (cs : List Command) (name : String) : Nat :=
  if name.isEmpty then cs.length
  else cs.findIdx fun c => match c.action with
    | .label n => n == name
    | _ => false

/-- Goes to the next line, after what is written after this one. -/
def State.advance (s : State) (joins : Bool) : State :=
  match s.left with
  | [] => s
  | l :: rest =>
    let s := { s with written := s.appended.reverse ++ s.written, appended := [] }
    { s with
      space := if joins then s.space ++ '\n' :: l else l
      left := rest
      line := s.line + 1 }

/-- The text of a line as `l` shows it. -/
def unambiguous (cs : List Char) : String :=
  String.ofList (cs.flatMap fun c => if c == '\\' then ['\\', '\\'] else
    if isShown c then [c] else escape c) ++ "$\n"

/-- Carries out an action. -/
def perform (quiet : Bool) (cs : List Command) (i : Nat) (a : Action) (s : State) : Step × State :=
  let spaceText := String.ofList s.space ++ "\n"
  let onward : Step := .goTo (i + 1)
  match a with
  | .openBlock | .closeBlock | .label _ => (onward, s)
  | .substitute r ignoresCase parts which all prints =>
    match r.map (·, ignoresCase) <|> s.lastRegex with
    | none => (onward, s)
    | some (r, fold) =>
      let s := { s with lastRegex := some (r, fold) }
      let (space, found) :=
        substituteFrom r fold all parts (s.space.length + 2) which false { rest := s.space }
      if !found then (onward, s)
      else
        let s := { s with space, substituted := true }
        (onward, if prints then s.write (String.ofList space ++ "\n") else s)
  | .translate table => (onward, { s with space := s.space.map fun c => (table.lookup c).getD c })
  | .append text => (onward, { s with appended := s.appended ++ [text] })
  | .insert text => (onward, s.write text)
  | .change text =>
    let isLast := !(s.active.any (·.1 = i))
    (.finish false, if isLast then s.write text else s)
  | .jump kind name =>
    if kind == 'b' then (.goTo (placeOf cs name), s)
    else
      let taken := (kind == 't') == s.substituted
      let s := { s with substituted := false }
      (if taken then .goTo (placeOf cs name) else onward, s)
  | .plain letter n =>
    match letter with
    | 'd' => (.finish false, s)
    | 'D' =>
      match s.space.dropWhile (· != '\n') with
      | _ :: rest => (.again, { s with space := rest })
      | [] => (.finish false, s)
    | 'g' => (onward, { s with space := s.hold })
    | 'G' => (onward, { s with space := s.space ++ '\n' :: s.hold })
    | 'h' => (onward, { s with hold := s.space })
    | 'H' => (onward, { s with hold := s.hold ++ '\n' :: s.space })
    | 'x' => (onward, { s with space := s.hold, hold := s.space })
    | 'z' => (onward, { s with space := [] })
    | 'p' => (onward, s.write spaceText)
    | 'P' => (onward, s.write (String.ofList (s.space.takeWhile (· != '\n')) ++ "\n"))
    | '=' => (onward, s.write (Text.decimal s.line ++ "\n"))
    | 'l' => (onward, s.write (unambiguous s.space))
    | 'n' =>
      if s.left.isEmpty then (.finish true, { s with ending := some 0 })
      else (onward, (if quiet then s else s.write spaceText).advance false)
    | 'N' =>
      if s.left.isEmpty then (.finish true, { s with ending := some 0 })
      else (onward, s.advance true)
    | 'q' => (.finish true, { s with ending := some n })
    | _ => (.finish false, { s with ending := some n })

/-- Carries out the commands from a place on. -/
def runFrom (quiet : Bool) (cs : List Command) : Nat → (i : Nat) → State → Step × State
  | 0, _, s => (.finish true, s)
  | fuel + 1, i, s =>
    match cs[i]? with
    | none => (.finish true, s)
    | some c =>
      let (applies, s) := s.applies i c
      let isBlock := match c.action with
        | .openBlock => true
        | _ => false
      if !applies then
        runFrom quiet cs fuel (if isBlock then afterBlock cs cs.length (i + 1) 1 else i + 1) s
      else
        match perform quiet cs i c.action s with
        | (.goTo j, s) => runFrom quiet cs fuel j s
        | answer => answer

/-- More commands than are carried out for a line. -/
def patience : Nat := 1 <<< 20

/-- Edits the lines that are left. -/
def runLines (quiet : Bool) (cs : List Command) : Nat → (fresh : Bool) → State → State
  | 0, _, s => s
  | fuel + 1, fresh, s =>
    if fresh && (s.left.isEmpty || s.ending.isSome) then s
    else
      let s := if fresh then { s.advance false with substituted := false } else s
      let (step, s) := runFrom quiet cs patience 0 s
      let isQuit := s.ending.isSome
      let finish (prints : Bool) (s : State) : State :=
        let s := if prints && !quiet then s.write (String.ofList s.space ++ "\n") else s
        { s with written := s.appended.reverse ++ s.written, appended := [] }
      match step with
      | .again => runLines quiet cs fuel false (finish false s)
      | .finish prints => if isQuit then finish prints s else runLines quiet cs fuel true (finish prints s)
      | .goTo _ => runLines quiet cs fuel true (finish true s)

end Edit

/-- Changes lines by a script. -/
def sed : Utility := fun arguments => do
  let a ← match ({ letters := "nEre:f:isuz"
                   names := [("quiet", 'n'), ("silent", 'n'), ("regexp-extended", 'E'),
                     ("expression", 'e'), ("in-place", 'i')] } : Grammar).read
      (arguments.length + 1) arguments with
    | .ok a => pure a
    | .error complaint => refuse complaint
  let scripts := (a.options.filter (·.1 == 'e')).map (·.2)
  let (script, paths) ← match scripts, a.others with
    | [], [] => do
      Act.sayLine "Usage: sed [OPTION]... \x7bscript-only-if-no-other-script\x7d [input-file]..."
      quit 1
    | [], x :: paths => pure (x, paths)
    | scripts, paths => pure ("\n".intercalate scripts, paths)
  let extended := a.has 'E' || a.has 'r'
  let cs ← match (Edit.commands extended (script.length + 2) 0).run script.toList with
    | .ok (cs, _) => pure cs
    | .error (complaint, left) =>
      let n := script.length - left
      giveUp ("-e expression #1, char " ++ Text.decimal n ++ ": " ++ complaint)
  let labels := cs.filterMap fun c => match c.action with
    | .label name => some name
    | _ => none
  for c in cs do
    if let .jump _ name := c.action then
      if !name.isEmpty && !labels.contains name then
        giveUp ("can't find label for jump to `" ++ name ++ "'") 4
  let mut texts : List (String × String) := []
  let mut wanting : Option Stop := none
  let mut status := 0
  for path in if paths.isEmpty then ["-"] else paths do
    match ← input path with
    | .error .isDirectory => do
      complain ("read error on " ++ path ++ ": " ++ Problem.isDirectory.text)
      status := 4
    | .error problem => do
      complain ("can't read " ++ path ++ ": " ++ problem.text)
      status := 2
    | .ok i => do
      texts := texts ++ [(path, i.text)]
      wanting := wanting <|> i.wanting
  let edit (text : String) : Edit.State × String :=
    let ls := (linesOf text).map (·.toList)
    let s := Edit.runLines (a.has 'n') cs (ls.length + Edit.patience) true { left := ls }
    let out := String.join s.written.reverse
    let isCut := isOpen text && s.left.isEmpty && out.endsWith "\n" && s.appended.isEmpty
    (s, if isCut then String.ofList out.toList.dropLast else out)
  if a.has 'i' then do
    for (path, text) in texts do
      let (_, out) := edit text
      match openFile (← get) .overwrite path with
      | .ok (m, number) => do
        set (m.lead 9 (some number))
        let _ ← Act.write 9 out
      | .error _ => pure ()
    return status
  else do
    let (s, out) := edit (String.join (texts.map (·.2)))
    put out
    if s.ending.isSome && paths.isEmpty then
      unread 0 ((s.left.map (·.length + 1)).foldl (· + ·) 0)
    match wanting, s.ending with
    | some stop, none => throw stop
    | _, _ => return max status (s.ending.getD 0)

end RouteKeeper.Shell.Utility
