import RouteKeeper.Shell.Arithmetic
import RouteKeeper.Shell.Field
import RouteKeeper.Shell.Glob
import RouteKeeper.Shell.Parameter

/-!
# Expansion

What the pieces of a word come to. Values and what scripts write are split into fields
unless they are quoted; so is what stands in the place of a missing parameter.

## Implementation notes

The evaluation of a script is handed in, since a script is made of words and a word may
hold scripts.
-/

namespace RouteKeeper.Shell

open Act (fail)

/-- Where a tilde stands for a directory. -/
inductive Tildes where
  | nowhere
  /-- At the start of a word. -/
  | atStart
  /-- At the start of a word and after colons. -/
  | afterColons
  /-- After the equals sign of an assignment and after colons. -/
  | afterEquals
  deriving DecidableEq

/-- How a word is expanded. -/
structure Manner where
  /-- It stands between double quotes. -/
  quoted : Bool := false
  /-- It will be split into fields. -/
  full : Bool := false
  /-- It stands in the place of a parameter, so that its own text is split too. -/
  inPlace : Bool := false
  tildes : Tildes := .nowhere
  deriving DecidableEq

/-- The home directory of a user, if the user is known. -/
def homeOf? (user : String) : Option String :=
  if user == "root" then some "/root"
  else if user == "daemon" then some "/usr/sbin"
  else if user == "nobody" then some "/nonexistent"
  else none

/-- The name of the user after a tilde, if no quote or expansion is in it. -/
def tildeUser? (colonEnds : Bool) : Word → Option (List Char)
  | [] => some []
  | .plain c :: rest =>
    if c == '/' || (colonEnds && c == ':') then some [] else (tildeUser? colonEnds rest).map (c :: ·)
  | .parameter _ _ :: rest => (tildeUser? colonEnds rest).map ('\x00' :: ·)
  | _ => none

/-- The directory that a tilde with the pieces after it stands for, and how many of these pieces
belong to it. -/
def tilde? (m : Machine) (colonEnds : Bool) (rest : Word) : Option (String × Nat) :=
  match tildeUser? colonEnds rest with
  | none => none
  | some [] => (m.value? "HOME").map (·, 0)
  | some user => (homeOf? (String.ofList user)).map (·, user.length)

/-- A text that was put in: characters that are split unless they are quoted. -/
def putIn (quoted : Bool) (cs : List Char) : List Segment :=
  [⟨if quoted then .never else .atSeparators, cs.map (.char · quoted)⟩]

/-- All arguments in one text, with what stands between them. -/
def allOf (m : Machine) (manner : Manner) (name : String) : List Char :=
  let first : List Char := match m.value? "IFS" with
    | none => [' ']
    | some s => (s.toList.head?).toList
  let between : List Char :=
    if name == "@" && manner.quoted && manner.full then ['\x00']
    else if manner.quoted || !manner.full then first
    else if (m.value? "IFS").isSome then ['\x00'] else [' ']
  List.intercalate between (m.arguments.map (·.toList))

/-- The value of a parameter. -/
def valueOf? (m : Machine) (manner : Manner) (name : String) : Option (List Char) :=
  if name == "@" || name == "*" then some (allOf m manner name)
  else (m.parameter? name).map (·.toList)

/-- The value of a parameter as it is put in. -/
def putInValue (m : Machine) (manner : Manner) (name : String) (value : List Char) : List Segment :=
  if manner.quoted && name == "@" && !m.arguments.isEmpty then
    [⟨.atGaps, value.map (.char · true)⟩]
  else putIn manner.quoted value

/-- Puts a character of a word before the segments after it. Characters that stand together are one
segment. -/
def consPlain (manner : Manner) (c : Char) (joins : Bool) (rest : List Segment) : List Segment :=
  if manner.quoted || !manner.inPlace then .fixed [.char c manner.quoted] :: rest
  else
    match joins, rest with
    | true, s :: more => { s with glyphs := .char c false :: s.glyphs } :: more
    | _, _ => ⟨.atSeparators, [.char c false]⟩ :: rest

/-- Whether a piece is a character of a word as it stands. -/
def isPlain : Piece → Bool
  | .plain _ => true
  | _ => false

/-- The kinds of tildes after a character of an assignment. -/
def Tildes.after (t : Tildes) (c : Char) : Tildes × Bool :=
  match t with
  | .afterEquals => if c == '=' then (.afterColons, true) else (.afterEquals, false)
  | .afterColons => (.afterColons, c == ':')
  | t => (t, false)

/-- Evaluates an arithmetic expression and assigns what it assigns. -/
def arithmetic (text : String) : Act (List Char) := do
  let m ← get
  match Arithmetic.evaluate (fun x => (m.value? x).getD "") text.toList with
  | .error .divisionOverflow => Act.die 8
  | .error complaint => fail (complaint.text text)
  | .ok (n, assigned) => do
    for (x, v) in assigned.reverse do
      Act.assign x v
    return (Arithmetic.toText n).toList

/-- The text of a script's output without characters zero and the ends of lines at its end. -/
def trimmedOutput (text : String) : List Char :=
  ((text.toList.filter (· != '\x00')).reverse.dropWhile (· == '\n')).reverse

mutual

/-- Expands pieces from the left to the right. The first `passed` of them are passed over; `start`
says that a tilde here stands for a directory. -/
def expandPieces (output : Script → Act String) (manner : Manner) :
    Word → (passed : Nat) → (start : Bool) → Act (List Segment)
  | [], _, _ => return []
  | _ :: rest, passed + 1, _ => expandPieces output manner rest passed false
  | piece :: rest, 0, start =>
    match piece with
    | .plain c => do
      let colonEnds := manner.tildes = .afterColons || manner.tildes = .afterEquals
      let m ← get
      let isTilde := start && c == '~' && !manner.quoted
      match if isTilde then tilde? m colonEnds rest else none with
      | some (home, n) => do
        let more ← expandPieces output manner rest n false
        return Segment.quotedText home.toList :: more
      | none => do
        let (tildes, start) := manner.tildes.after c
        let more ← expandPieces output { manner with tildes } rest 0 start
        return consPlain manner c (rest.head?.any isPlain) more
    | piece => do
      let segments ← expandPiece output manner piece
      return segments ++ (← expandPieces output manner rest 0 false)

/-- Expands one piece. -/
def expandPiece (output : Script → Act String) (manner : Manner) : Piece → Act (List Segment)
  | .plain c => return consPlain manner c false []
  | .escaped c => return [.fixed [.char c true]]
  | .single text => return [.fixed (.quote :: text.map (.char · true))]
  | .double pieces => do
    let inside := { manner with quoted := true, inPlace := false, tildes := .nowhere }
    let segments ← expandPieces output inside pieces 0 false
    match pieces with
    | [.parameter "@" .value] => return segments
    | _ => return .fixed [.quote] :: segments
  | .parameter name form => expandForm output manner name form
  | .arithmetic pieces => do
    let text := joinedText (← expandPieces output {} pieces 0 false)
    return putIn manner.quoted (← arithmetic text)
  | .outputOf script => do
    let text ← output script
    return putIn manner.quoted (trimmedOutput text)

/-- Expands a parameter. -/
def expandForm (output : Script → Act String) (manner : Manner) (name : String) :
    Form → Act (List Segment)
  | .unknown => fail "Bad substitution"
  | .value => do
    let m ← get
    match valueOf? m manner name with
    | some value => return putInValue m manner name value
    | none =>
      if m.hasOption 'u' then fail (name ++ ": parameter not set")
      else return putIn manner.quoted []
  | .length => do
    let m ← get
    match valueOf? m manner name with
    | some value => return putIn manner.quoted (Text.digits value.length)
    | none =>
      if m.hasOption 'u' then fail (name ++ ": parameter not set")
      else return putIn manner.quoted ['0']
  | .fallback kind orEmpty word => do
    let m ← get
    let value := (valueOf? m manner name).filter fun v => !(orEmpty && v.isEmpty)
    let inside := { manner with
      inPlace := true
      tildes := if manner.tildes = .nowhere then .atStart else manner.tildes }
    match kind, value with
    | .replace, none => return putIn manner.quoted []
    | .replace, some _ => expandPieces output inside word 0 true
    | _, some value => return putInValue m manner name value
    | .use, none => expandPieces output inside word 0 true
    | .assign, none => do
      let text := joinedText (← expandPieces output { tildes := .atStart } word 0 true)
      Act.assign name text
      return putInValue (← get) manner name text.toList
    | .complain, none => do
      let text := joinedText (← expandPieces output { tildes := .atStart } word 0 true)
      let text := if !word.isEmpty then text
        else if orEmpty then "parameter not set or null" else "parameter not set"
      fail (name ++ ": " ++ text)
  | .trimmed atEnd longest word => do
    let m ← get
    match valueOf? m manner name with
    | none =>
      if m.hasOption 'u' then fail (name ++ ": parameter not set")
      else do
        let _ ← expandPieces output { tildes := .atStart } word 0 true
        return putIn manner.quoted []
    | some value => do
      let segments ← expandPieces output { tildes := .atStart } word 0 true
      let items := patternOf (segments.flatMap (·.glyphs))
      return putInValue (← get) manner name (Pattern.trim atEnd longest items value)

end

/-- The fields of a word, among them the paths that its patterns match. -/
def expandFields (output : Script → Act String) (word : Word) : Act (List String) := do
  let segments ← expandPieces output { full := true, tildes := .atStart } word 0 true
  let m ← get
  let fields := Field.split m.separators none segments
  return fields.flatMap fun glyphs =>
    let paths := if m.hasOption 'f' then [] else Glob.paths m.world.disk m.place glyphs
    if paths.isEmpty then [textOf glyphs] else paths

/-- The text of a word that is not split. -/
def expandText (output : Script → Act String) (tildes : Tildes) (word : Word) : Act String := do
  let start := tildes = .atStart || tildes = .afterColons
  return joinedText (← expandPieces output { tildes } word 0 start)

/-- The pattern that a word makes up. -/
def expandPattern (output : Script → Act String) (word : Word) : Act (List Pattern.Item) := do
  let segments ← expandPieces output { tildes := .atStart } word 0 true
  return patternOf (segments.flatMap (·.glyphs))

end RouteKeeper.Shell
