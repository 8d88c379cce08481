import RouteKeeper.Shell.Integer
import RouteKeeper.Shell.Pattern
import RouteKeeper.Shell.Words

/-!
# Regular expressions

Basic and extended regular expressions, and the first and longest part of a text that
one of them matches.

## Implementation notes

All ends of a match are listed, those that take more before those that take less; an end
is listed once. The longest of them counts, and with it what its groups hold.
-/

namespace RouteKeeper.Shell

/-- A regular expression. -/
inductive Regex where
  /-- It matches without taking a character. -/
  | empty
  | exactly (c : Char)
  | any
  /-- A character that is one of the members, or none of them if `negated`. -/
  | among (negated : Bool) (members : List Pattern.Member)
  /-- The start of the text. -/
  | start
  /-- The end of the text. -/
  | finish
  /-- A place between a character of a word and another one, at its start, at its end, or both. -/
  | border (starts ends : Bool)
  /-- A place that is no border of a word. -/
  | inside
  /-- A place with no character of a word before it, or after it. -/
  | apart (before : Bool)
  /-- A part whose text is kept. -/
  | group (number : Nat) (body : Regex)
  /-- The text of a group. -/
  | again (number : Nat)
  | sequence (first second : Regex)
  | either (first second : Regex)
  | repeated (body : Regex) (least : Nat) (most : Option Nat)

namespace Regex

/-! ## Reading -/

/-- What stands in a regular expression. -/
inductive Lexeme where
  | atom (r : Regex)
  | openGroup
  | closeGroup
  | bar
  /-- How often what stands before it is repeated. -/
  | times (least : Nat) (most : Option Nat)
  /-- The mark of the start or the end, which may be a character. -/
  | caret
  | dollar

/-- The members of a bracket up to its end; a bracket that comes first is a member. -/
def members : Nat → List Char → Except String (List Pattern.Member × List Char)
  | 0, _ => unclosed
  | fuel + 1, cs => do
    let (m, rest) ← match cs with
      | [] => unclosed
      | '[' :: rest =>
        match Pattern.className? rest with
        | some (name, rest) => pure (.named name, rest)
        | none =>
          match rest with
          | '.' :: c :: '.' :: ']' :: rest | '=' :: c :: '=' :: ']' :: rest =>
            pure (.range c c, rest)
          | ':' :: _ => throw "Invalid character class name"
          | rest => range '[' rest
      | c :: rest => range c rest
    match rest with
    | ']' :: rest => return ([m], rest)
    | rest =>
      let (ms, rest) ← members fuel rest
      return (m :: ms, rest)
where
  /-- The bracket has no end. -/
  unclosed {α : Type} : Except String α :=
    throw "Unmatched [, [^, [:, [., or [="
  /-- The member that begins with a character, given what follows it. -/
  range (c : Char) : List Char → Except String (Pattern.Member × List Char)
    | '-' :: ']' :: rest => return (.range c c, '-' :: ']' :: rest)
    | '-' :: high :: rest => if high < c then throw "Invalid range end" else return (.range c high, rest)
    | rest => return (.range c c, rest)

/-- Reads a bracket after its opening sign. -/
def bracket (cs : List Char) : Except String (Regex × List Char) := do
  if cs.isEmpty then throw "Invalid regular expression"
  let (negated, cs) := match cs with
    | '^' :: rest => (true, rest)
    | cs => (false, cs)
  let (ms, rest) ← members (cs.length + 1) cs
  return (.among negated ms, rest)

/-- The numbers of repetitions between braces. -/
inductive Bounds where
  | times (least : Nat) (most : Option Nat) (rest : List Char)
  /-- The closing brace is missing. -/
  | unclosed
  /-- There are no such numbers between the braces. -/
  | invalid

/-- The greatest number of repetitions. -/
def mostRepetitions : Nat := 32767

/-- Reads the numbers of repetitions after an opening brace. -/
def bounds (extended : Bool) (cs : List Char) : Bounds :=
  let (low, rest) := cs.span Char.isDigit
  let (isRange, high, rest) := match rest with
    | ',' :: rest =>
      let (high, rest) := rest.span Char.isDigit
      (true, high, rest)
    | rest => (false, low, rest)
  let least := Integer.valueIn 10 low
  let most := if high.isEmpty then none else some (Integer.valueIn 10 high)
  let closed : Option (List Char) := match extended, rest with
    | true, '\x7d' :: rest => some rest
    | false, '\\' :: '\x7d' :: rest => some rest
    | _, _ => none
  match closed with
  | some rest =>
    if (low.isEmpty && !isRange) || most.any (· < least) then .invalid else .times least most rest
  | none => if rest.isEmpty then .unclosed else .invalid

/-- The members of the characters of words. -/
def wordMembers : List Pattern.Member :=
  [.named "alnum", .range '_' '_']

/-- The parts of a regular expression. In a basic one, most signs need a backslash. -/
def lexemes (extended : Bool) : Nat → List Char → Except String (List Lexeme)
  | _, [] => .ok []
  | 0, _ => .ok []
  | fuel + 1, '\\' :: cs =>
    match cs with
    | [] => .error "Trailing backslash"
    | c :: rest =>
      let then_ (l : Lexeme) : Except String (List Lexeme) := (lexemes extended fuel rest).map (l :: ·)
      match c with
      | 'w' => then_ (.atom (.among false wordMembers))
      | 'W' => then_ (.atom (.among true wordMembers))
      | 's' => then_ (.atom (.among false [.named "space"]))
      | 'S' => then_ (.atom (.among true [.named "space"]))
      | '<' => then_ (.atom (.border true false))
      | '>' => then_ (.atom (.border false true))
      | 'b' => then_ (.atom (.border true true))
      | 'B' => then_ (.atom .inside)
      | 'n' => then_ (.atom (.exactly '\n'))
      | 't' => then_ (.atom (.exactly '\t'))
      | c =>
        match extended, Text.digit? c with
        | _, some (n + 1) => then_ (.atom (.again (n + 1)))
        | true, _ => then_ (.atom (.exactly c))
        | false, _ =>
          match c with
          | '(' => then_ .openGroup
          | ')' => then_ .closeGroup
          | '|' => then_ .bar
          | '+' => then_ (.times 1 none)
          | '?' => then_ (.times 0 (some 1))
          | '\x7b' =>
            match bounds false rest with
            | .times least most rest =>
              if mostRepetitions < max least (most.getD 0) then .error "Regular expression too big"
              else (lexemes extended fuel rest).map (.times least most :: ·)
            | .unclosed => .error "Unmatched \\\x7b"
            | .invalid => .error "Invalid content of \\\x7b\\\x7d"
          | c => then_ (.atom (.exactly c))
  | fuel + 1, '[' :: cs => do
    let (r, rest) ← bracket cs
    return .atom r :: (← lexemes extended fuel rest)
  | fuel + 1, c :: rest =>
    let then_ (l : Lexeme) : Except String (List Lexeme) := (lexemes extended fuel rest).map (l :: ·)
    match c, extended with
    | '.', _ => then_ (.atom .any)
    | '*', _ => then_ (.times 0 none)
    | '^', _ => then_ .caret
    | '$', _ => then_ .dollar
    | '(', true => then_ .openGroup
    | ')', true => then_ .closeGroup
    | '|', true => then_ .bar
    | '+', true => then_ (.times 1 none)
    | '?', true => then_ (.times 0 (some 1))
    | '\x7b', true =>
      match bounds true rest with
      | .times least most rest =>
        if mostRepetitions < max least (most.getD 0) then .error "Regular expression too big"
        else (lexemes extended fuel rest).map (.times least most :: ·)
      | _ =>
        let isReversed := rest.head?.any Char.isDigit &&
          (rest.dropWhile fun d => d.isDigit || d == ',').head? = some '\x7d'
        if isReversed then .error "Invalid content of \\\x7b\\\x7d"
        else then_ (.atom (.exactly '\x7b'))
    | c, _ => then_ (.atom (.exactly c))

/-- A lexeme that repeats something, as a character if nothing stands before it. -/
def starCharacter? : Lexeme → Option Char
  | .times 0 none => some '*'
  | .times 1 none => some '+'
  | .times 0 (some 1) => some '?'
  | _ => none

/-- The signs that repeat something, where nothing stands before them. -/
def idleSigns : (first : Bool) → List Lexeme → List Char
  | _, [] => []
  | first, l :: rest =>
    match l with
    | .openGroup | .bar => idleSigns true rest
    | l => (if first then (starCharacter? l).toList else []) ++ idleSigns false rest

/-- Whether a branch ends before some lexemes. -/
def endsBranch : List Lexeme → Bool
  | [] | .bar :: _ | .closeGroup :: _ => true
  | _ => false

/-- Repeats a regular expression as the lexemes at the front say. -/
def withTimes (r : Regex) : List Lexeme → Regex × List Lexeme
  | .times least most :: rest => withTimes (.repeated r least most) rest
  | rest => (r, rest)

mutual

/-- Reads alternatives; `groups` is the number of the groups so far. -/
def alternatives (extended : Bool) : Nat → (depth groups : Nat) → List Lexeme →
    Except String (Regex × Nat × List Lexeme)
  | 0, _, _, _ => .error "Regular expression too big"
  | fuel + 1, depth, groups, ls => do
    let (first, groups, rest) ← branch extended fuel depth groups true ls
    match rest with
    | .bar :: rest => do
      let (second, groups, rest) ← alternatives extended fuel depth groups rest
      return (.either first second, groups, rest)
    | rest => return (first, groups, rest)

/-- Reads a branch; `first` says that nothing of it has been read. -/
def branch (extended : Bool) : Nat → (depth groups : Nat) → (first : Bool) → List Lexeme →
    Except String (Regex × Nat × List Lexeme)
  | 0, _, _, _, _ => .error "Regular expression too big"
  | _ + 1, _, groups, _, [] => return (.empty, groups, [])
  | fuel + 1, depth, groups, first, l :: rest => do
    let goOn (r : Regex) (groups : Nat) (rest : List Lexeme) :
        Except String (Regex × Nat × List Lexeme) := do
      let (r, rest) := withTimes r rest
      let (more, groups, rest) ← branch extended fuel depth groups false rest
      return (.sequence r more, groups, rest)
    match l with
    | .bar => return (.empty, groups, .bar :: rest)
    | .closeGroup =>
      if depth = 0 then
        if extended then goOn (.exactly ')') groups rest else throw "Unmatched ) or \\)"
      else return (.empty, groups, .closeGroup :: rest)
    | .openGroup => do
      let number := groups + 1
      let (r, groups, rest) ← alternatives extended fuel (depth + 1) number rest
      match rest with
      | .closeGroup :: rest => goOn (.group number r) groups rest
      | _ => throw "Unmatched ( or \\("
    | .atom (.again n) =>
      if groups < n then throw "Invalid back reference" else goOn (.again n) groups rest
    | .atom r => goOn r groups rest
    | .caret =>
      if first || extended then
        if extended then goOn .start groups rest
        else do
          let (more, groups, rest) ← branch extended fuel depth groups true rest
          return (.sequence .start more, groups, rest)
      else goOn (.exactly '^') groups rest
    | .dollar =>
      if endsBranch rest || extended then goOn .finish groups rest
      else goOn (.exactly '$') groups rest
    | .times least most =>
      if first && !extended then
        match starCharacter? (.times least most) with
        | some c => goOn (.exactly c) groups rest
        | none => throw "Invalid preceding regular expression"
      else branch extended fuel depth groups first rest

end

/-- The regular expression that a text spells, or what is wrong with the text. -/
def ofText (extended : Bool) (text : List Char) : Except String Regex := do
  let ls ← lexemes extended (text.length + 1) text
  let (r, _, _) ← alternatives extended (4 * ls.length + 8) 0 0 ls
  return r

/-- The number of groups of a regular expression. -/
def groupCount : Regex → Nat
  | .group _ body => groupCount body + 1
  | .sequence a b | .either a b => groupCount a + groupCount b
  | .repeated body _ _ => groupCount body
  | _ => 0

/-! ## Matching -/

/-- A place in a text: the character before it, what follows it, and what groups hold. -/
structure Place where
  before : Option Char := none
  rest : List Char
  groups : List (Nat × List Char) := []

/-- The characters between two places, of which the second one comes later. -/
def Place.upTo (p q : Place) : List Char :=
  p.rest.take (p.rest.length - q.rest.length)

/-- Goes over a character. -/
def Place.next (p : Place) : Option (Char × Place) :=
  match p.rest with
  | [] => none
  | c :: rest => some (c, { p with before := some c, rest })

/-- Goes over so many characters. -/
def Place.skip (p : Place) : Nat → Place
  | 0 => p
  | n + 1 =>
    match p.next with
    | none => p
    | some (_, q) => q.skip n

/-- The places without those that were listed before. -/
def distinct : List Place → (seen : List Nat) → List Place
  | [], _ => []
  | p :: rest, seen =>
    let n := p.rest.length
    if seen.contains n then distinct rest seen else p :: distinct rest (n :: seen)

/-- Whether a character is one of a word. -/
def isWord : Option Char → Bool
  | some c => isNameChar c
  | none => false

/-- A character in the case in which characters are compared. -/
def folded (ignoresCase : Bool) (c : Char) : Char :=
  if ignoresCase then c.toLower else c

/-- Whether a character is one of the members of a bracket. -/
def isAmong (ignoresCase : Bool) (members : List Pattern.Member) (c : Char) : Bool :=
  members.any (·.accepts c) ||
    (ignoresCase && members.any fun m => m.accepts c.toLower || m.accepts c.toUpper)

/-- The ends of repetitions, given those of one of them. A repetition that takes nothing does not
count unless it is needed. -/
def repetitions (once : Place → List Place) (least : Nat) (most : Option Nat) :
    Nat → (count : Nat) → Place → List Place
  | 0, _, _ => []
  | fuel + 1, count, p =>
    let next := if most.any (· ≤ count) then [] else once p
    let more := next.flatMap fun q =>
      if q.rest.length < p.rest.length then repetitions once least most fuel (count + 1) q
      else if count < least then [q]
      else []
    let all := more ++ if least ≤ count then [p] else []
    if next.length ≤ 1 then all else distinct all []

/-- The places at which a match from a place on can end. -/
def ends (ignoresCase : Bool) : Regex → Place → List Place
  | .empty, p => [p]
  | .exactly c, p =>
    match p.next with
    | some (d, q) => if folded ignoresCase c == folded ignoresCase d then [q] else []
    | none => []
  | .any, p =>
    match p.next with
    | some (_, q) => [q]
    | none => []
  | .among negated members, p =>
    match p.next with
    | some (c, q) => if isAmong ignoresCase members c != negated then [q] else []
    | none => []
  | .start, p => if p.before.isNone then [p] else []
  | .finish, p => if p.rest.isEmpty then [p] else []
  | .border starts ends, p =>
    let before := isWord p.before
    let after := isWord p.rest.head?
    if (starts && !before && after) || (ends && before && !after) then [p] else []
  | .inside, p => if isWord p.before == isWord p.rest.head? then [p] else []
  | .apart before, p =>
    if isWord (if before then p.before else p.rest.head?) then [] else [p]
  | .group number body, p =>
    (ends ignoresCase body p).map fun q => { q with groups := (number, p.upTo q) :: q.groups }
  | .again number, p =>
    match p.groups.lookup number with
    | none => []
    | some text =>
      let isSame := (p.rest.take text.length).map (folded ignoresCase) ==
        text.map (folded ignoresCase)
      if isSame then [p.skip text.length] else []
  | .sequence first second, p =>
    distinct ((ends ignoresCase first p).flatMap (ends ignoresCase second)) []
  | .either first second, p =>
    distinct (ends ignoresCase first p ++ ends ignoresCase second p) []
  | .repeated body least most, p =>
    repetitions (ends ignoresCase body) least most (p.rest.length + 2) 0 p

/-- A part of a text that is matched: what stands before it, the part, what groups hold, and the
place after it. -/
structure Match where
  before : List Char
  text : List Char
  groups : List (Nat × List Char)
  after : Place

/-- The longest match from a place on. -/
def matchAt? (r : Regex) (ignoresCase : Bool) (p : Place) : Option (List Char × Place) :=
  let longest := (ends ignoresCase r p).foldl (fun best q =>
    match best with
    | some b => if q.rest.length < b.rest.length then some q else best
    | none => some q) (none : Option Place)
  longest.map fun q => (p.upTo q, q)

/-- The first match in a text from a place on. -/
def find? (r : Regex) (ignoresCase : Bool) : Nat → (passed : List Char) → Place → Option Match
  | 0, _, _ => none
  | fuel + 1, passed, p =>
    match matchAt? r ignoresCase { p with groups := [] } with
    | some (text, q) => some ⟨passed.reverse, text, q.groups, { q with groups := [] }⟩
    | none =>
      match p.next with
      | some (c, q) => find? r ignoresCase fuel (c :: passed) q
      | none => none

/-- The first match in a text. -/
def search (r : Regex) (ignoresCase : Bool) (p : Place) : Option Match :=
  find? r ignoresCase (p.rest.length + 1) [] p

end Regex

end RouteKeeper.Shell
