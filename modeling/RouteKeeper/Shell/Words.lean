import RouteKeeper.Shell.Syntax
import RouteKeeper.Text.Number

/-!
# Words of a script

How characters make up the pieces of a word. Single quotes keep everything; double
quotes keep everything but expansions and a backslash before one of `$`, backquote,
`"`, `\` and newline, which stands for the character after it. A backslash and a
newline together stand for nothing.

## Implementation notes

Readers count down a fuel, of which each character takes at most two. A reader of
scripts is handed in, since words hold scripts and scripts hold words.
-/

namespace RouteKeeper.Shell

/-! ## Classes of characters -/

/-- The characters that stand between words. -/
def isBlank (c : Char) : Bool :=
  c == ' ' || c == '\t'

/-- The characters that end a word unless they are quoted. -/
def endsWord (c : Char) : Bool :=
  isBlank c || "\n;&|<>()".toList.contains c

/-- The characters that a backslash quotes between double quotes. -/
def isQuotedInDouble (c : Char) : Bool :=
  c == '$' || c == '\x60' || c == '\\'

/-- The characters that begin the name of a variable. -/
def isNameStart (c : Char) : Bool :=
  c.isAlpha || c == '_'

/-- The characters in the name of a variable. -/
def isNameChar (c : Char) : Bool :=
  c.isAlphanum || c == '_'

/-- Whether a text is the name of a variable. -/
def isName (s : String) : Bool :=
  match s.toList with
  | [] => false
  | c :: cs => isNameStart c && cs.all isNameChar

/-- The parameters that are named by a sign. -/
def isSign (c : Char) : Bool :=
  "?$#@*!-".toList.contains c

/-! ## Readers -/

/-- What a reader of words is told. -/
structure Scope where
  /-- The number of the last line. -/
  last : Nat
  /-- Whether expansions are read; in the mark of a here-document they are not. -/
  expands : Bool := true
  /-- Reads a script: up to its closing parenthesis, or to the end of the text. -/
  script : (inParentheses : Bool) → List Char → Except Mistake (Script × List Char)

/-- Complains about the end of the text. -/
def Scope.fail {α : Type} (s : Scope) (complaint : Complaint) : Except Mistake (α × List Char) :=
  .error ⟨s.last, complaint⟩

/-- What the characters that are read stand between. -/
structure Surroundings where
  /-- Double quotes. -/
  quoted : Bool := false
  /-- The braces of an expansion. -/
  braced : Bool := false
  /-- The mark of a here-document. -/
  document : Bool := false
  deriving DecidableEq

/-- Passes over backslashes that are followed by a newline, with the newline. -/
def skipJoins : List Char → List Char
  | '\\' :: '\n' :: rest => skipJoins rest
  | cs => cs

/-- Puts a piece before the pieces read after it. -/
def before (piece : Piece) (read : Except Mistake (Word × List Char)) : Except Mistake (Word × List Char) :=
  read.map fun (pieces, rest) => (piece :: pieces, rest)

/-- The longest run of characters of a class at the front. -/
def run (isIn : Char → Bool) : Nat → List Char → List Char × List Char
  | 0, cs => ([], cs)
  | fuel + 1, cs =>
    match skipJoins cs with
    | [] => ([], [])
    | c :: rest =>
      if isIn c then
        let (more, rest) := run isIn fuel rest
        (c :: more, rest)
      else ([], c :: rest)

/-- The name of a variable at the front. -/
def nameRun (cs : List Char) : String × List Char :=
  let (name, rest) := run isNameChar cs.length cs
  (String.ofList name, rest)

/-- The number of a parameter at the front. -/
def digitRun (cs : List Char) : String × List Char :=
  let (digits, rest) := run Text.isDigit cs.length cs
  (String.ofList digits, rest)

/-- What an expansion does when a parameter is missing, by its sign. -/
def fallback? : Char → Option Fallback
  | '-' => some .use
  | '=' => some .assign
  | '?' => some .complain
  | '+' => some .replace
  | _ => none

/-- What a backslash and the character after it make between double quotes. -/
def escapedInDouble (p : Surroundings) (c : Char) : List Piece :=
  let isQuoted := isQuotedInDouble c || (c == '"' && (!p.document || p.braced)) ||
    (c == '\x7d' && p.braced)
  if isQuoted then [.escaped c] else [.escaped '\\', .escaped c]

/-- The text up to the next backquote, without one level of backslashes. -/
def splitBackquoted (quoted : Bool) : List Char → Option (List Char × List Char)
  | '\\' :: '\n' :: rest => splitBackquoted quoted rest
  | '\\' :: c :: rest =>
    let isQuoted := isQuotedInDouble c || (quoted && c == '"')
    (splitBackquoted quoted rest).map fun (text, rest) =>
      (if isQuoted then c :: text else '\\' :: c :: text, rest)
  | '\x60' :: rest => some ([], rest)
  | c :: rest => (splitBackquoted quoted rest).map fun (text, rest) => (c :: text, rest)
  | [] => none

/-- Reads the script between backquotes. -/
def readBackquoted (s : Scope) (quoted : Bool) (cs : List Char) : Except Mistake (Piece × List Char) :=
  match splitBackquoted quoted cs with
  | none => s.fail .openBackquote
  | some (text, rest) => (s.script false text).map fun (script, _) => (.outputOf script, rest)

/-- What stands between braces before its word: the name of a parameter, what is made of it, and
where its word is read. No word follows a value. -/
structure Opening where
  name : String
  form : Word → Form := fun _ => .unknown
  /-- Whether the word is a pattern, which is not between the double quotes around it. -/
  isPattern : Bool := false
  hasWord : Bool := true

/-- The opening of an expansion whose parameter has been read. -/
def openingAfter (name : String) (cs : List Char) : Opening × List Char :=
  let start (orEmpty : Bool) (cs : List Char) : Opening × List Char :=
    match cs with
    | [] => ({ name }, [])
    | c :: rest =>
      match fallback? c with
      | some kind => ({ name, form := .fallback kind orEmpty }, rest)
      | none =>
        if c == '\x7d' then ({ name, form := fun _ => .value, hasWord := orEmpty }, rest)
        else ({ name }, rest)
  match skipJoins cs with
  | ':' :: rest => start true (skipJoins rest)
  | '%' :: rest =>
    match skipJoins rest with
    | '%' :: rest => ({ name, form := .trimmed true true, isPattern := true }, rest)
    | rest => ({ name, form := .trimmed true false, isPattern := true }, rest)
  | '#' :: rest =>
    match skipJoins rest with
    | '#' :: rest => ({ name, form := .trimmed false true, isPattern := true }, rest)
    | rest => ({ name, form := .trimmed false false, isPattern := true }, rest)
  | cs => start false cs

/-- The opening of an expansion for the length of a parameter that has been read; nothing may
follow the name. -/
def lengthOpening (name : String) (cs : List Char) : Opening × List Char :=
  match skipJoins cs with
  | '\x7d' :: rest => ({ name, form := fun _ => .length }, '\x7d' :: rest)
  | cs => ({ name }, cs)

/-- The opening of an expansion after its brace. A number sign asks for the length of the parameter
after it, and is a parameter itself if none follows. -/
def opening (cs : List Char) : Opening × List Char :=
  match skipJoins cs with
  | [] => ({ name := "" }, [])
  | c :: rest =>
    if isNameStart c then
      let (name, rest) := nameRun (c :: rest)
      openingAfter name rest
    else if Text.isDigit c then
      let (name, rest) := digitRun (c :: rest)
      openingAfter name rest
    else if c == '#' then
      match skipJoins rest with
      | d :: after =>
        if isNameStart d then
          let (name, rest) := nameRun (d :: after)
          lengthOpening name rest
        else if Text.isDigit d then
          let (name, rest) := digitRun (d :: after)
          lengthOpening name rest
        else
          match skipJoins after with
          | '\x7d' :: rest =>
            if d == '\x7d' then openingAfter "#" (d :: '\x7d' :: rest)
            else if isSign d then
              ({ name := String.singleton d, form := fun _ => .length }, '\x7d' :: rest)
            else ({ name := "" }, '\x7d' :: rest)
          | _ => openingAfter "#" (d :: after)
      | [] => openingAfter "#" []
    else if isSign c then openingAfter (String.singleton c) rest
    else if c == '\x7d' then ({ name := "" }, c :: rest)
    else ({ name := "" }, rest)

mutual

/-- Reads the pieces of a word. -/
def readWord (s : Scope) : Nat → List Char → Except Mistake (Word × List Char)
  | 0, _ => s.fail .tooDeep
  | fuel + 1, cs =>
    match skipJoins cs with
    | [] => .ok ([], [])
    | '\\' :: c :: rest => before (.escaped c) (readWord s fuel rest)
    | '\'' :: rest => do
      let (piece, rest) ← readSingle s rest
      before piece (readWord s fuel rest)
    | '"' :: rest => do
      let (pieces, rest) ← readDouble s {} fuel rest
      before (.double pieces) (readWord s fuel rest)
    | '$' :: rest => do
      let (piece, rest) ← readDollar s {} fuel rest
      before piece (readWord s fuel rest)
    | '\x60' :: rest =>
      if s.expands then do
        let (piece, rest) ← readBackquoted s false rest
        before piece (readWord s fuel rest)
      else before (.plain '\x60') (readWord s fuel rest)
    | c :: rest =>
      if endsWord c then .ok ([], c :: rest) else before (.plain c) (readWord s fuel rest)

/-- Reads what stands between single quotes after the opening one. -/
def readSingle (s : Scope) (cs : List Char) : Except Mistake (Piece × List Char) :=
  match cs.span (· != '\'') with
  | (text, _ :: rest) => .ok (.single text, rest)
  | (_, []) => s.fail .openQuote

/-- Reads the pieces after an opening double quote up to the closing one. -/
def readDouble (s : Scope) (p : Surroundings) : Nat → List Char → Except Mistake (Word × List Char)
  | 0, _ => s.fail .tooDeep
  | fuel + 1, cs =>
    match skipJoins cs with
    | [] => s.fail (if p.document then .openBrace else .openQuote)
    | '"' :: rest => .ok ([], rest)
    | '\\' :: c :: rest => do
      let (pieces, rest) ← readDouble s p fuel rest
      return (escapedInDouble p c ++ pieces, rest)
    | '$' :: rest => do
      let (piece, rest) ← readDollar s { p with quoted := true } fuel rest
      before piece (readDouble s p fuel rest)
    | '\x60' :: rest =>
      if s.expands then do
        let (piece, rest) ← readBackquoted s true rest
        before piece (readDouble s p fuel rest)
      else before (.plain '\x60') (readDouble s p fuel rest)
    | c :: rest => before (.plain c) (readDouble s p fuel rest)

/-- Reads what follows a dollar sign; one that begins no expansion stands for itself. -/
def readDollar (s : Scope) (p : Surroundings) : Nat → List Char → Except Mistake (Piece × List Char)
  | 0, _ => s.fail .tooDeep
  | fuel + 1, cs =>
    if !s.expands then .ok (.plain '$', cs)
    else
      match skipJoins cs with
      | [] => .ok (.plain '$', [])
      | '(' :: rest =>
        match skipJoins rest with
        | '(' :: rest => do
          let (pieces, rest) ← readArithmetic s p fuel 0 rest
          return (.arithmetic pieces, rest)
        | rest => do
          let (script, rest) ← s.script true rest
          return (.outputOf script, rest)
      | '\x7b' :: rest => readBraces s p fuel rest
      | c :: rest =>
        if isNameStart c then
          let (name, rest) := nameRun (c :: rest)
          .ok (.parameter name .value, rest)
        else if isSign c || Text.isDigit c then .ok (.parameter (String.singleton c) .value, rest)
        else .ok (.plain '$', c :: rest)

/-- Reads an expansion after its opening brace. -/
def readBraces (s : Scope) (p : Surroundings) : Nat → List Char → Except Mistake (Piece × List Char)
  | 0, _ => s.fail .tooDeep
  | fuel + 1, cs =>
    let (start, rest) := opening cs
    if !start.hasWord then .ok (.parameter start.name (start.form []), rest)
    else do
      let inside := { p with quoted := p.quoted && !start.isPattern, braced := true }
      let (word, rest) ← readBraced s inside fuel rest
      return (.parameter start.name (start.form word), rest)

/-- Reads the pieces up to the closing brace of an expansion. -/
def readBraced (s : Scope) (p : Surroundings) : Nat → List Char → Except Mistake (Word × List Char)
  | 0, _ => s.fail .tooDeep
  | fuel + 1, cs =>
    match skipJoins cs with
    | [] => s.fail (if p.quoted && !p.document then .openQuote else .openBrace)
    | '\x7d' :: rest => .ok ([], rest)
    | '\\' :: c :: rest => do
      let (pieces, rest) ← readBraced s p fuel rest
      return ((if p.quoted then escapedInDouble p c else [.escaped c]) ++ pieces, rest)
    | '"' :: rest => do
      let (pieces, rest) ← readDouble s p fuel rest
      before (.double pieces) (readBraced s p fuel rest)
    | '\'' :: rest =>
      if p.quoted then before (.plain '\'') (readBraced s p fuel rest)
      else do
        let (piece, rest) ← readSingle s rest
        before piece (readBraced s p fuel rest)
    | '$' :: rest => do
      let (piece, rest) ← readDollar s p fuel rest
      before piece (readBraced s p fuel rest)
    | '\x60' :: rest => do
      let (piece, rest) ← readBackquoted s p.quoted rest
      before piece (readBraced s p fuel rest)
    | c :: rest => before (.plain c) (readBraced s p fuel rest)

/-- Reads an arithmetic expression up to its two closing parentheses; `depth` parentheses of its
own are open. Quotes have no meaning there. -/
def readArithmetic (s : Scope) (p : Surroundings) : Nat → Nat → List Char → Except Mistake (Word × List Char)
  | 0, _, _ => s.fail .tooDeep
  | fuel + 1, depth, cs =>
    match skipJoins cs with
    | [] => s.fail .openArithmetic
    | '(' :: rest => before (.plain '(') (readArithmetic s p fuel (depth + 1) rest)
    | ')' :: rest =>
      if depth = 0 then
        match skipJoins rest with
        | ')' :: rest => .ok ([], rest)
        | rest => before (.plain ')') (readArithmetic s p fuel 0 rest)
      else before (.plain ')') (readArithmetic s p fuel (depth - 1) rest)
    | '\\' :: c :: rest => do
      let (pieces, rest) ← readArithmetic s p fuel depth rest
      return (escapedInDouble { p with braced := false } c ++ pieces, rest)
    | '$' :: rest => do
      let (piece, rest) ← readDollar s { p with quoted := true, braced := false } fuel rest
      before piece (readArithmetic s p fuel depth rest)
    | '\x60' :: rest => do
      let (piece, rest) ← readBackquoted s true rest
      before piece (readArithmetic s p fuel depth rest)
    | c :: rest => before (.plain c) (readArithmetic s p fuel depth rest)

end

/-! ## Here-documents -/

/-- Passes over tabs, if they are left out at the start of lines. -/
def skipTabs (tabs : Bool) (cs : List Char) : List Char :=
  if tabs then cs.dropWhile (· == '\t') else cs

/-- What follows the mark of a document, if the mark is the whole line at the front. -/
def afterMark? (mark cs : List Char) : Option (List Char) :=
  if mark.isPrefixOf cs then
    match cs.drop mark.length with
    | [] => some []
    | '\n' :: rest => some rest
    | _ => none
  else none

/-- Splits a text into the lines before the mark of a document and what follows it. -/
def splitDocument (tabs : Bool) (mark : List Char) : Nat → List Char → List Char × List Char
  | 0, cs => ([], cs)
  | fuel + 1, cs =>
    let cs := skipTabs tabs cs
    match afterMark? mark cs with
    | some rest => ([], rest)
    | none =>
      match cs.span (· != '\n') with
      | (line, []) => (line, [])
      | (line, _ :: rest) =>
        let (lines, rest) := splitDocument tabs mark fuel rest
        (line ++ '\n' :: lines, rest)

/-- Reads the pieces of a document up to its mark; `fresh` says that a line begins. -/
def readDocument (s : Scope) (tabs : Bool) (mark : List Char) :
    Nat → (fresh : Bool) → List Char → Except Mistake (Word × List Char)
  | 0, _, _ => s.fail .tooDeep
  | fuel + 1, fresh, cs =>
    let cs := if fresh then skipTabs tabs cs else cs
    match if fresh then afterMark? mark cs else none with
    | some rest => .ok ([], rest)
    | none =>
      let p : Surroundings := { quoted := true, document := true }
      match skipJoins cs with
      | [] => .ok ([], [])
      | '\\' :: c :: rest => do
        let (pieces, rest) ← readDocument s tabs mark fuel false rest
        return (escapedInDouble p c ++ pieces, rest)
      | '$' :: rest => do
        let (piece, rest) ← readDollar s p (2 * rest.length + 2) rest
        before piece (readDocument s tabs mark fuel false rest)
      | '\x60' :: rest => do
        let (piece, rest) ← readBackquoted s true rest
        before piece (readDocument s tabs mark fuel false rest)
      | c :: rest => before (.plain c) (readDocument s tabs mark fuel (c == '\n') rest)

/-- The text of a word that is not expanded, and whether any of it is quoted. -/
def rawText : Word → List Char × Bool
  | [] => ([], false)
  | piece :: rest =>
    let (text, quoted) := rawText rest
    match piece with
    | .plain c => (c :: text, quoted)
    | .escaped c => (c :: text, true)
    | .single cs => (cs ++ text, true)
    | .double pieces => (pieces.flatMap inDouble ++ text, true)
    | _ => (text, quoted)
where
  /-- The characters between double quotes. -/
  inDouble : Piece → List Char
    | .plain c | .escaped c => [c]
    | _ => []

/-- How many lines end in a text. -/
def lineEnds (cs : List Char) : Nat :=
  cs.count '\n'

end RouteKeeper.Shell
