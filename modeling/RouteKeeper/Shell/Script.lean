import RouteKeeper.Shell.Words

/-!
# Commands of a script

How characters make up tokens, and tokens commands. A script is read line by line, so
that what stands on the lines before a mistake is carried out, and an alias can be
used from the line after its definition on.

## Implementation notes

Which words are reserved depends on what may stand at a place, so tokens are read on
demand. Readers count down a fuel; fewer than eight of them start at one token.
-/

namespace RouteKeeper.Shell

/-! ## Tokens -/

/-- A token of a script. -/
inductive Token where
  | ending
  | newline
  | semicolon
  | caseEnd
  | background
  | andThen
  | orElse
  | pipe
  | openParen
  | closeParen
  /-- A redirection of a descriptor; the word for its target follows. -/
  | redirect (descriptor : Nat) (direction : Direction)
  /-- A redirection to a here-document; its mark follows. -/
  | document (descriptor : Nat) (tabs : Bool)
  /-- A word with a meaning of its own. -/
  | reserved (text : String)
  /-- Another word. -/
  | word (pieces : Word)

/-- The words with a meaning of their own where a command may begin. -/
def reservedWords : List String :=
  ["!", "\x7b", "\x7d", "if", "then", "elif", "else", "fi", "while", "until", "do", "done", "for",
    "in", "case", "esac"]

/-- A token as it is written in complaints. -/
def Token.text : Token → String
  | .ending => "end of file"
  | .newline => "newline"
  | .semicolon => "\";\""
  | .caseEnd => "\";;\""
  | .background => "\"&\""
  | .andThen => "\"&&\""
  | .orElse => "\"||\""
  | .pipe => "\"|\""
  | .openParen => "\"(\""
  | .closeParen => "\")\""
  | .redirect _ _ | .document _ _ => "redirection"
  | .reserved text => "\"" ++ text ++ "\""
  | .word _ => "word"

/-- Whether a list of commands ends before a token. -/
def Token.endsList : Token → Bool
  | .ending | .closeParen | .caseEnd => true
  | .reserved text => ["then", "elif", "else", "fi", "do", "done", "\x7d", "esac"].contains text
  | _ => false

/-! ## Sources -/

/-- What a script is read with. -/
structure Setting where
  /-- The number of its last line. -/
  last : Nat
  /-- The texts that stand for words. -/
  aliases : List (String × String) := []

/-- What the next token may be taken for. -/
structure Expected where
  /-- Ends of lines are passed over. -/
  skipsLines : Bool := false
  /-- Reserved words have their meaning. -/
  reserved : Bool := false
  /-- Aliases are put in. -/
  aliases : Bool := false
  /-- It is the mark of a here-document. -/
  mark : Bool := false

/-- A here-document that begins on the next line. -/
structure Awaited where
  mark : List Char
  quoted : Bool
  tabs : Bool

/-- What is left of a script while it is read. -/
structure Source where
  /-- The characters that are left. -/
  rest : List Char
  /-- A token that was read and put back. -/
  pushed : Option Token := none
  /-- What the next token may be taken for. -/
  expected : Expected := {}
  /-- The here-documents that begin on the next line. -/
  awaited : List Awaited := []
  /-- The texts of the here-documents read so far. -/
  documents : List Word := []
  /-- The aliases whose texts are being read, and how much is left after each. -/
  active : List (String × Nat) := []
  /-- How much is left where a word after an alias may be an alias too. -/
  chained : List Nat := []
  /-- The word that was read last. -/
  lastWord : Word := []

/-- Reads part of a source. -/
abbrev Parse := StateT Source (Except Mistake)

/-- The line on which the rest of a text begins. -/
def Setting.lineOf (t : Setting) (rest : List Char) : Nat :=
  t.last - lineEnds rest

/-- The line that has been reached. -/
def Setting.line (t : Setting) : Parse Nat := do
  return t.lineOf (← get).rest

/-- Complains at the line that has been reached. -/
def Setting.fail {α : Type} (t : Setting) (complaint : Complaint) : Parse α := do
  throw ⟨← t.line, complaint⟩

/-- Complains about a token that is not the one needed. -/
def Setting.refuse {α : Type} (t : Setting) (found : Token) (needed : Option Token) : Parse α :=
  t.fail (.unexpected found.text (needed.map (·.text)))

/-- Puts back a token. -/
def putBack (token : Token) : Parse Unit :=
  modify fun s => { s with pushed := some token }

/-- Says what the next token may be taken for. -/
def expect (expected : Expected) : Parse Unit :=
  modify fun s => { s with expected }

/-- What is expected where a command may begin on a later line. -/
def Expected.command : Expected :=
  { skipsLines := true, reserved := true, aliases := true }

/-- Reads the rest of a redirection after its sign: where it leads, the usual descriptor, and for
a here-document whether tabs are left out. -/
def redirection (c : Char) (descriptor : Option Nat) (cs : List Char) : Token × List Char :=
  let toward (usual : Nat) (direction : Direction) (rest : List Char) : Token × List Char :=
    (.redirect (descriptor.getD usual) direction, rest)
  if c == '>' then
    match skipJoins cs with
    | '>' :: rest => toward 1 .append rest
    | '|' :: rest => toward 1 .overwrite rest
    | '&' :: rest => toward 1 .duplicate rest
    | rest => toward 1 .output rest
  else
    match skipJoins cs with
    | '<' :: rest =>
      match skipJoins rest with
      | '-' :: rest => (.document (descriptor.getD 0) true, rest)
      | rest => (.document (descriptor.getD 0) false, rest)
    | '&' :: rest => toward 0 .duplicate rest
    | '>' :: rest => toward 0 .both rest
    | rest => toward 0 .input rest

/-- Passes over blanks and comments. -/
def skipBlanks : Nat → List Char → List Char
  | 0, cs => cs
  | fuel + 1, cs =>
    match skipJoins cs with
    | '#' :: rest => rest.dropWhile (· != '\n')
    | c :: rest => if isBlank c then skipBlanks fuel rest else c :: rest
    | [] => []

/-- The descriptor that a word in front of a redirection names: none, or a digit. -/
def descriptor? : Word → Option (Option Nat)
  | [] => some none
  | [.plain c] => (Text.digit? c).map some
  | _ => none

/-- The operator at the front. -/
def operator? : List Char → Option (Token × List Char)
  | '\n' :: rest => some (.newline, rest)
  | '(' :: rest => some (.openParen, rest)
  | ')' :: rest => some (.closeParen, rest)
  | ';' :: rest =>
    match skipJoins rest with
    | ';' :: rest => some (.caseEnd, rest)
    | rest => some (.semicolon, rest)
  | '&' :: rest =>
    match skipJoins rest with
    | '&' :: rest => some (.andThen, rest)
    | rest => some (.background, rest)
  | '|' :: rest =>
    match skipJoins rest with
    | '|' :: rest => some (.orElse, rest)
    | rest => some (.pipe, rest)
  | _ => none

/-- The token at the front; a word is not looked up. -/
def rawToken (scope : Scope) (cs : List Char) : Except Mistake (Token × List Char) :=
  match skipBlanks (cs.length + 1) cs with
  | [] => .ok (.ending, [])
  | cs =>
    match operator? cs with
    | some (token, rest) => .ok (token, rest)
    | none => do
      let (pieces, rest) ← readWord scope (2 * cs.length + 2) cs
      match descriptor? pieces, skipJoins rest with
      | some descriptor, c :: after =>
        if c == '<' || c == '>' then return redirection c descriptor after
        else return (.word pieces, c :: after)
      | _, rest => return (.word pieces, rest)

/-- Reads the text of a here-document. -/
def Awaited.read (scope : Scope) (a : Awaited) (cs : List Char) :
    Except Mistake (Word × List Char) :=
  if a.quoted then
    let (text, rest) := splitDocument a.tabs a.mark (cs.length + 1) cs
    .ok ([.single text], rest)
  else
    (readDocument scope a.tabs a.mark (cs.length + 1) true cs).map fun (pieces, rest) =>
      ([.double pieces], rest)

/-- Reads the here-documents that begin here. -/
def readAwaited (scope : Scope) : Parse Unit := do
  let awaited := (← get).awaited
  modify fun s => { s with awaited := [] }
  for a in awaited do
    let (text, rest) ← a.read scope (← get).rest
    modify fun s => { s with rest := rest, documents := s.documents ++ [text] }

/-- Puts in the text of an alias. -/
def Source.putIn (s : Source) (name text : String) : Source :=
  let left := s.rest.length
  let isChained := match text.toList.getLast? with
    | some c => isBlank c
    | none => false
  { s with
    rest := text.toList ++ s.rest
    active := (name, left) :: s.active
    chained := if isChained then left :: s.chained else s.chained }

/-- Forgets the aliases whose texts have been read; tells whether a word after one of them may be
an alias too. -/
def Source.settle (s : Source) : Source × Bool :=
  let left := s.rest.length
  ({ s with
     active := s.active.filter (·.2 ≤ left)
     chained := s.chained.filter (· ≤ left) }, s.chained.any (left < ·))

/-- Reads a token as it is expected. -/
def token (t : Setting) (scope : Scope) : Nat → Parse Token
  | 0 => t.fail .tooDeep
  | fuel + 1 => do
    let s ← get
    let expected := s.expected
    let token ← match s.pushed with
      | some token =>
        set { s with pushed := none }
        pure token
      | none =>
        let (token, rest) ← rawToken { scope with expands := !expected.mark } s.rest
        let lastWord := match token with
          | .word pieces => pieces
          | _ => s.lastWord
        set { s with rest, lastWord }
        pure token
    let (s, chained) := (← get).settle
    let expected := { expected with aliases := expected.aliases || chained }
    set { s with expected }
    match token with
    | .newline =>
      if expected.skipsLines then do
        readAwaited scope
        Shell.token t scope fuel
      else done token
    | .word pieces =>
      match bareText? pieces with
      | none => done token
      | some text =>
        if expected.reserved && reservedWords.contains text then done (.reserved text)
        else
          match expected.aliases, t.aliases.lookup text with
          | true, some value =>
            if s.active.any (·.1 == text) then done token
            else do
              if value != "" then set { (← get).putIn text value with expected }
              Shell.token t scope fuel
          | _, _ => done token
    | token => done token
where
  /-- Nothing special is expected after a token. -/
  done (token : Token) : Parse Token := do
    expect {}
    return token

/-! ## Commands -/

/-- Where a list of commands ends. -/
inductive Extent where
  /-- At the end of a line. -/
  | line
  /-- Before a word or sign that ends it; it holds a command. -/
  | group
  /-- Before a word or sign that ends it; it may be empty. -/
  | rest
  deriving DecidableEq

/-- The command in a shell of its own, which is not waited for. -/
def Command.unawaited (line : Nat) : Command → Command
  | .pipeline _ stages => .pipeline false stages
  | .redirected line body redirections => .background line body redirections
  | command => .background line command []

/-- The command with redirections after it. -/
def Command.withRedirections (line : Nat) : Command → List Redirection → Command
  | command, [] => command
  | .subshell line body _, redirections => .subshell line body redirections
  | command, redirections => .redirected line command redirections

/-- Splits an assignment into the name and the word for the value. -/
def assignment? (word : Word) : Option (String × Word) :=
  let (name, rest) := word.span fun
    | .plain c => isNameChar c
    | _ => false
  match bareText? name, rest with
  | some text, .plain '=' :: value => if isName text then some (text, value) else none
  | _, _ => none

/-- The word that stands for all arguments. -/
def allArguments : Word :=
  [.double [.parameter "@" .value]]

/-- The utilities whose names no function can have. -/
def specials : List String :=
  [".", ":", "break", "continue", "eval", "exec", "exit", "export", "local", "readonly", "return",
    "set", "shift", "times", "trap", "unset"]

/-- The name of a function, if a word can be one. -/
def functionName? (word : Word) : Option String :=
  (bareText? word).filter fun text => isName text && !specials.contains text

/-- What a simple command is made of so far. -/
structure Parts where
  assignments : List (String × Word) := []
  words : List Word := []
  redirections : List Redirection := []

mutual

/-- Reads a list of commands after the ones read so far; `any` says that there are some. -/
def list (t : Setting) : Nat → Extent → (any : Bool) → Command → Parse Command
  | 0, _, _, _ => t.fail .tooDeep
  | fuel + 1, extent, any, soFar => do
    expect { skipsLines := extent ≠ .line, reserved := true, aliases := true }
    match ← next t fuel with
    | .newline => do
      readAwaited (scope t fuel)
      return soFar
    | .ending => atEnd t fuel soFar
    | start =>
      putBack start
      if start.endsList && (extent = .rest || (extent = .group && any)) then return soFar
      else
        let command ← andOr t fuel
        let line ← t.line
        match ← next t fuel with
        | .background => list t fuel extent true (soFar.followedBy (command.unawaited line))
        | .semicolon => list t fuel extent true (soFar.followedBy command)
        | .newline => do
          putBack .newline
          list t fuel extent true (soFar.followedBy command)
        | .ending => atEnd t fuel (soFar.followedBy command)
        | token =>
          if extent = .line then t.refuse token none
          else do
            putBack token
            return soFar.followedBy command

/-- Ends a list at the end of the text. -/
def atEnd (t : Setting) : Nat → Command → Parse Command
  | 0, _ => t.fail .tooDeep
  | fuel + 1, soFar => do
    readAwaited (scope t fuel)
    putBack .ending
    return soFar

/-- What the words of a script are read with. -/
def scope (t : Setting) : Nat → Scope
  | 0 => { last := t.last, script := fun _ _ => .error ⟨t.last, .tooDeep⟩ }
  | fuel + 1 => { last := t.last, script := nested t fuel }

/-- Reads the script of a substitution: between parentheses, or a whole text. -/
def nested (t : Setting) : Nat → Bool → List Char → Except Mistake (Script × List Char)
  | 0, _, _ => .error ⟨t.last, .tooDeep⟩
  | fuel + 1, true, cs =>
    let read : Parse Command := do
      let command ← list t fuel .rest false .nothing
      match ← next t fuel with
      | .closeParen => do
        let rest := (← get).rest
        modify fun s => { s with rest := [] }
        readAwaited (scope t fuel)
        modify fun s => { s with rest }
        return command
      | token => t.refuse token (some .closeParen)
    (read.run { rest := cs }).map fun (command, s) => (.mk command s.documents, s.rest)
  | fuel + 1, false, cs =>
    let t := { t with last := lineEnds cs + 1 }
    ((list t fuel .rest false .nothing).run { rest := cs }).map fun (command, s) =>
      (.mk command s.documents, [])

/-- Reads a token as it is expected. -/
def next (t : Setting) : Nat → Parse Token
  | 0 => t.fail .tooDeep
  | fuel + 1 => token t (scope t fuel) (fuel + 1)

/-- Reads a token that is needed here. -/
def need (t : Setting) : Nat → Token → Parse Unit
  | 0, _ => t.fail .tooDeep
  | fuel + 1, needed => do
    let found ← next t fuel
    if found.text = needed.text then return ()
    else t.refuse found (some needed)

/-- Reads pipelines joined by `&&` and `||`. -/
def andOr (t : Setting) : Nat → Parse Command
  | 0 => t.fail .tooDeep
  | fuel + 1 => do
    let first ← pipeline t fuel
    andOrAfter t fuel first

/-- Reads what is joined to a command by `&&` and `||`, from left to right. -/
def andOrAfter (t : Setting) : Nat → Command → Parse Command
  | 0, _ => t.fail .tooDeep
  | fuel + 1, first => do
    match ← next t fuel with
    | .andThen => do
      expect .command
      let second ← pipeline t fuel
      andOrAfter t fuel (.andThen first second)
    | .orElse => do
      expect .command
      let second ← pipeline t fuel
      andOrAfter t fuel (.orElse first second)
    | token => do
      putBack token
      return first

/-- Reads commands joined by `|`, perhaps after a `!`. -/
def pipeline (t : Setting) : Nat → Parse Command
  | 0 => t.fail .tooDeep
  | fuel + 1 => do
    match ← next t fuel with
    | .reserved "!" => do
      expect { reserved := true, aliases := true }
      let body ← stages t fuel
      return .not body
    | token => do
      putBack token
      stages t fuel

/-- Reads commands joined by `|`. -/
def stages (t : Setting) : Nat → Parse Command
  | 0 => t.fail .tooDeep
  | fuel + 1 => do
    let first ← command t fuel
    match ← moreStages t fuel with
    | [] => return first
    | more => return .pipeline true (first :: more)

/-- Reads the commands that follow after `|`. -/
def moreStages (t : Setting) : Nat → Parse (List Command)
  | 0 => t.fail .tooDeep
  | fuel + 1 => do
    match ← next t fuel with
    | .pipe => do
      expect .command
      let stage ← command t fuel
      return stage :: (← moreStages t fuel)
    | token => do
      putBack token
      return []

/-- Reads one command. -/
def command (t : Setting) : Nat → Parse Command
  | 0 => t.fail .tooDeep
  | fuel + 1 => do
    let line ← t.line
    match ← next t fuel with
    | .reserved "if" => do
      let body ← conditional t fuel
      need t fuel (.reserved "fi")
      trailing t fuel line body
    | .reserved "while" => do
      let body ← loopAfter t fuel false
      trailing t fuel line body
    | .reserved "until" => do
      let body ← loopAfter t fuel true
      trailing t fuel line body
    | .reserved "for" => do
      let body ← eachAfter t fuel line
      trailing t fuel line body
    | .reserved "case" => do
      match ← next t fuel with
      | .word subject => do
        expect .command
        need t fuel (.reserved "in")
        let cases ← caseList t fuel
        trailing t fuel line (.select line subject cases)
      | token => t.refuse token (some (.word []))
    | .openParen => do
      let body ← list t fuel .group false .nothing
      need t fuel .closeParen
      trailing t fuel line (.subshell line body [])
    | .reserved "\x7b" => do
      let body ← list t fuel .group false .nothing
      need t fuel (.reserved "\x7d")
      trailing t fuel line body
    | .word pieces => do
      putBack (.word pieces)
      simple t fuel (← t.line) {}
    | .redirect descriptor direction => do
      putBack (.redirect descriptor direction)
      simple t fuel (← t.line) {}
    | .document descriptor tabs => do
      putBack (.document descriptor tabs)
      simple t fuel (← t.line) {}
    | token => t.refuse token none

/-- Reads the redirections after a compound command. -/
def trailing (t : Setting) : Nat → Nat → Command → Parse Command
  | 0, _, _ => t.fail .tooDeep
  | fuel + 1, line, body => do
    expect { reserved := true, aliases := true }
    return body.withRedirections line (← redirections t fuel)

/-- Reads redirections. -/
def redirections (t : Setting) : Nat → Parse (List Redirection)
  | 0 => t.fail .tooDeep
  | fuel + 1 => do
    match ← next t fuel with
    | .redirect descriptor direction => do
      let first ← target t fuel (.redirect descriptor direction)
      return first :: (← redirections t fuel)
    | .document descriptor tabs => do
      let first ← target t fuel (.document descriptor tabs)
      return first :: (← redirections t fuel)
    | token => do
      putBack token
      return []

/-- Reads the word of a redirection. -/
def target (t : Setting) : Nat → Token → Parse Redirection
  | 0, _ => t.fail .tooDeep
  | fuel + 1, .document descriptor tabs => do
    expect { mark := true }
    match ← next t fuel with
    | .word pieces => do
      let (mark, quoted) := rawText pieces
      let s ← get
      set { s with awaited := s.awaited ++ [Awaited.mk mark quoted tabs] }
      return .document descriptor (s.documents.length + s.awaited.length)
    | token => t.refuse token none
  | fuel + 1, .redirect descriptor direction => do
    match ← next t fuel with
    | .word pieces => return .toward descriptor direction pieces
    | token => t.refuse token none
  | _ + 1, token => t.refuse token none

/-- Reads the words, assignments and redirections of a simple command, or a function. -/
def simple (t : Setting) : Nat → Nat → Parts → Parse Command
  | 0, _, _ => t.fail .tooDeep
  | fuel + 1, line, parts => do
    if parts.words.isEmpty then expect { aliases := true }
    match ← next t fuel with
    | .word pieces =>
      match parts.words.isEmpty, assignment? pieces with
      | true, some assignment =>
        simple t fuel line { parts with assignments := parts.assignments ++ [assignment] }
      | _, _ => simple t fuel line { parts with words := parts.words ++ [pieces] }
    | .redirect descriptor direction => do
      let r ← target t fuel (.redirect descriptor direction)
      simple t fuel line { parts with redirections := parts.redirections ++ [r] }
    | .document descriptor tabs => do
      let r ← target t fuel (.document descriptor tabs)
      simple t fuel line { parts with redirections := parts.redirections ++ [r] }
    | .openParen =>
      match parts with
      | ⟨[], [word], []⟩ => do
        need t fuel .closeParen
        match functionName? word with
        | none => t.fail .badFunctionName
        | some name => do
          expect .command
          let line ← t.line
          let body ← command t fuel
          return .define line name body
      | _ => finish line parts .openParen
    | token => finish line parts token
where
  /-- Ends a command before a token. -/
  finish (line : Nat) (parts : Parts) (token : Token) : Parse Command := do
    putBack token
    return .simple line parts.assignments parts.words parts.redirections

/-- Reads a condition and its branches. -/
def conditional (t : Setting) : Nat → Parse Command
  | 0 => t.fail .tooDeep
  | fuel + 1 => do
    let condition ← list t fuel .group false .nothing
    need t fuel (.reserved "then")
    let yes ← list t fuel .group false .nothing
    match ← next t fuel with
    | .reserved "elif" => return .branch condition yes (← conditional t fuel)
    | .reserved "else" => return .branch condition yes (← list t fuel .group false .nothing)
    | token => do
      putBack token
      return .branch condition yes .nothing

/-- Reads the condition and the body of a loop. -/
def loopAfter (t : Setting) : Nat → Bool → Parse Command
  | 0, _ => t.fail .tooDeep
  | fuel + 1, negated => do
    let condition ← list t fuel .group false .nothing
    need t fuel (.reserved "do")
    let body ← list t fuel .group false .nothing
    need t fuel (.reserved "done")
    return .loop negated condition body

/-- Reads the variable, the words and the body of a loop. -/
def eachAfter (t : Setting) : Nat → Nat → Parse Command
  | 0, _ => t.fail .tooDeep
  | fuel + 1, line => do
    match ← next t fuel with
    | .word pieces =>
      match (bareText? pieces).filter isName with
      | none => t.fail .badLoopVariable
      | some name => do
        expect .command
        let words ← match ← next t fuel with
          | .reserved "in" => wordList t fuel
          | .semicolon => pure [allArguments]
          | token => do
            putBack token
            pure [allArguments]
        expect .command
        need t fuel (.reserved "do")
        let body ← list t fuel .group false .nothing
        need t fuel (.reserved "done")
        return .each line name words body
    | _ => t.fail .badLoopVariable

/-- Reads words up to the end of the line or a semicolon. -/
def wordList (t : Setting) : Nat → Parse (List Word)
  | 0 => t.fail .tooDeep
  | fuel + 1 => do
    match ← next t fuel with
    | .word pieces => return pieces :: (← wordList t fuel)
    | .newline | .semicolon => return []
    | token => t.refuse token none

/-- Reads the cases of a selection and the closing `esac`. -/
def caseList (t : Setting) : Nat → Parse (List (List Word × Command))
  | 0 => t.fail .tooDeep
  | fuel + 1 => do
    expect { skipsLines := true, reserved := true }
    match ← next t fuel with
    | .reserved "esac" => return []
    | token => do
      let first ← match token with
        | .openParen => next t fuel
        | token => pure token
      let words ← patterns t fuel first
      let body ← list t fuel .rest false .nothing
      expect { skipsLines := true, reserved := true }
      match ← next t fuel with
      | .reserved "esac" => return [(words, body)]
      | .caseEnd => return (words, body) :: (← caseList t fuel)
      | token => t.refuse token (some .caseEnd)

/-- Reads the patterns of a case from the given token on, and the parenthesis after them. A token that is
no word stands for the word before it. -/
def patterns (t : Setting) : Nat → Token → Parse (List Word)
  | 0, _ => t.fail .tooDeep
  | fuel + 1, first => do
    let pattern ← match first with
      | .word pieces => pure pieces
      | .reserved text => pure (text.toList.map Piece.plain)
      | _ => pure (← get).lastWord
    match ← next t fuel with
    | .pipe => return pattern :: (← patterns t fuel (← next t fuel))
    | .closeParen => return [pattern]
    | token => t.refuse token (some .closeParen)

end

/-! ## Scripts -/

/-- Enough fuel to read a text. -/
def fuelFor (cs : List Char) : Nat :=
  8 * cs.length + 1024

/-- Reads the commands up to the end of a line; there are none at the end of the text. Tells whether
the text ends there too. -/
def readLine (t : Setting) (s : Source) : Except Mistake (Option Script × Source) := do
  let fresh := { s with awaited := [], documents := [], expected := {} }
  let (command, s) ← (list t (fuelFor s.rest) .line false .nothing).run fresh
  match command, s.pushed with
  | .nothing, some .ending => return (none, s)
  | command, _ => return (some (.mk command s.documents), s)

/-- The word that a text makes up if it is read like a here-document. -/
def documentWord? (text : List Char) : Option Word :=
  let t : Setting := { last := lineEnds text + 1 }
  match readDocument (scope t (fuelFor text)) false ['\x00'] (text.length + 1) false text with
  | .ok (pieces, _) => some [.double pieces]
  | .error _ => none

/-- The commands of the lines of a script, if all of them can be read. -/
def readLines? (t : Setting) : Nat → Source → Option (List Command)
  | 0, _ => none
  | fuel + 1, s =>
    match readLine t s with
    | .error _ => none
    | .ok (none, _) => some []
    | .ok (some script, s) => (readLines? t fuel s).map (script.command :: ·)

/-- The commands of a script, line by line, if all of it can be read. -/
def script? (s : String) : Option (List Command) :=
  let cs := s.toList
  readLines? { last := lineEnds cs + 1 } (cs.length + 2) { rest := cs }

end RouteKeeper.Shell
