/-!
# Patterns

The patterns of the shell: `*` for any text, `?` for any character, and brackets
for one of some characters. A backslash takes its meaning from the character after it.
-/

namespace RouteKeeper.Shell.Pattern

/-- A member of a bracket. -/
inductive Member where
  /-- The characters from one to another. -/
  | range (low high : Char)
  /-- The characters of a named class. -/
  | named (name : String)
  deriving DecidableEq

/-- A part of a pattern. -/
inductive Item where
  /-- This character. -/
  | exactly (c : Char)
  /-- Any character. -/
  | one
  /-- Any text. -/
  | many
  /-- A character that is one of the members, or none of them if `negated`. -/
  | among (negated : Bool) (members : List Member)
  deriving DecidableEq

/-- The named classes of characters. -/
def classNames : List String :=
  ["alnum", "cntrl", "lower", "space", "alpha", "digit", "print", "upper", "blank", "graph", "punct",
    "xdigit"]

/-- Whether a character belongs to a named class. -/
def isIn (name : String) (c : Char) : Bool :=
  let n := c.toNat
  match name with
  | "alnum" => c.isAlphanum
  | "alpha" => c.isAlpha
  | "blank" => c == ' ' || c == '\t'
  | "cntrl" => n < 32 || n == 127
  | "digit" => c.isDigit
  | "graph" => 32 < n && n < 127
  | "lower" => c.isLower
  | "print" => 32 ≤ n && n < 127
  | "punct" => 32 < n && n < 127 && !c.isAlphanum
  | "space" => c == ' ' || (9 ≤ n && n ≤ 13)
  | "upper" => c.isUpper
  | "xdigit" => c.isDigit || ('a' ≤ c && c ≤ 'f') || ('A' ≤ c && c ≤ 'F')
  | _ => false

/-- The name of the class at the front, after an opening bracket. -/
def className? (cs : List Char) : Option (String × List Char) :=
  (classNames.find? fun name => (':' :: name.toList ++ [':', ']']).isPrefixOf cs).map fun name =>
    (name, cs.drop (name.length + 3))

/-- The member that begins with a character, given what follows it. -/
def memberFrom (c : Char) : List Char → Option (Member × List Char)
  | ['-'] => none
  | '-' :: ']' :: rest => some (.range c c, '-' :: ']' :: rest)
  | '-' :: '\\' :: high :: rest => some (.range c high, rest)
  | '-' :: high :: rest => some (.range c high, rest)
  | rest => some (.range c c, rest)

/-- The member at the front. -/
def member? : List Char → Option (Member × List Char)
  | [] => none
  | '[' :: rest =>
    match className? rest with
    | some (name, rest) => some (.named name, rest)
    | none => memberFrom '[' rest
  | '\\' :: c :: rest => memberFrom c rest
  | c :: rest => memberFrom c rest

/-- Reads members up to the closing bracket; the first one may be a bracket itself. -/
def members : Nat → List Char → Option (List Member × List Char)
  | 0, _ => none
  | fuel + 1, cs => do
    let (m, rest) ← member? cs
    match rest with
    | ']' :: rest => return ([m], rest)
    | rest =>
      let (ms, rest) ← members fuel rest
      return (m :: ms, rest)

/-- Reads a bracket after its opening sign. -/
def bracket? (cs : List Char) : Option (Item × List Char) :=
  match cs with
  | '!' :: rest => (members cs.length rest).map fun (ms, rest) => (.among true ms, rest)
  | cs => (members (cs.length + 1) cs).map fun (ms, rest) => (.among false ms, rest)

/-- The pattern that characters spell. -/
def ofChars : Nat → List Char → List Item
  | _, [] => []
  | 0, _ => []
  | fuel + 1, '\\' :: c :: rest => .exactly c :: ofChars fuel rest
  | fuel + 1, '*' :: rest => .many :: ofChars fuel rest
  | fuel + 1, '?' :: rest => .one :: ofChars fuel rest
  | fuel + 1, '[' :: rest =>
    match bracket? rest with
    | some (item, rest) => item :: ofChars fuel rest
    | none => .exactly '[' :: ofChars fuel rest
  | fuel + 1, c :: rest => .exactly c :: ofChars fuel rest

/-- Whether a member of a bracket is a character or a class of it. -/
def Member.accepts (c : Char) : Member → Bool
  | .range low high => low ≤ c && c ≤ high
  | .named name => isIn name c

/-- Whether a part other than `many` matches a character. -/
def Item.accepts (c : Char) : Item → Bool
  | .exactly d => c == d
  | .one | .many => true
  | .among negated members => negated != members.any (·.accepts c)

/-- Whether a pattern matches the whole of a text. -/
def accepts : List Item → List Char → Bool
  | [], cs => cs.isEmpty
  | .many :: items, [] => accepts items []
  | .many :: items, c :: cs => accepts items (c :: cs) || accepts (.many :: items) cs
  | _ :: _, [] => false
  | item :: items, c :: cs => item.accepts c && accepts items cs
termination_by items cs => (items.length, cs.length)

/-- All splits of a text into two parts, the one with the shorter first part first. -/
def splits : List Char → List (List Char × List Char)
  | [] => [([], [])]
  | c :: cs => ([], c :: cs) :: (splits cs).map fun (a, b) => (c :: a, b)

/-- What is left of a text without the part at its start or end that the pattern matches. A gap
between two fields ends what is matched. -/
def trim (atEnd longest : Bool) (items : List Item) (cs : List Char) : List Char :=
  let tries := if atEnd then (splits cs).reverse else splits cs
  let tries := if longest then tries.reverse else tries
  let found := tries.find? fun (a, b) =>
    accepts items ((if atEnd then b else a).takeWhile (· != '\x00'))
  match found with
  | some (a, b) => if atEnd then a else b
  | none => cs

end RouteKeeper.Shell.Pattern
