import RouteKeeper.Json.Value

/-!
# Writing JSON

The compact form of a value, without any blank, and the indented form, which puts
each item and member on a line of its own. Characters are escaped only where JSON
asks for it.
-/

namespace RouteKeeper.Json

/-- The hexadecimal digit of a number below 16, in lower case. -/
def hexDigit (n : Nat) : Char :=
  if n < 10 then Char.ofNat (48 + n) else Char.ofNat (87 + n)

/-- The escape that spells a 16-bit number. -/
def unitEscape (n : Nat) : List Char :=
  ['\\', 'u', hexDigit (n / 4096 % 16), hexDigit (n / 256 % 16), hexDigit (n / 16 % 16),
    hexDigit (n % 16)]

/-- The spelling of one point inside a string. -/
def Point.chars : Point → List Char
  | .surrogate n => unitEscape n
  | .char c =>
    match c with
    | '"' => ['\\', '"']
    | '\\' => ['\\', '\\']
    | '\x08' => ['\\', 'b']
    | '\x0c' => ['\\', 'f']
    | '\n' => ['\\', 'n']
    | '\r' => ['\\', 'r']
    | '\t' => ['\\', 't']
    | c => if c.toNat < 32 then unitEscape c.toNat else [c]

/-- The spelling of a string between its quotes. -/
def quoted (ps : List Point) : List Char :=
  '"' :: (ps.flatMap Point.chars ++ ['"'])

namespace Value

mutual

/-- The compact form of a value. -/
def chars : Value → List Char
  | .null => "null".toList
  | .bool true => "true".toList
  | .bool false => "false".toList
  | .number spelling => spelling
  | .string ps => quoted ps
  | .array [] => ['[', ']']
  | .array (v :: rest) => '[' :: (v.chars ++ itemChars rest)
  | .object [] => ['{', '}']
  | .object ((name, v) :: rest) => '{' :: (quoted name ++ ':' :: (v.chars ++ memberChars rest))

/-- The items after the first one, to the closing bracket. -/
def itemChars : List Value → List Char
  | [] => [']']
  | v :: rest => ',' :: (v.chars ++ itemChars rest)

/-- The members after the first one, to the closing brace. -/
def memberChars : List (List Point × Value) → List Char
  | [] => ['}']
  | (name, v) :: rest => ',' :: (quoted name ++ ':' :: (v.chars ++ memberChars rest))

end

/-- The compact form as a string. -/
def compact (v : Value) : String :=
  String.ofList v.chars

/-- A new line with the given indentation, two blanks a level. -/
def newLine (level : Nat) : List Char :=
  '\n' :: List.replicate (2 * level) ' '

mutual

/-- The indented form of a value that stands at the given level. -/
def indented (level : Nat) : Value → List Char
  | .array (v :: rest) =>
    '[' :: (newLine (level + 1) ++ v.indented (level + 1) ++ indentedItems level rest)
  | .object ((name, v) :: rest) =>
    '{' :: (newLine (level + 1) ++ quoted name ++ [':', ' '] ++ v.indented (level + 1) ++
      indentedMembers level rest)
  | v => v.chars

/-- The items after the first one, each on a line of its own. -/
def indentedItems (level : Nat) : List Value → List Char
  | [] => newLine level ++ [']']
  | v :: rest => ',' :: (newLine (level + 1) ++ v.indented (level + 1) ++ indentedItems level rest)

/-- The members after the first one, each on a line of its own. -/
def indentedMembers (level : Nat) : List (List Point × Value) → List Char
  | [] => newLine level ++ ['}']
  | (name, v) :: rest =>
    ',' :: (newLine (level + 1) ++ quoted name ++ [':', ' '] ++ v.indented (level + 1) ++
      indentedMembers level rest)

end

/-- The indented form as a string. -/
def pretty (v : Value) : String :=
  String.ofList (v.indented 0)

end Value

end RouteKeeper.Json
