import RouteKeeper.Text.Number

/-!
# The grammar of JSON

Which texts are values, and which texts spell a given string. A string has many spellings: any of
its characters may be escaped by its code, in hexadecimal digits of either case, some have a short
escape besides, and one beyond the basic plane takes two codes. Spaces and line ends may stand
around every value and name.

## Implementation notes

A value that nobody looks at may hold strings that spell no characters, half of a surrogate pair
among them. So it is told apart which texts are values and which ones spell a string.
-/

namespace RouteKeeper.Json

/-- Spaces and line ends, or nothing. -/
def IsBlank (cs : List Char) : Prop :=
  ∀ c ∈ cs, c = ' ' ∨ c = '\n' ∨ c = '\t' ∨ c = '\r'

/-! ## Numbers -/

/-- One or more decimal digits. -/
def IsDigits (cs : List Char) : Prop :=
  cs ≠ [] ∧ ∀ c ∈ cs, Text.isDigit c = true

/-- The digits in front of the point, without a needless zero. -/
def IsWhole (cs : List Char) : Prop :=
  IsDigits cs ∧ (cs.head? = some '0' → cs.length = 1)

/-- Nothing, or a point and digits. -/
def IsFraction (cs : List Char) : Prop :=
  cs = [] ∨ ∃ ds, IsDigits ds ∧ cs = '.' :: ds

/-- Nothing, or a mark and digits, with a sign between them if need be. -/
def IsExponent (cs : List Char) : Prop :=
  cs = [] ∨ ∃ mark sign ds, mark ∈ ['e', 'E'] ∧ sign ∈ [[], ['+'], ['-']] ∧ IsDigits ds ∧
    cs = mark :: (sign ++ ds)

/-- The text of a number. -/
def IsNumber (cs : List Char) : Prop :=
  ∃ minus whole fraction exponent, minus ∈ [[], ['-']] ∧ IsWhole whole ∧ IsFraction fraction ∧
    IsExponent exponent ∧ cs = minus ++ (whole ++ (fraction ++ exponent))

/-! ## Strings -/

/-- A character stands for a number below sixteen, in either case. -/
def IsHexDigit (n : Nat) (c : Char) : Prop :=
  "0123456789abcdef".toList[n]? = some c ∨ "0123456789ABCDEF".toList[n]? = some c

/-- Four hexadecimal digits stand for a number of sixteen bits. -/
def IsUnit (n : Nat) (cs : List Char) : Prop :=
  ∃ a b c d, IsHexDigit (n / 4096) a ∧ IsHexDigit (n / 256 % 16) b ∧ IsHexDigit (n / 16 % 16) c ∧
    IsHexDigit (n % 16) d ∧ cs = [a, b, c, d]

/-- The letters of the short escapes, with the characters that they stand for. -/
def shortEscapes : List (Char × Char) :=
  [('"', '"'), ('\\', '\\'), ('/', '/'), ('b', '\x08'), ('f', '\x0c'), ('n', '\n'), ('r', '\r'),
    ('t', '\t')]

/-- A character may stand for itself inside a string. -/
def IsPlain (c : Char) : Prop :=
  32 ≤ c.toNat ∧ c ≠ '"' ∧ c ≠ '\\'

/-- A text spells a character inside a string. -/
inductive SpellsChar (c : Char) : List Char → Prop
  /-- By itself. -/
  | plain (h : IsPlain c) : SpellsChar c [c]
  /-- By a letter. -/
  | short {letter : Char} (h : (letter, c) ∈ shortEscapes) : SpellsChar c ['\\', letter]
  /-- By its code. -/
  | unit {cs : List Char} (h : IsUnit c.toNat cs) : SpellsChar c ('\\' :: 'u' :: cs)
  /-- By the two halves of a surrogate pair. -/
  | pair {high low : List Char} (h : 0x10000 ≤ c.toNat)
      (hhigh : IsUnit (0xd800 + (c.toNat - 0x10000) / 0x400) high)
      (hlow : IsUnit (0xdc00 + (c.toNat - 0x10000) % 0x400) low) :
      SpellsChar c ('\\' :: 'u' :: (high ++ '\\' :: 'u' :: low))

/-- A text spells characters one after another. -/
inductive SpellsChars : List Char → List Char → Prop
  /-- No character takes no text. -/
  | nil : SpellsChars [] []
  /-- A character, and the rest after it. -/
  | cons {c : Char} {cs front rest : List Char} (h : SpellsChar c front)
      (hrest : SpellsChars cs rest) : SpellsChars (c :: cs) (front ++ rest)

/-- What may stand between the quotes of a string, whether or not it spells characters. -/
inductive IsBody : List Char → Prop
  | nil : IsBody []
  | plain {c : Char} {rest : List Char} (h : IsPlain c) (hrest : IsBody rest) : IsBody (c :: rest)
  | short {letter c : Char} {rest : List Char} (h : (letter, c) ∈ shortEscapes)
      (hrest : IsBody rest) : IsBody ('\\' :: letter :: rest)
  | unit {n : Nat} {digits rest : List Char} (h : IsUnit n digits) (hrest : IsBody rest) :
      IsBody ('\\' :: 'u' :: (digits ++ rest))

/-- A text is a string between its quotes, with blanks around. -/
def IsQuoted (body cs : List Char) : Prop :=
  ∃ front back, IsBlank front ∧ IsBlank back ∧ cs = front ++ '"' :: (body ++ '"' :: back)

/-- A text spells a string, with its quotes and with blanks around. -/
def Spells (s : String) (cs : List Char) : Prop :=
  ∃ body, SpellsChars s.toList body ∧ IsQuoted body cs

/-! ## Values -/

/-- The text of an array with the given texts of items. -/
def arrayText (items : List (List Char)) : List Char :=
  '[' :: ([','].intercalate items ++ [']'])

/-- The text of an object with the given texts of names and values. -/
def objectText (members : List (List Char × List Char)) : List Char :=
  '{' :: ([','].intercalate (members.map fun m => m.1 ++ ':' :: m.2) ++ ['}'])

/-- The text of a value, with blanks around. -/
inductive IsValue : List Char → Prop
  | word {w : String} (h : w ∈ ["null", "true", "false"]) : IsValue w.toList
  | number {cs : List Char} (h : IsNumber cs) : IsValue cs
  | string {body : List Char} (h : IsBody body) : IsValue ('"' :: (body ++ ['"']))
  | emptyArray {inside : List Char} (h : IsBlank inside) : IsValue ('[' :: (inside ++ [']']))
  | array {items : List (List Char)} (hne : items ≠ []) (h : ∀ item ∈ items, IsValue item) :
      IsValue (arrayText items)
  | emptyObject {inside : List Char} (h : IsBlank inside) : IsValue ('{' :: (inside ++ ['}']))
  | object {members : List (List Char × List Char)} (hne : members ≠ [])
      (hnames : ∀ m ∈ members, ∃ body, IsBody body ∧ IsQuoted body m.1)
      (hvalues : ∀ m ∈ members, IsValue m.2) : IsValue (objectText members)
  | spaced {front cs back : List Char} (hfront : IsBlank front) (hback : IsBlank back)
      (h : IsValue cs) : IsValue (front ++ (cs ++ back))

end RouteKeeper.Json
