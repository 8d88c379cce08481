import RouteKeeper.Text.Utf8

/-!
# The agent's endpoint

Where the agent is reached: which URI is dialled for an endpoint, and which texts are
URIs at all.

## Implementation notes

The syntax is checked, not the meaning: a name may be unknown and a port out of range.
-/

namespace RouteKeeper.Vpp.Endpoint

/-- Whether a text names a scheme. -/
def namesScheme : List Char → Bool
  | [] => false
  | c :: cs => "://".toList.isPrefixOf (c :: cs) || namesScheme cs

/-- The URI that is dialled for an endpoint: without a scheme, `http` is meant. -/
def dialled (endpoint : String) : String :=
  if namesScheme endpoint.toList then endpoint else "http://" ++ endpoint

/-- The characters of a scheme. -/
def isSchemeChar (c : Char) : Bool :=
  c.isAlphanum || "+-.~".toList.contains c

/-- The characters that need no percent sign. -/
def isUriChar (c : Char) : Bool :=
  c.isAlphanum || "!#$&'()*+,-./:;=?@[]_~".toList.contains c

/-- The most bytes in a URI. -/
def maxLength : Nat := 65534

/-- The most characters in a scheme. -/
def maxScheme : Nat := 64

/-- The most colons in a host. -/
def maxColons : Nat := 8

/-- Splits a text at `://` if a scheme stands before it. -/
def splitScheme? (cs : List Char) : Option (List Char × List Char) :=
  match cs.span isSchemeChar with
  | (scheme, ':' :: '/' :: '/' :: rest) => some (scheme, rest)
  | _ => none

/-- What is known of the authority from its characters so far. -/
structure Authority where
  /-- The colons since the last user name or bracket. -/
  colons : Nat := 0
  /-- A bracket was opened. -/
  opened : Bool := false
  /-- A bracket was closed. -/
  closed : Bool := false
  /-- A percent sign stands after the last user name or bracket. -/
  percent : Bool := false
  /-- The last character ended a user name. -/
  afterUser : Bool := false
  deriving DecidableEq

namespace Authority

/-- Takes in one more character, unless it cannot stand there. -/
def next? (a : Authority) (c : Char) : Option Authority :=
  let a := { a with afterUser := false }
  match c with
  | ':' => if a.colons < maxColons then some { a with colons := a.colons + 1 } else none
  | '[' => if a.percent || a.opened then none else some { a with opened := true }
  | ']' =>
    if a.opened && !a.closed then some { a with closed := true, colons := 0, percent := false }
    else none
  | '@' => some { a with afterUser := true, colons := 0, percent := false }
  | '%' => some { a with percent := true }
  | c => if isUriChar c then some a else none

/-- Takes in characters from left to right. -/
def after? (a : Authority) : List Char → Option Authority
  | [] => some a
  | c :: cs => (a.next? c).bind (·.after? cs)

/-- Whether an authority may end here. -/
def isComplete (a : Authority) : Bool :=
  a.opened == a.closed && a.colons ≤ 1 && !a.afterUser && !a.percent

end Authority

/-- The characters that end an authority. -/
def endsAuthority (c : Char) : Bool :=
  c == '/' || c == '?' || c == '#'

/-- Whether a text is an authority. -/
def isAuthority (cs : List Char) : Bool :=
  (({} : Authority).after? cs).any (·.isComplete)

/-- The characters of a path. -/
def isPathChar (c : Char) : Bool :=
  let n := c.toNat
  n == 0x21 || (0x24 ≤ n && n ≤ 0x3b) || n == 0x3d || (0x40 ≤ n && n ≤ 0x5f) ||
    (0x61 ≤ n && n ≤ 0x7a) || n == 0x7c || n == 0x7e || 0x80 ≤ n || n == 0x22 || n == 0x7b ||
    n == 0x7d

/-- The characters of a query. -/
def isQueryChar (c : Char) : Bool :=
  let n := c.toNat
  n == 0x21 || (0x24 ≤ n && n ≤ 0x3b) || n == 0x3d || (0x3f ≤ n && n ≠ 0x7f)

/-- Whether a text is a path with an optional query and fragment; a fragment may hold anything. -/
def isPath (cs : List Char) : Bool :=
  let (path, rest) := cs.span fun c => c != '?' && c != '#'
  let query := match rest with
    | '?' :: query => query.takeWhile (· != '#')
    | _ => []
  path.all isPathChar && query.all isQueryChar

/-- Whether a text has the syntax of a URI: a path alone, an authority alone, or a scheme, an
authority and a path. -/
def isUri (s : String) : Bool :=
  let cs := s.toList
  if (Text.utf8 s).length > maxLength || cs.isEmpty then false
  else if cs = ['*'] then true
  else if cs.head? = some '/' then isPath cs
  else
    match splitScheme? cs with
    | none => cs.all (!endsAuthority ·) && isAuthority cs
    | some (scheme, rest) =>
      let (authority, path) := rest.span (!endsAuthority ·)
      scheme.length ≤ maxScheme && !authority.isEmpty && isAuthority authority && isPath path

end RouteKeeper.Vpp.Endpoint
