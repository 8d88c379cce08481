/-!
# Quoting for the shell

A text is quoted by putting it between double quotes, with a backslash before
each character that has a meaning there.
-/

namespace RouteKeeper.Shell

/-- The characters that get a backslash: dollar sign, backquote, double quote, backslash and
newline. -/
def isSpecial (c : Char) : Bool :=
  c == '$' || c == '\x60' || c == '"' || c == '\\' || c == '\n'

/-- Puts a backslash before each special character. -/
def escape : List Char → List Char
  | [] => []
  | c :: rest => if isSpecial c then '\\' :: c :: escape rest else c :: escape rest

/-- The quoted form of some characters. -/
def quoteChars (s : List Char) : List Char :=
  '"' :: (escape s ++ ['"'])

/-- The quoted form of a text. -/
def quote (s : String) : String :=
  String.ofList (quoteChars s.toList)

/-- The program that sets kernel parameters. -/
def sysctl : String := "/sbin/sysctl"

/-- The command that sets a kernel parameter. -/
def setParameter (key value : String) : String :=
  sysctl ++ " -w " ++ quote key ++ "=" ++ quote value

/-- The kernel parameter that turns on forwarding of IPv4 packets. -/
def forwardingKey : String := "net.ipv4.ip_forward"

/-- The command that turns on forwarding of IPv4 packets. -/
def enableForwarding : String :=
  setParameter forwardingKey "1"

end RouteKeeper.Shell
