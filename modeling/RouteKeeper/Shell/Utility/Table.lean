import RouteKeeper.Shell.Builtin.Job
import RouteKeeper.Shell.Utility.Edit
import RouteKeeper.Shell.Utility.File
import RouteKeeper.Shell.Utility.Line
import RouteKeeper.Shell.Utility.Number
import RouteKeeper.Shell.Utility.Sort

/-!
# The programs of a host by name

The programs that start no other ones. One that does is started where programs take the
place of a process.
-/

namespace RouteKeeper.Shell.Utility

/-- Sends signals. -/
def kill : Utility := fun arguments => do
  let report ← Builtin.kill arguments
  put report.output
  return report.status

/-- The program of a name. -/
def named? (name : String) : Option Utility :=
  match name with
  | "[" => some (test true)
  | "basename" => some basename
  | "cat" => some cat
  | "chmod" => some chmod
  | "cp" => some cp
  | "cut" => some cut
  | "dirname" => some dirname
  | "echo" => some echo
  | "expr" => some expr
  | "false" => some fun _ => return 1
  | "grep" => some grep
  | "head" => some head
  | "id" => some id
  | "kill" => some kill
  | "ln" => some ln
  | "ls" => some ls
  | "mkdir" => some mkdir
  | "mktemp" => some mktemp
  | "mv" => some mv
  | "nl" => some nl
  | "od" => some od
  | "paste" => some paste
  | "printenv" => some printenv
  | "printf" => some printf
  | "pwd" => some pwd
  | "readlink" => some readlink
  | "realpath" => some realpath
  | "rev" => some rev
  | "rm" => some rm
  | "rmdir" => some rmdir
  | "sed" => some sed
  | "seq" => some seq
  | "sleep" => some sleep
  | "sort" => some sort
  | "tac" => some tac
  | "tail" => some tail
  | "tee" => some tee
  | "test" => some (test false)
  | "touch" => some touch
  | "tr" => some tr
  | "true" => some fun _ => return 0
  | "uname" => some uname
  | "uniq" => some uniq
  | "wc" => some wc
  | "whoami" => some whoami
  | "yes" => some yes
  | _ => none

/-! ## Items for other programs -/

/-- The items of a text, between blanks and ends of lines. Quotes and backslashes keep what is in
them. -/
def quotedItems : Nat → List Char → (item : Option (List Char)) → List String
  | 0, _, _ => []
  | _ + 1, [], item => (item.map String.ofList).toList
  | fuel + 1, c :: cs, item =>
    let soFar := item.getD []
    if c == '\n' || isBlank c then
      (item.map String.ofList).toList ++ quotedItems fuel cs none
    else if c == '\'' || c == '"' then
      let (text, rest) := cs.span (· != c)
      quotedItems fuel (rest.drop 1) (some (soFar ++ text))
    else if c == '\\' then quotedItems fuel (cs.drop 1) (some (soFar ++ cs.take 1))
    else quotedItems fuel cs (some (soFar ++ [c]))

/-- The items of a text for which a program is started. -/
def items (a : Arguments) (text : String) : List String :=
  let parts (c : Char) : List String :=
    let all := partsAt c text
    if all.getLast? = some "" then all.dropLast else all
  if a.has '0' then parts '\x00'
  else
    match (a.value? 'd').map (·.toList) with
    | some ['\\', 'n'] => parts '\n'
    | some ['\\', 't'] => parts '\t'
    | some (c :: _) => parts c
    | _ =>
      if a.has 'I' then
        (linesOf text).filterMap fun l =>
          let l := String.ofList (l.toList.dropWhile isBlank)
          if l.isEmpty then none else some l
      else quotedItems (text.length + 1) text.toList none

/-- A text with an item in the place of each mark. -/
def substituted (mark item text : String) : String :=
  if mark.isEmpty then text else String.ofList (go (text.length + 1) text.toList)
where
  /-- Puts in the item from a place on. -/
  go : Nat → List Char → List Char
    | 0, cs => cs
    | _, [] => []
    | fuel + 1, c :: cs =>
      if mark.toList.isPrefixOf (c :: cs) then
        item.toList ++ go fuel ((c :: cs).drop mark.length)
      else c :: go fuel cs

end RouteKeeper.Shell.Utility
