import RouteKeeper.Text.Number

/-!
# A tree of files

Directories, files and what else a host keeps under a name, and how a path leads to
one of them.

## Implementation notes

An entry is kept under the names that lead to it from the root. A path is followed
with a fuel, which ends circles of links.
-/

namespace RouteKeeper.Shell

/-- The names on the way from the root to an entry. -/
abbrev Path := List String

/-- A special file. -/
inductive Device where
  /-- It is always empty, and what is written there is lost. -/
  | null
  /-- It holds characters zero without end. -/
  | zero
  /-- It holds characters zero, and nothing can be written there. -/
  | full
  /-- It leads where a descriptor leads. -/
  | descriptor (number : Nat)
  /-- It cannot be opened. -/
  | terminal
  deriving DecidableEq

/-- What is kept under a name. -/
inductive Node where
  | file (text : String)
  | directory
  | link (target : String)
  | device (kind : Device)
  /-- A program that the host can carry out. -/
  | program (name : String)
  deriving DecidableEq

/-- An entry of the tree. -/
structure Entry where
  node : Node
  /-- Who may do what, as three octal digits. -/
  mode : Nat := 0o644
  /-- When it was changed. -/
  time : Nat := 0
  deriving DecidableEq

/-- Why something cannot be done with a file or a descriptor. -/
inductive Problem where
  | missing
  | notDirectory
  | isDirectory
  | exists
  | denied
  | notEmpty
  | looping
  | nameTooLong
  | badDescriptor
  | noDevice
  | noSpace
  | brokenPipe
  | inputOutput
  | invalid
  | busy
  deriving DecidableEq

/-- The host's description of a problem. -/
def Problem.text : Problem → String
  | .missing => "No such file or directory"
  | .notDirectory => "Not a directory"
  | .isDirectory => "Is a directory"
  | .exists => "File exists"
  | .denied => "Permission denied"
  | .notEmpty => "Directory not empty"
  | .looping => "Too many levels of symbolic links"
  | .nameTooLong => "File name too long"
  | .badDescriptor => "Bad file descriptor"
  | .noDevice => "No such device or address"
  | .noSpace => "No space left on device"
  | .brokenPipe => "Broken pipe"
  | .inputOutput => "Input/output error"
  | .invalid => "Invalid argument"
  | .busy => "Device or resource busy"

/-- The parts of a text between separators. -/
def partsAt (separator : Char) (s : String) : List String :=
  (s.toList.splitOn separator).map String.ofList

/-- The path of some names, as it is written. -/
def Path.text (p : Path) : String :=
  "/" ++ "/".intercalate p

/-- A tree of files. -/
structure Disk where
  entries : List (Path × Entry) := []

namespace Disk

/-- The entry at a place. -/
def entry? (d : Disk) (place : Path) : Option Entry :=
  if place.isEmpty then some { node := .directory, mode := 0o755 } else d.entries.lookup place

/-- Puts an entry at a place. -/
def put (d : Disk) (place : Path) (e : Entry) : Disk :=
  ⟨(place, e) :: d.entries.filter (·.1 != place)⟩

/-- Removes the entry at a place, with all below it. -/
def remove (d : Disk) (place : Path) : Disk :=
  ⟨d.entries.filter fun (p, _) => !place.isPrefixOf p⟩

/-- The names in a directory. -/
def namesIn (d : Disk) (place : Path) : List String :=
  d.entries.filterMap fun (p, _) =>
    if p.dropLast == place && !p.isEmpty then p.getLast? else none

/-- Follows the parts of a path from a place. The last part may be missing; if it is a link, it is
followed too if `follow`. -/
def walk (d : Disk) (follow : Bool) : Nat → Path → List String → Except Problem (Path × Option Entry)
  | 0, _, _ => .error .looping
  | _ + 1, place, [] => .ok (place, d.entry? place)
  | fuel + 1, place, part :: rest =>
    if part == "" || part == "." then d.walk follow fuel place rest
    else if part == ".." then d.walk follow fuel place.dropLast rest
    else
      let next := place ++ [part]
      match d.entry? next with
      | none => if rest.all (· == "") then .ok (next, none) else .error .missing
      | some e =>
        match e.node with
        | .directory => d.walk follow fuel next rest
        | .link target =>
          if rest.isEmpty && !follow then .ok (next, some e)
          else
            let start := if target.startsWith "/" then [] else place
            d.walk follow fuel start (partsAt '/' target ++ rest)
        | _ => if rest.isEmpty then .ok (next, some e) else .error .notDirectory

/-- Where a path leads from a directory, and what is there. -/
def find (d : Disk) (directory : Path) (path : String) (follow : Bool := true) :
    Except Problem (Path × Option Entry) :=
  if path.isEmpty then .error .missing
  else
    let parts := partsAt '/' path
    if parts.any (255 < ·.length) then .error .nameTooLong
    else d.walk follow (parts.length + 100) (if path.startsWith "/" then [] else directory) parts

/-- What a path leads to. -/
def node? (d : Disk) (directory : Path) (path : String) : Option Node :=
  match d.find directory path with
  | .ok (_, some e) => some e.node
  | _ => none

/-- Whether a path leads to a directory. -/
def isDirectory (d : Disk) (directory : Path) (path : String) : Bool :=
  d.node? directory path = some .directory

end Disk

/-! ## A bare host -/

/-- The directories of a host. -/
def commonDirectories : List Path :=
  [["boot"], ["dev"], ["dev", "fd"], ["dev", "pts"], ["dev", "shm"], ["etc"], ["home"], ["media"], ["mnt"], ["opt"],
    ["proc"], ["root"], ["run"], ["srv"], ["sys"], ["tmp"], ["usr"], ["usr", "bin"],
    ["usr", "games"], ["usr", "include"], ["usr", "lib"], ["usr", "lib64"], ["usr", "libexec"],
    ["usr", "local"], ["usr", "local", "bin"], ["usr", "local", "etc"], ["usr", "local", "games"],
    ["usr", "local", "include"], ["usr", "local", "lib"], ["usr", "local", "sbin"],
    ["usr", "local", "share"], ["usr", "local", "src"], ["usr", "sbin"], ["usr", "share"],
    ["usr", "src"], ["var"], ["var", "backups"], ["var", "cache"], ["var", "lib"],
    ["var", "local"], ["var", "log"], ["var", "mail"], ["var", "opt"], ["var", "spool"],
    ["var", "tmp"]]

/-- The programs of a host. -/
def commonPrograms : List String :=
  ["[", "basename", "cat", "chmod", "cp", "cut", "dirname", "echo", "env", "expr", "false", "grep",
    "head", "id", "kill", "ln", "ls", "mkdir", "mktemp", "mv", "nl", "od", "paste", "printenv",
    "printf", "pwd", "readlink", "realpath", "rev", "rm", "rmdir", "sed", "seq", "sh", "sleep", "sort",
    "stat", "tac", "tail", "tee", "test", "touch", "tr", "true", "uname", "uniq", "wc", "whoami", "xargs",
    "yes"]

/-- The files of a bare host. -/
def Disk.bare : Disk :=
  let directory : Entry := { node := .directory, mode := 0o755 }
  let device (kind : Device) : Entry := { node := .device kind, mode := 0o666 }
  let file (text : String) : Entry := { node := .file text }
  let link (target : String) : Entry := { node := .link target, mode := 0o777 }
  let accounts := String.join (["root:x:0:0:root:/root:/bin/bash",
    "daemon:x:1:1:daemon:/usr/sbin:/usr/sbin/nologin",
    "nobody:x:65534:65534:nobody:/nonexistent:/usr/sbin/nologin"].map (· ++ "\n"))
  let shared : Entry := { node := .directory, mode := 0o1777 }
  ⟨commonDirectories.map (fun p => (p, if p.getLast? = some "tmp" then shared else directory)) ++
    [(["bin"], link "usr/bin"), (["sbin"], link "usr/sbin"), (["lib"], link "usr/lib"),
      (["lib64"], link "usr/lib64"), (["dev", "null"], device .null),
      (["dev", "zero"], device .zero), (["dev", "full"], device .full),
      (["dev", "tty"], device .terminal), (["dev", "stdin"], device (.descriptor 0)),
      (["dev", "stdout"], device (.descriptor 1)), (["dev", "stderr"], device (.descriptor 2)),
      (["etc", "passwd"], file accounts), (["etc", "group"], file "root:x:0:\nnogroup:x:65534:\n"),
      (["etc", "hosts"], file "127.0.0.1\tlocalhost\n"), (["etc", "hostname"], file "localhost\n"),
      (["etc", "resolv.conf"], file "nameserver 127.0.0.1\n"), (["etc", "profile"], file "umask 022\n"),
      (["etc", "os-release"], file "ID=linux\n"), (["etc", "fstab"], file "# none\n"),
      (["etc", "shells"], file "/bin/sh\n/usr/bin/sh\n")] ++
    ((List.range 10).map fun n =>
      (["dev", "fd", Text.decimal n], device (.descriptor n))) ++
    commonPrograms.map fun name =>
      (["usr", "bin", name], { node := .program name, mode := 0o755 })⟩

end RouteKeeper.Shell
