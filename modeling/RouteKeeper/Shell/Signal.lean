import RouteKeeper.Shell.Integer

/-!
# Signals

The names of signals, what is said of a process that one of them ended, and which of
them end a process that does not expect them.
-/

namespace RouteKeeper.Shell.Signal

/-- The names of the signals in the order of their numbers; number zero stands for the end of a
shell. -/
def names : List String :=
  ["EXIT", "HUP", "INT", "QUIT", "ILL", "TRAP", "ABRT", "BUS", "FPE", "KILL", "USR1", "SEGV", "USR2",
    "PIPE", "ALRM", "TERM", "16", "CHLD", "CONT", "STOP", "TSTP", "TTIN", "TTOU", "URG", "XCPU",
    "XFSZ", "VTALRM", "PROF", "WINCH", "IO", "PWR", "SYS", "32", "33", "RTMIN"] ++
  (List.range 15).map (fun n => "RTMIN+" ++ Text.decimal (n + 1)) ++
  (List.range 14).map (fun n => "RTMAX-" ++ Text.decimal (14 - n)) ++ ["RTMAX"]

/-- The number of the last signal. -/
def last : Nat := 64

/-- The name of a signal. -/
def name (signal : Nat) : String :=
  names.getD signal ""

/-- The signal of a number or a name, in capitals or not, among those from `least` on. -/
def ofText? (least : Nat) (s : String) : Option Nat :=
  if !s.isEmpty && s.toList.all Char.isDigit then
    (Text.number? s.toList).filter (· ≤ last)
  else
    let upper (x : String) : String := String.ofList (x.toList.map Char.toUpper)
    (names.zipIdx.drop least).lookup (upper s)

/-- Whether a signal ends a process that does not expect it. -/
def endsProcess (signal : Nat) : Bool :=
  !([0, 17, 18, 19, 20, 21, 22, 23, 28].contains signal)

/-- The signal that no process can expect. -/
def kill : Nat := 9

/-- The signal to a process whose writing nobody reads. -/
def pipe : Nat := 13

/-- The signal to a process one of whose children ended. -/
def child : Nat := 17

/-- The names of the two signals of which nothing is said. -/
def unspokenText (signal : Nat) : String :=
  if signal = pipe then "Broken pipe" else "Interrupt"

/-- What is said of a process that a signal ended; of two signals nothing is said. -/
def text? (signal : Nat) : Option String :=
  match signal with
  | 1 => some "Hangup"
  | 2 | 13 => none
  | 3 => some "Quit"
  | 4 => some "Illegal instruction"
  | 5 => some "Trace/breakpoint trap"
  | 6 => some "Aborted"
  | 7 => some "Bus error"
  | 8 => some "Floating point exception"
  | 9 => some "Killed"
  | 10 => some "User defined signal 1"
  | 11 => some "Segmentation fault"
  | 12 => some "User defined signal 2"
  | 14 => some "Alarm clock"
  | 15 => some "Terminated"
  | 16 => some "Stack fault"
  | 24 => some "CPU time limit exceeded"
  | 25 => some "File size limit exceeded"
  | 26 => some "Virtual timer expired"
  | 27 => some "Profiling timer expired"
  | 29 => some "I/O possible"
  | 30 => some "Power failure"
  | 31 => some "Bad system call"
  | n => if 34 ≤ n then some ("Real-time signal " ++ Text.decimal (n - 34)) else none

end RouteKeeper.Shell.Signal
