/-! Signals by number: their names, what is said of a process that one of them ends, and which of
them do that. -/
namespace BuildRunner.Sandbox.Signal

def pipe : Nat := 13
def term : Nat := 15
def kill : Nat := 9
def fault : Nat := 11

/-- Names from number one on, each with its description. -/
def table : List (String × String) :=
  [("HUP", "Hangup"), ("INT", "Interrupt"), ("QUIT", "Quit"), ("ILL", "Illegal instruction"),
   ("TRAP", "Trace/breakpoint trap"), ("ABRT", "Aborted"), ("BUS", "Bus error"),
   ("FPE", "Floating point exception"), ("KILL", "Killed"), ("USR1", "User defined signal 1"),
   ("SEGV", "Segmentation fault"), ("USR2", "User defined signal 2"), ("PIPE", "Broken pipe"),
   ("ALRM", "Alarm clock"), ("TERM", "Terminated"), ("STKFLT", "Stack fault"),
   ("CHLD", "Child exited"), ("CONT", "Continued"), ("STOP", "Stopped (signal)"), ("TSTP", "Stopped"),
   ("TTIN", "Stopped (tty input)"), ("TTOU", "Stopped (tty output)"),
   ("URG", "Urgent I/O condition"), ("XCPU", "CPU time limit exceeded"),
   ("XFSZ", "File size limit exceeded"), ("VTALRM", "Virtual timer expired"),
   ("PROF", "Profiling timer expired"), ("WINCH", "Window changed"), ("IO", "I/O possible"),
   ("PWR", "Power failure"), ("SYS", "Bad system call")]

/-- The first and the last signal of those without a meaning of their own. -/
def firstFree : Nat := 34
def last : Nat := 64

def name? (n : Nat) : Option String :=
  if n == 0 then some "EXIT"
  else if n < firstFree then (table[n - 1]?).map (·.1)
  else if n == firstFree then some "RTMIN"
  else if n == last then some "RTMAX"
  else if n < 50 then some ("RTMIN+" ++ toString (n - firstFree))
  else if n < last then some ("RTMAX-" ++ toString (last - n))
  else none

def description (n : Nat) : String :=
  match table[n - 1]? with
  | some (_, text) => text
  | none =>
    if firstFree ≤ n && n ≤ last then "Real-time signal " ++ toString (n - firstFree)
    else "Unknown signal " ++ toString n

def ofName? (name : String) : Option Nat :=
  let upper := name.map Char.toUpper
  (List.range (last + 1)).find? fun n => name? n == some upper

/-- Whether a process that does not expect the signal ends. -/
def isFatal (n : Nat) : Bool := n != 0 && !(17 ≤ n && n ≤ 23) && n != 28

/-- Whether nothing can be done about the signal. -/
def isFinal (n : Nat) : Bool := n == kill || n == 19

end BuildRunner.Sandbox.Signal
