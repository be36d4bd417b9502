namespace BootChain.Shell.Signal

/-- The names of the signals by their numbers. Zero stands for the end of a script. -/
def names : List (Nat × String) :=
  [(0, "EXIT"), (1, "HUP"), (2, "INT"), (3, "QUIT"), (4, "ILL"), (5, "TRAP"), (6, "ABRT"),
    (7, "BUS"), (8, "FPE"), (9, "KILL"), (10, "USR1"), (11, "SEGV"), (12, "USR2"), (13, "PIPE"),
    (14, "ALRM"), (15, "TERM"), (16, "STKFLT"), (17, "CHLD"), (18, "CONT"), (19, "STOP"),
    (20, "TSTP"), (21, "TTIN"), (22, "TTOU"), (23, "URG"), (24, "XCPU"), (25, "XFSZ"),
    (26, "VTALRM"), (27, "PROF"), (28, "WINCH"), (29, "IO"), (30, "PWR"), (31, "SYS")]

/-- How a shell reports that a program was ended by a signal. -/
def descriptions : List (Nat × String) :=
  [(1, "Hangup"), (3, "Quit"), (4, "Illegal instruction"), (5, "Trace/breakpoint trap"),
    (6, "Aborted"), (7, "Bus error"), (8, "Floating point exception"), (9, "Killed"),
    (10, "User defined signal 1"), (11, "Segmentation fault"), (12, "User defined signal 2"),
    (14, "Alarm clock"), (15, "Terminated"), (16, "Stack fault"), (24, "CPU time limit exceeded"),
    (25, "File size limit exceeded"), (26, "Virtual timer expired"),
    (27, "Profiling timer expired"), (29, "I/O possible"), (30, "Power failure"),
    (31, "Bad system call")]

/-- One more than the greatest number of a signal. -/
def count : Nat := 65

/-- The number of a signal by its number or its name in letters of either case. -/
def number? (word : List Char) : Option Nat :=
  if word ≠ [] ∧ word.all Char.isDigit then
    let n := word.foldl (fun n d => n * 10 + (d.toNat - '0'.toNat)) 0
    if n < count then some n else none
  else
    let name := String.ofList (word.map Char.toUpper)
    (names.find? fun entry => entry.2 = name).map Prod.fst

/-- The name of a signal, or its number if it has none. -/
def name (signal : Nat) : String := (names.lookup signal).getD (toString signal)

/-- What a process does about a signal that it has made no arrangement for. -/
inductive Effect where
  | ignored
  /-- The process stops for good. -/
  | stopped
  | ended
  deriving DecidableEq

def effect (signal : Nat) : Effect :=
  if [0, 17, 18, 23, 28].contains signal then .ignored
  else if [19, 20, 21, 22].contains signal then .stopped
  else .ended

end BootChain.Shell.Signal
