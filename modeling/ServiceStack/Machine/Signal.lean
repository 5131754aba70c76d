import ServiceStack.Text.Numeral

/-!
The signals of a machine: their names, and what each does to a process that does nothing about it.
-/

namespace ServiceStack.Signal

/-- The named signals, ascending. -/
def names : List (Nat × String) := [
  (1, "HUP"), (2, "INT"), (3, "QUIT"), (4, "ILL"), (5, "TRAP"), (6, "ABRT"), (7, "BUS"),
  (8, "FPE"), (9, "KILL"), (10, "USR1"), (11, "SEGV"), (12, "USR2"), (13, "PIPE"), (14, "ALRM"),
  (15, "TERM"), (16, "STKFLT"), (17, "CHLD"), (18, "CONT"), (19, "STOP"), (20, "TSTP"),
  (21, "TTIN"), (22, "TTOU"), (23, "URG"), (24, "XCPU"), (25, "XFSZ"), (26, "VTALRM"),
  (27, "PROF"), (28, "WINCH"), (29, "IO"), (30, "PWR"), (31, "SYS"), (34, "RTMIN"),
  (64, "RTMAX")]

/-- The first number that no signal has. -/
def bound : Nat := 65

def hangup : Nat := 1

def interrupt : Nat := 2

def quit : Nat := 3

def arithmetic : Nat := 8

def kill : Nat := 9

def pipe : Nat := 13

def alarm : Nat := 14

def terminate : Nat := 15

def child : Nat := 17

def goOn : Nat := 18

/-- Stops a process from its terminal. -/
def suspend : Nat := 20

/-- The number of no process that a signal could be sent to. -/
def nobody : Nat := 1

/-- The first of the signals that have no names of their own, and the last. -/
def lowest : Nat := 34

def highest : Nat := 64

/-- The number of a name, in capitals or not, or of a numeral. -/
def ofText? (a : Raw) : Option Nat :=
  match Numeral.natural? a with
  | some n => if n < bound then some n else none
  | none =>
    let name := a.map Char.toUpper
    let text := String.ofList name
    let near := fun (p : Nat → Nat) (n : Nat) =>
      if lowest ≤ p n && p n ≤ highest then some (p n) else none
    if text = "EXIT" then some 0
    else if text = "STKFLT" then none
    else if "RTMIN+".toList.isPrefixOf name then
      (Numeral.natural? (name.drop 6)).bind (near (lowest + ·))
    else if "RTMAX-".toList.isPrefixOf name then
      (Numeral.natural? (name.drop 6)).bind (near (highest - ·))
    else (names.find? (·.2 = text)).map Prod.fst

def toText (n : Nat) : Raw :=
  if n = 0 then "EXIT".toList
  else match names.lookup n with
    | some name => if name = "STKFLT" then Numeral.natText 10 n else name.toList
    | none =>
      if lowest < n && n < 50 then "RTMIN+".toList ++ Numeral.natText 10 (n - lowest)
      else if 49 < n && n < highest then "RTMAX-".toList ++ Numeral.natText 10 (highest - n)
      else Numeral.natText 10 n

/-- What is told of a process that a signal ended. -/
def descriptions : List (Nat × String) := [
  (1, "Hangup"), (2, "Interrupt"), (3, "Quit"), (4, "Illegal instruction"),
  (5, "Trace/breakpoint trap"), (6, "Aborted"), (7, "Bus error"), (8, "Floating point exception"),
  (9, "Killed"), (10, "User defined signal 1"), (11, "Segmentation fault"),
  (12, "User defined signal 2"), (13, "Broken pipe"), (14, "Alarm clock"), (15, "Terminated"),
  (16, "Stack fault"), (17, "Child exited"), (18, "Continued"), (19, "Stopped (signal)"),
  (20, "Stopped"), (21, "Stopped (tty input)"), (22, "Stopped (tty output)"),
  (23, "Urgent I/O condition"), (24, "CPU time limit exceeded"),
  (25, "File size limit exceeded"), (26, "Virtual timer expired"),
  (27, "Profiling timer expired"), (28, "Window changed"), (29, "I/O possible"),
  (30, "Power failure"), (31, "Bad system call")]

def description (n : Nat) : Raw :=
  match descriptions.lookup n with
  | some text => text.toList
  | none =>
    if lowest ≤ n && n ≤ highest then
      "Real-time signal ".toList ++ Numeral.natText 10 (n - lowest)
    else "Unknown signal ".toList ++ Numeral.natText 10 n

/-- What a signal does to a process that neither ignores nor handles it. -/
inductive Effect where
  | nothing
  | stops
  | ends
deriving DecidableEq, Repr

def effect (n : Nat) : Effect :=
  if n = 0 || n = 17 || n = 18 || n = 23 || n = 28 then .nothing
  else if 19 ≤ n && n ≤ 22 then .stops
  else .ends

/-- Whether a process cannot do anything about it. -/
def isFinal (n : Nat) : Bool := n = 9 || n = 19

end ServiceStack.Signal
