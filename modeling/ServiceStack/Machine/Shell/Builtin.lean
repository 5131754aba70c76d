import ServiceStack.Machine.Shell.Handling
import ServiceStack.Machine.Shell.Intake
import ServiceStack.Machine.Shell.Naming
import ServiceStack.Machine.Shell.Pattern
import ServiceStack.Machine.Shell.Place
import ServiceStack.Machine.Tool.Condition
import ServiceStack.Machine.Tool.Escape
import ServiceStack.Machine.Tool.Printf

/-!
The commands that the shell runs itself, but for those that run other commands. Each answers with
its status, or leaves what the shell is doing.
-/

namespace ServiceStack.Shell

/-! ### Leaving -/

def exit (args : List Raw) : Sh Nat := do
  match args with
  | [] => pure ()
  | a :: _ =>
    let n ← count a
    modify fun s => { s with saved := some n }
  modify fun s => { s with saved := some (s.saved.getD s.status) }
  throw .exit

def ret (args : List Raw) : Sh Nat := do
  match args with
  | [] => throw (.returned false)
  | a :: _ =>
    setStatus (← count a)
    throw (.returned true)

def leaveLoops (flow : Nat → Flow) (args : List Raw) : Sh Nat := do
  let n ← match args with
    | [] => pure 1
    | a :: _ => count a
  if n = 0 then illegalNumber (args.headD [])
  let loops := (← get).loops
  if loops ≠ 0 then
    setStatus 0
    throw (flow (min n loops))
  return 0

/-! ### Reading -/

/-- Reads a line: whether it ended, and its characters, those behind a backslash as quoted. -/
def readLine (raw : Bool) : Nat → Bool → List Glyph → Sh (Bool × List Glyph)
  | 0, _, gs => return (false, gs.reverse)
  | n + 1, hidden, gs => do
    match ← ask (.read 0 1) with
    | .ok ('\x00' :: _) => readLine raw n hidden gs
    | .ok (c :: _) =>
      if hidden then readLine raw n false (if c = '\n' then gs else (c, true) :: gs)
      else if c = '\\' && !raw then readLine raw n true gs
      else if c = '\n' then return (true, gs.reverse)
      else readLine raw n false ((c, false) :: gs)
    | .error .EINTR =>
      notice
      if (← get).pending.isSome then return (false, gs.reverse) else readLine raw n hidden gs
    | _ => return (false, gs.reverse)

def read (args : List Raw) : Sh Nat := do
  let (os, names) ← takeOptions "r" "p" args
  if names = [] then giveUp "arg count".toList
  let r ← readLine (os.any (·.1 = 'r')) Act.patience false []
  for (x, v) in fieldsFor (separators (← get)) names r.2 do
    assignNamed x v
  return if r.1 then 0 else 1

/-! ### Writing and testing -/

def echo (args : List Raw) : Sh Nat := say (Echo.shell args) 0

/-- Complaints come before the text. -/
def printf (args : List Raw) : Sh Nat := do
  match Printf.operands? args with
  | none => giveUp "usage: printf format [arg ...]".toList
  | some (format, args) =>
    let r := Printf.run Printf.shell format args
    for (n, text) in r.writes do
      if n = 2 then complain text.dropLast
    say (r.writes.flatMap fun w => if w.1 = 1 then w.2 else []) r.code

/-- A condition, which under one of its names ends with a bracket. -/
def test (bracket : Bool) (args : List Raw) : Sh Nat := do
  if bracket && args.getLast? ≠ some [']'] then
    giveUp Condition.Fault.missingBracket.shellText
  let words := if bracket then args.dropLast else args
  match Condition.test (← act Act.look) false words with
  | .ok b => return if b then 0 else 1
  | .error f => giveUp f.shellText

/-- Limits of the system, of which none but one is there before it is set. -/
def limits (args : List Raw) : Sh Nat := do
  let (os, rest) ← takeOptions "HSatfdscmlpnvwr" "" args
  let letters := (os.map Prod.fst).filter fun c => c ≠ 'H' && c ≠ 'S'
  let isAll := letters.contains 'a'
  let letter := (letters.filter (· ≠ 'a')).getLast?.getD 'f'
  match rest with
  | a :: more =>
    if isAll || more ≠ [] then giveUp "too many arguments".toList
    if a ≠ "unlimited".toList && !a.all Char.isDigit then giveUp "bad number".toList
    let value := if a = "unlimited".toList then a else Numeral.natText 10 (Numeral.ofDigits 10 a)
    modify fun s => { s with limits := (letter, value) :: s.limits }
    return 0
  | [] =>
    if isAll then return 0
    let usual := if letter = 's' then "8192" else "unlimited"
    say (((← get).limits.lookup letter).getD usual.toList ++ ['\n']) 0

/-! ### All of them -/

/-- The builtins that run no other commands. -/
def builtin (name : Raw) (args : List Raw) : Sh Nat := do
  match String.ofList name with
  | "false" => return 1
  | "exit" => exit args
  | "return" => ret args
  | "break" => leaveLoops .broken args
  | "continue" => leaveLoops .continued args
  | "export" => markExported args
  | "readonly" => markLocked args
  | "local" => makeOwn args
  | "unset" => unsetNames args
  | "set" => setAll args
  | "shift" => shift args
  | "getopts" => seekOption args
  | "trap" => trap args
  | "kill" => kill args
  | "wait" => wait args
  | "jobs" => jobs args
  | "fg" | "bg" => bring args
  | "cd" | "chdir" => cd args
  | "pwd" => pwd args
  | "umask" => umask args
  | "type" => type args
  | "command" => describeCommand args
  | "alias" => doAlias args
  | "unalias" => unalias args
  | "hash" => hash args
  | "read" => read args
  | "echo" => echo args
  | "printf" => printf args
  | "test" => test false args
  | "[" => test true args
  | "times" => say "0m0.000000s 0m0.000000s\n0m0.000000s 0m0.000000s\n".toList 0
  | "ulimit" => limits args
  | _ => return 0

end ServiceStack.Shell
