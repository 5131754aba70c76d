import ServiceStack.Machine.Shell.Batch
import ServiceStack.Machine.Shell.Setting

/-!
Builtins for signals and for the processes of a shell: the actions on signals, sending them, and
the batches that run in the background.
-/

namespace ServiceStack.Shell

/-! ### Actions on signals -/

/-- What the system is told to do about a signal. Interrupts are always caught by the shell that was
started, and so is the end of a child; what was ignored from the start stays so. -/
def arm (n : Nat) : Sh Unit := do
  if !(← get).examined.contains n then
    let isIgnored := (← act (Act.action n none)) = .ignore && n ≠ Signal.child
    modify fun s => { s with
      examined := n :: s.examined, deaf := if isIgnored then n :: s.deaf else s.deaf }
  let s ← get
  if n ≠ 0 && !s.deaf.contains n then
    let action := match s.traps.lookup n with
      | some [] => if n = Signal.child then Action.catch else .ignore
      | some _ => .catch
      | none =>
        if n = Signal.child || n = Signal.interrupt && s.isRoot then .catch else .default
    let _ ← ask (.action n (some action))

/-- A signal by its number. -/
def signalNumber? (a : Raw) : Option Nat := (Numeral.natural? a).filter (· < Signal.bound)

/-- A signal by its number or its name; the end is no signal that could be sent. -/
def signalOf? (sent : Bool) (a : Raw) : Option Nat :=
  match signalNumber? a with
  | some n => some n
  | none => (Signal.ofText? a).filter fun n => !sent || n ≠ 0

def setTraps (action : Option Raw) : List Raw → Sh Nat
  | [] => return 0
  | a :: rest => do
    match signalOf? false a with
    | none =>
      let _ ← put 2 ("trap: ".toList ++ a ++ ": bad trap\n".toList)
      return 1
    | some n =>
      modify fun s => { s with
        traps := s.traps.filter (·.1 ≠ n) ++ (action.map (n, ·)).toList }
      arm n
      setTraps action rest

def trap (args : List Raw) : Sh Nat := do
  let line := fun (t : Nat × Raw) =>
    "trap -- ".toList ++ quote t.2 ++ [' '] ++ Signal.toText t.1 ++ ['\n']
  match ← operands args with
  | [] => say (((← get).traps.mergeSort (·.1 ≤ ·.1)).flatMap line) 0
  | [a] => setTraps none [a]
  | action :: signals =>
    if (signalNumber? action).isSome then setTraps none (action :: signals)
    else setTraps (if action = ['-'] then none else some action) signals

/-! ### Batches -/

/-- The batch that a name with a percent sign means, the last one if there is no name. None is under
the control of a terminal. -/
def batchOf (controlled : Bool) (name : Option Raw) : Sh Batch := do
  let bs := (← get).batches
  let named := name.getD "(null)".toList
  let (found, complaint) := match name with
    | none | some ['%'] | some ['%', '+'] | some ['%', '%'] => (bs.head?, "No current job".toList)
    | some ['%', '-'] => (bs[1]?, "No previous job".toList)
    | some ('%' :: n) =>
      ((Numeral.natural? n).bind fun n => bs.find? (·.slot = n), "No such job: ".toList ++ named)
    | _ => (none, "No such job: ".toList ++ named)
  match found with
  | none => giveUp complaint
  | some b =>
    if controlled then giveUp ("job ".toList ++ named ++ " not created under job control".toList)
    return b

/-- How a batch is told: by the first process, by all processes, or in short. -/
inductive Telling where
  | group
  | long
  | short
deriving DecidableEq, Repr

def Batch.condition (b : Batch) : Raw :=
  if !b.isDone then "Running".toList
  else match b.members.getLast?.bind Member.ending with
    | some (.exit 0) | none => "Done".toList
    | some (.exit n) => "Done(".toList ++ Numeral.natText 10 n ++ [')']
    | some (.signal n) => Signal.description n

/-- What is told of a batch. One that is done is forgotten then. -/
def tell (t : Telling) (b : Batch) : Sh Unit := do
  let bs := (← get).batches
  let pids := b.members.map fun m => Numeral.natText 10 m.pid
  if t = .group then
    let _ ← put 1 (pids.headD [] ++ ['\n'])
  else
    let sign := if bs.head? = some b then '+' else if bs[1]? = some b then '-' else ' '
    let front := ['['] ++ Numeral.natText 10 b.slot ++ [']', ' ', sign, ' ']
    let pad := fun (text : Raw) => text ++ List.replicate (max 1 (33 - text.length)) ' '
    match t with
    | .long =>
      let first := pad (front ++ pids.headD [] ++ [' '] ++ b.condition)
      let others := pids.tail.map fun pid =>
        " |\n".toList ++ pad (List.replicate front.length ' ' ++ pid ++ [' '])
      let _ ← put 1 (first ++ others.flatten ++ ['\n'])
    | _ =>
      let _ ← put 1 (pad (front ++ b.condition) ++ (pids.tail.flatMap fun _ => " | ".toList) ++
        ['\n'])
    if b.isDone then dropBatch b.slot

def jobs (args : List Raw) : Sh Nat := do
  let (os, names) ← takeOptions "lp" "" args
  let t := match os.getLast? with
    | some ('l', _) => Telling.long
    | some _ => .group
    | none => .short
  if names = [] then
    let _ ← await .never none
    for b in (← get).batches do
      tell t b
  else
    for name in names do
      tell t (← batchOf false (some name))
  return 0

/-- No batch can be brought to the front, or let go on, without a terminal. -/
def bring (args : List Raw) : Sh Nat := do
  let _ ← batchOf true (← operands args).head?
  return 0

/-! ### Waiting -/

/-- Waits till nothing runs, and tells whether no signal came. -/
def waitAll : Nat → Sh Bool
  | 0 => return true
  | n + 1 => do
    modify fun s =>
      let late := s.batches.dropWhile Batch.isDone
      let done := s.batches.take (s.batches.length - late.length)
      { s with batches := done.map (fun b => { b with waited := true }) ++ late }
    if (← get).batches.all Batch.isDone then return true
    else if ← await .child none then waitAll n
    else return false

/-- The status with which waiting is left for a signal. -/
def cutShort : Sh Nat := return 128 + ((← get).pending.getD 0)

def waitEach (code : Nat) : List Raw → Sh Nat
  | [] => return code
  | a :: rest => do
    let found ← if a.head? = some '%' then some <$> batchOf false (some a) else do
      let pid ← count a
      pure ((← get).batches.find? fun b => (b.members.getLast?.map Member.pid) = some pid)
    match found with
    | none => waitEach code rest
    | some b =>
      if ← await .signal (some b.slot) then
        updateBatch b.slot fun b => { b with waited := true }
        waitEach (((batch? b.slot (← get)).map Batch.status).getD 0) rest
      else cutShort

def wait (args : List Raw) : Sh Nat := do
  match ← operands args with
  | [] => if ← waitAll Act.patience then return 0 else cutShort
  | names => waitEach 127 names

/-! ### Sending signals -/

/-- The list of all signals. -/
def signalList : Raw :=
  (List.range Signal.bound).flatMap fun n =>
    (if n = 0 then ['0'] else Signal.toText n) ++ ['\n']

def killUsage {α : Type} : Sh α := giveUp
  "Usage: kill [-s sigspec | -signum | -sigspec] [pid | job]... or\nkill -l [exitstatus]".toList

/-- Sends a signal to each target: a process, a group below zero, or a batch. -/
def send (n : Nat) : List Raw → Sh Nat
  | [] => return 0
  | a :: rest => do
    let target : Int ← match a with
      | '%' :: _ => do
        let b ← batchOf false (some a)
        pure (-(((b.members.head?.map Member.pid).getD 0 : Nat) : Int))
      | '-' :: digits => do pure (-((← count digits : Nat) : Int))
      | _ => do pure ((← count a : Nat) : Int)
    let code ← match ← ask (.kill target n) with
      | .ok () => pure 0
      | .error e => do
        complain (e.text.toList ++ ['\n'])
        pure 1
    return max code (← send n rest)

def kill (args : List Raw) : Sh Nat := do
  let named := match args with
    | ('-' :: a) :: _ => signalOf? true a
    | _ => none
  match args, named with
  | [], _ => killUsage
  | _ :: rest, some n => if rest = [] then killUsage else send n rest
  | _, none =>
    let (os, rest) ← takeOptions "l" "s" args
    let mut sent : Option Nat := none
    for (c, v) in os do
      if c = 's' then
        match signalOf? true v with
        | some n => sent := some n
        | none => giveUp ("invalid signal number or name: ".toList ++ v)
    if os.any (·.1 = 'l') then
      match sent, rest with
      | some _, _ :: _ => killUsage
      | _, [] => say signalList 0
      | _, a :: _ =>
        let n ← count a
        let n := if 128 < n then n - 128 else n
        if 0 < n && n < Signal.bound then say (Signal.toText n ++ ['\n']) 0
        else giveUp ("invalid signal number or exit status: ".toList ++ a)
    else if rest = [] then killUsage
    else send (sent.getD Signal.terminate) rest

end ServiceStack.Shell
