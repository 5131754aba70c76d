import ServiceStack.Machine.Course
import ServiceStack.Machine.Signal

/-!
The processes of a machine at one time: what each does next and when it can, its streams, what it
does about signals, and what stands in the pipes between them. A process that has ended stays until
its parent takes its ending.
-/

namespace ServiceStack

/-- A stream of a process: the opened file that it leads to, and whether it is closed for a new
program. -/
structure Stream where
  opened : Nat
  own : Bool := false
deriving DecidableEq, Repr

/-- An opened file. Streams that were copied share it, and with it the place of reading. -/
structure Opened where
  target : Target
  reads : Bool
  writes : Bool
  appends : Bool := false
  offset : Nat := 0
deriving DecidableEq, Repr

structure Task where
  pid : Nat
  parent : Nat
  group : Nat
  session : Nat
  course : Course
  /-- when it comes to its next request -/
  clock : Nat := 0
  ending : Option Ending := none
  /-- a signal that ends it at some time, before which it does nothing more -/
  doom : Option (Nat × Nat) := none
  stopped : Bool := false
  /-- signals that wait until it is no longer stopped -/
  held : List Nat := []
  /-- signals that it caught and has not asked for -/
  caught : List Nat := []
  /-- a caught signal came while it was waiting -/
  broken : Bool := false
  actions : List (Nat × Action) := []
  streams : List (Nat × Stream) := []
  place : Nat := Disk.root
  mask : Nat := 0o022
  nice : Int := 0
  alarm : Option Nat := none
  /-- its requests since it last had to wait -/
  busy : Nat := 0

structure Kernel where
  now : Nat := 0
  /-- the processes in the order in which they were started -/
  tasks : List Task
  opened : List (Nat × Opened) := []
  pipes : List (Nat × Raw) := []
  disk : Disk
  /-- the output of the first process, the last text first -/
  written : List Raw := []
  /-- the first process -/
  top : Nat
  lastPid : Nat
  lastOpened : Nat := 0
  lastPipe : Nat := 0

namespace Task

def action (t : Task) (n : Nat) : Action := (t.actions.lookup n).getD .default

def setAction (t : Task) (n : Nat) (a : Action) : Task :=
  { t with actions := (n, a) :: t.actions.filter (·.1 ≠ n) }

def isAlive (t : Task) : Bool := t.ending.isNone

/-- The first stream from a number on that is not taken. -/
def freeStream (t : Task) (first : Nat) : Nat :=
  let taken := t.streams.map Prod.fst
  ((List.range (taken.length + 1)).map (first + ·)).find? (!taken.contains ·) |>.getD first

end Task

namespace Kernel

def task? (k : Kernel) (pid : Nat) : Option Task := k.tasks.find? (·.pid = pid)

def update (k : Kernel) (pid : Nat) (f : Task → Task) : Kernel :=
  { k with tasks := k.tasks.map fun t => if t.pid = pid then f t else t }

def opened? (k : Kernel) (t : Task) (stream : Nat) : Option (Nat × Opened) := do
  let s ← t.streams.lookup stream
  let o ← k.opened.lookup s.opened
  return (s.opened, o)

def setOpened (k : Kernel) (n : Nat) (f : Opened → Opened) : Kernel :=
  { k with opened := k.opened.map fun o => if o.1 = n then (n, f o.2) else o }

/-- Whether some process has a stream that leads to an opened file. -/
def isHeld (k : Kernel) (p : Opened → Bool) : Bool :=
  k.tasks.any fun t => t.streams.any fun s => (k.opened.lookup s.2.opened).any p

/-- Forgets the opened files that no stream leads to any more. -/
def sweep (k : Kernel) : Kernel :=
  let used := k.tasks.flatMap fun t => t.streams.map (·.2.opened)
  { k with opened := k.opened.filter (used.contains ·.1) }

def hasReader (k : Kernel) (pipe : Nat) : Bool :=
  k.isHeld fun o => o.target = .pipe pipe && o.reads

def hasWriter (k : Kernel) (pipe : Nat) : Bool :=
  k.isHeld fun o => o.target = .pipe pipe && o.writes

def pipeText (k : Kernel) (pipe : Nat) : Raw := (k.pipes.lookup pipe).getD []

def setPipe (k : Kernel) (pipe : Nat) (text : Raw) : Kernel :=
  { k with pipes := (pipe, text) :: k.pipes.filter (·.1 ≠ pipe) }

/-- Gives a process a stream to a file that is opened for it. -/
def attach (k : Kernel) (pid stream : Nat) (o : Opened) : Kernel :=
  let n := k.lastOpened + 1
  ({ k with opened := (n, o) :: k.opened, lastOpened := n } : Kernel).update pid fun t =>
    { t with streams := (stream, { opened := n }) :: t.streams.filter (·.1 ≠ stream) }

/-! ### Ends and signals -/

/-- A child ended: its parent may hear of it, or does not want to. Who has no parent left is
forgotten. -/
def mourn (k : Kernel) (t : Task) : Kernel :=
  match k.tasks.find? fun p => p.pid = t.parent && p.isAlive with
  | none => if t.pid = k.top then k else { k with tasks := k.tasks.filter (·.pid ≠ t.pid) }
  | some p =>
    match p.action Signal.child with
    | .ignore => { k with tasks := k.tasks.filter (·.pid ≠ t.pid) }
    | .default => k
    | .catch => k.update p.pid fun p => { p with
        caught := if p.caught.contains Signal.child then p.caught
          else p.caught ++ [Signal.child]
        broken := p.broken || p.clock ≤ k.now }

/-- A process ends. Its children are no longer anybody's. -/
def finish (k : Kernel) (t : Task) (e : Ending) : Kernel :=
  let k := k.update t.pid fun t => { t with ending := some e, streams := [], alarm := none }
  let isChild := fun (c : Task) => c.parent = t.pid
  let orphan := fun (c : Task) => if isChild c then { c with parent := Signal.nobody } else c
  let left := k.tasks.filter fun c => c.isAlive || !isChild c
  (({ k with tasks := left.map orphan } : Kernel).mourn t).sweep

/-- How long it takes a process to end by a signal, in nanoseconds. -/
def deathCost : Nat := 250000

/-- A signal ends a process. -/
def condemn (k : Kernel) (n : Nat) (t : Task) : Kernel :=
  k.update t.pid fun t => { t with doom := some (k.now + deathCost, n) }

/-- A signal comes to a process that goes on or is stopped. -/
def deliver (k : Kernel) (n : Nat) (t : Task) : Kernel :=
  if n = 0 || !t.isAlive || t.doom.isSome then k
  else if n = Signal.kill then k.condemn n t
  else
    let catches := fun (t : Task) => { t with
      caught := if t.caught.contains n then t.caught else t.caught ++ [n]
      broken := t.broken || t.clock ≤ k.now }
    match t.action n with
    | .ignore => k
    | .catch => k.update t.pid catches
    | .default =>
      match Signal.effect n with
      | .nothing => k
      | .stops => k.update t.pid fun t => { t with stopped := true }
      | .ends =>
        if t.stopped then k.update t.pid fun t => { t with held := t.held ++ [n] }
        else k.condemn n t

/-- Lets a stopped process go on, and gives it what it was sent meanwhile. -/
def resume (k : Kernel) (t : Task) : Kernel :=
  if !t.stopped then k
  else
    let k := k.update t.pid fun t => { t with stopped := false, held := [] }
    t.held.foldl (fun k n => match k.task? t.pid with
      | some t => k.deliver n t
      | none => k) k

/-- Sends a signal to a process. -/
def signal (k : Kernel) (n pid : Nat) : Kernel :=
  match k.task? pid with
  | none => k
  | some t =>
    let k := if n = Signal.goOn then k.resume t else k
    match k.task? pid with
    | some t => k.deliver n t
    | none => k

/-- The processes that a target names. Nobody's process is gone as soon as it has ended. -/
def targets (k : Kernel) (t : Task) (target : Int) : List Nat :=
  let here := k.tasks.filter fun u => u.isAlive || u.parent ≠ Signal.nobody
  let all := here.filter fun u =>
    if 0 < target then (u.pid : Int) = target
    else if target = 0 then u.group = t.group
    else if target = -1 then u.pid ≠ t.pid
    else (u.group : Int) = -target
  all.map Task.pid

end Kernel

end ServiceStack
