import ServiceStack.Machine.Kernel.Answer

/-!
The order in which processes go on. Every request takes some time, and whoever comes first to its
next request, and need not wait, goes on. A machine comes to rest when the first process has ended
and nobody can write to its output any more, or when all wait for each other.
-/

namespace ServiceStack

/-- What a process does when it is left alone: what it writes, together with those that it leaves
behind, and how it ends. -/
structure Job where
  output : Raw
  ending : Ending

namespace Kernel

/-! ### Time -/

def microsecond : Nat := 1000

/-- How long a request takes. -/
def cost : Request → Nat
  | .write _ _ | .read _ _ | .open _ _ => 3 * microsecond
  | .pipe => 3 * microsecond
  | .replace => 600 * microsecond
  | _ => microsecond

/-- How long it takes to start a process, and until that goes on. -/
def forkCost : Nat := 100 * microsecond

def forkDelay : Nat := 400 * microsecond

/-- A process that never waits takes more and more time from some request on. -/
def busyLimit : Nat := 200000

def busyCost (n : Nat) : Nat := (n - busyLimit) * microsecond

/-! ### Steps -/

/-- Something that comes next: a process goes on, or is called by its alarm. -/
inductive Turn where
  | task (t : Task)
  | alarm (t : Task)

/-- When a process can go on, if it need not wait for others. -/
def ready? (k : Kernel) (t : Task) : Option Nat :=
  match t.doom with
  | some (time, _) => if t.isAlive then some time else none
  | none =>
    if !t.isAlive || t.stopped then none
    else match t.course with
      | .ask (.rest till) _ => some (if t.broken then t.clock else max t.clock till)
      | .ask r _ => if t.broken || !k.isBlocked t r then some t.clock else none
      | _ => some t.clock

/-- The earlier of two turns, the first of equal ones. -/
def earlier : Option (Nat × Turn) → Option (Nat × Turn) → Option (Nat × Turn)
  | none, b => b
  | a, none => a
  | some a, some b => if b.1 < a.1 then some b else some a

/-- The next turn and its time. -/
def turn? (k : Kernel) : Option (Nat × Turn) :=
  k.tasks.foldl (fun best t =>
    let best := match t.alarm with
      | some time => if t.isAlive then earlier best (some (max time k.now, .alarm t)) else best
      | none => best
    earlier best ((k.ready? t).map fun time => (max time k.now, .task t))) none

/-- A process does what comes next on its course. -/
def advance (k : Kernel) (t : Task) : Kernel :=
  match t.course with
  | .exit code => k.finish t (.exit (code % 256))
  | .fork child next =>
    let pid := k.lastPid + 1
    let born : Task := { t with
      pid := pid, parent := t.pid, course := child, clock := k.now + forkDelay, caught := []
      broken := false, held := [], alarm := none, busy := 0 }
    let k := { k with lastPid := pid }.update t.pid fun t => { t with
      course := next pid, clock := k.now + forkCost, busy := t.busy + 1 }
    { k with tasks := k.tasks ++ [born] }
  | .ask r next =>
    let blocked := k.isBlocked t r
    let waited := t.clock < k.now
    let a := if t.broken && blocked then (.error .EINTR, k) else k.answer t r
    match a.2.task? t.pid with
    | none => a.2
    | some u =>
      if !u.isAlive then a.2
      else
        let busy := if waited then 0 else t.busy + 1
        let course := next a.1
        a.2.update t.pid fun u => { u with
          course := course, clock := k.now + cost r + busyCost busy, broken := false
          busy := busy }

def step (k : Kernel) (time : Nat) : Turn → Kernel
  | .task t =>
    let k := { k with now := time }
    match t.doom with
    | some (_, n) => k.finish t (.signal n)
    | none => k.advance t
  | .alarm t =>
    ({ k with now := time }.update t.pid fun t => { t with alarm := none }).signal
      Signal.alarm t.pid

/-- How the first process ended. -/
def ending? (k : Kernel) : Option Ending := (k.task? k.top).bind Task.ending

/-- Whether nothing more can come of it. -/
def isDone (k : Kernel) : Bool :=
  k.ending?.isSome && !k.isHeld fun o => o.target = .output && o.writes

/-- The state after so many steps, or when nothing more comes. -/
def run : Nat → Kernel → Kernel
  | 0, k => k
  | n + 1, k =>
    if k.isDone then k
    else match k.turn? with
      | none => k
      | some (time, turn) => run n (k.step time turn)

/-- More steps than anybody waits for. -/
def stepLimit : Nat := 4000000

/-! ### Jobs -/

/-- A machine with one process, whose input is empty. -/
def start (disk : Disk) (pid : Nat) (course : Course) : Kernel where
  tasks := [{
    pid := pid, parent := Signal.nobody, group := Signal.nobody, session := Signal.nobody
    course := course, place := disk.home
    streams := [(0, { opened := 1 }), (1, { opened := 2 }), (2, { opened := 3 })] }]
  opened := [
    (1, { target := .inode Disk.nullDevice, reads := true, writes := false }),
    (2, { target := .output, reads := false, writes := true }),
    (3, { target := .errors, reads := false, writes := true })]
  disk := disk
  top := pid
  lastPid := pid
  lastOpened := 3

/-- What comes of a process. One that never ends is taken as killed. -/
def job (disk : Disk) (pid : Nat) (course : Course) : Job :=
  let k := run stepLimit (start disk pid course)
  ⟨k.written.reverse.flatten, k.ending?.getD (.signal Signal.kill)⟩

end Kernel

end ServiceStack
