import ServiceStack.Host
import ServiceStack.Machine.Kernel.Schedule
import ServiceStack.Machine.Perform

/-!
A host that models an operating system. A child runs until it ends by itself or is killed; then it
stays as a zombie until it is waited for. The kill signal can be sent until then, and finds no
process afterwards. Process numbers are not used again, and a process keeps its number.
-/

namespace ServiceStack

/-- Where a child stands. -/
inductive Status where
  | running
  | zombie (ending : Ending)
  | reaped
deriving DecidableEq, Repr

structure Child where
  pid : Nat
  start : Start
  program : Octets
  args : List Octets
  status : Status := .running
  written : Octets := []
deriving DecidableEq, Repr

namespace Child

/-- The child ends by itself, unless it has ended. -/
def finish (job : Child → Job) (c : Child) : Child :=
  match c.status with
  | .running =>
    let j := job c
    { c with status := .zombie j.ending, written := Raw.toOctets j.output }
  | _ => c

/-- The child is killed, unless it has ended. -/
def kill (c : Child) : Child :=
  match c.status with
  | .running => { c with status := .zombie (.signal 9) }
  | _ => c

end Child

structure Machine where
  disk : Disk
  searchPath : List Octets
  /-- the children in the order in which they were started -/
  children : List Child := []

namespace Machine

/-- The number of the next child. No number is given twice. -/
def nextPid (m : Machine) : Nat := 1000 + m.children.length

def child? (m : Machine) (pid : Nat) : Option Child := m.children.find? (·.pid = pid)

/-- A change of one child. -/
def modify (m : Machine) (pid : Nat) (f : Child → Child) : Machine :=
  { m with children := m.children.map fun c => if c.pid = pid then f c else c }

/-- A name or an argument with a NUL byte cannot be handed over. -/
def nulFault : IoFault := .fixed .invalidInput "nul byte found in provided data"

def holdsNul (i : Invocation) : Bool := (i.program :: i.args).any (·.contains 0)

/-- How the program of an invocation is started. -/
def start (m : Machine) (i : Invocation) : Except IoFault Start :=
  if holdsNul i then .error nulFault
  else match m.disk.find m.disk.home m.searchPath i.program with
    | .error e => .error (.os e.code)
    | .ok s =>
      if Start.isTooMuch (i.args.map List.length) then .error (.os Errno.E2BIG.code)
      else .ok s

def spawn (i : Invocation) (m : Machine) : Except Failure Process × Machine :=
  match m.start i with
  | .error f => (.error (.ofSpawn i.service f), m)
  | .ok s =>
    (.ok ⟨m.nextPid, i.service⟩,
      { m with children := m.children ++ [⟨m.nextPid, s, i.program, i.args, .running, []⟩] })

/-- The kill signal for a child of some number. -/
def kill (pid : Nat) (m : Machine) : Except Errno Unit × Machine :=
  match m.child? pid with
  | none => (.error .ESRCH, m)
  | some c =>
    if c.status = .reaped then (.error .ESRCH, m) else (.ok (), m.modify pid Child.kill)

/-- A process that no longer exists needs no signal. There always is a number to send the signal to:
a handle gives its number up only when its child is waited for through the handle, and whoever waits
here does so by number. -/
def terminate (p : Process) (m : Machine) : Stopping Machine :=
  let r := m.kill p.key
  match r.1 with
  | .ok () => ⟨.ok (), [], r.2⟩
  | .error .ESRCH => ⟨.ok (), [.gone p.name p.key], r.2⟩
  | .error e => ⟨.error (.ofErrno e), [], r.2⟩

def host : Host Machine := ⟨spawn, fun p _ => some p.key, terminate⟩

/-- What every child finds in its environment. -/
def environment (m : Machine) : List (Raw × Raw) := [
  ("PATH".toList, [':'].intercalate (m.searchPath.map Raw.ofOctets)),
  ("HOME".toList, "/root".toList)]

/-- What comes of a child that is left alone. -/
def job (m : Machine) (c : Child) : Job :=
  Kernel.job m.disk c.pid (c.start.tool.course {
    program := c.start.name.getD (Raw.ofOctets c.program)
    args := c.start.front ++ c.args.map Raw.ofOctets
    environment := m.environment })

/-- The child of some number ends by itself. -/
def finish (pid : Nat) (m : Machine) : Machine := m.modify pid (Child.finish m.job)

/-- Waits for a child and takes its ending. -/
def reap (pid : Nat) (m : Machine) : Except Errno Ending × Machine :=
  let m := m.finish pid
  match (m.child? pid).map Child.status with
  | some (.zombie e) => (.ok e, m.modify pid fun c => { c with status := .reaped })
  | _ => (.error .ECHILD, m)

def reapEach : List Nat → Machine → List (Except Errno Ending) × Machine
  | [], m => ([], m)
  | pid :: pids, m =>
    let first := m.reap pid
    let rest := reapEach pids first.2
    (first.1 :: rest.1, rest.2)

/-- Whether no child is left running. -/
def allGone (m : Machine) : Bool := m.children.all (·.status ≠ .running)

/-- A common machine. -/
def common : Machine := ⟨.common, Disk.commonPath, []⟩

/-- A machine whose search path leads to a directory with one file of some rights, `cargo`, or to an
empty one. -/
def withCargo (cargo : Option (Content × Nat)) : Machine :=
  let files := cargo.toList.map fun c => ("/stack/cargo", c)
  ⟨.ofList (("/stack", .directory Disk.root [], Disk.runRights) :: files),
    [Utf8.encode "/stack"], []⟩

end Machine

end ServiceStack
