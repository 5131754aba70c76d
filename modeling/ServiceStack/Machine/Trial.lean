import ServiceStack.Machine.Basic
import ServiceStack.Supervisor.Basic

/-!
Trials on a machine: one process that is asked to stop and waited for in some order, a group of
which some members are waited for before the sweep, a supervisor whose children may all be gone.
-/

namespace ServiceStack.Machine

/-! ### One process -/

inductive Step where
  | hasId
  | name
  | terminate
  | reap
deriving DecidableEq, Repr

inductive Reply where
  | truth (b : Bool)
  | text (s : String)
  | done
  | failed (e : Failure)
  | ended (e : Ending)
  | refused (e : Errno)
deriving DecidableEq, Repr

structure Answer where
  reply : Reply
  lines : List Line
  machine : Machine

def step (p : Process) (m : Machine) : Step → Answer
  | .hasId => ⟨.truth (host.id p m).isSome, [], m⟩
  | .name => ⟨.text p.name, [], m⟩
  | .terminate =>
    let r := m.terminate p
    match r.result with
    | .ok () => ⟨.done, r.lines, r.host⟩
    | .error e => ⟨.failed e, r.lines, r.host⟩
  | .reap =>
    let r := m.reap p.key
    match r.1 with
    | .ok e => ⟨.ended e, [], r.2⟩
    | .error e => ⟨.refused e, [], r.2⟩

/-- The answers to some steps, and the machine after them. -/
def play (p : Process) (m : Machine) : List Step → List Answer × Machine
  | [] => ([], m)
  | s :: ss =>
    let a := m.step p s
    let rest := a.machine.play p ss
    (a :: rest.1, rest.2)

/-- What a process has written so far. -/
def written (p : Process) (m : Machine) : Octets :=
  ((m.child? p.key).map Child.written).getD []

/-! ### Groups and supervisors -/

/-- A group that was launched, what the children waited for gave, and the sweep. -/
structure Sweeping where
  group : Group
  info : Group.Info
  reaped : List (Except Errno Ending)
  trace : Trace

/-- Launches a group, waits for the members at some places, sweeps. -/
def tryGroup (is : List Invocation) (first : List Nat) (m : Machine) :
    Outcome Machine (Except Failure Sweeping) :=
  let launched := Group.launch host is m
  match launched.value with
  | .error e => ⟨.error e, launched.host, launched.trace⟩
  | .ok g =>
    let waited := reapEach (first.filterMap fun i => (g.members[i]?).map Process.key)
      launched.host
    let swept := g.terminateAll host waited.2
    ⟨.ok ⟨g, g.info host launched.host, waited.1, swept.trace⟩, swept.host, launched.trace⟩

/-- A supervisor that was started, what its children gave, and its last phase. -/
structure Shutdown where
  info : Group.Info
  reaped : List (Except Errno Ending)
  final : Option Phase

/-- Starts a supervisor, waits for all children if asked, runs it. -/
def trySupervisor (settings : Settings) (reapFirst : Bool) (wakes : List Wake) (m : Machine) :
    Outcome Machine (Except Failure Shutdown) :=
  let started := Supervisor.start host settings m
  match started.value with
  | .error e => ⟨.error e, started.host, started.trace⟩
  | .ok sup =>
    let waited := reapEach (if reapFirst then sup.group.members.map Process.key else [])
      started.host
    let run := sup.run host wakes waited.2
    ⟨.ok ⟨sup.group.info host started.host, waited.1, run.value⟩, run.host,
      started.trace ++ run.trace⟩

end ServiceStack.Machine
