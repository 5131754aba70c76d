import ServiceStack.Host

/-!
The processes of a run, in launch order. A launch starts all of its invocations or leaves none
running: at the first failure the processes started so far are swept and the failure is returned.
A sweep asks each process to stop, once and in launch order, and goes on after a failure. It
consumes the group.
-/

namespace ServiceStack

structure Group where
  members : List Process
deriving DecidableEq, Repr

namespace Group

def size (g : Group) : Nat := g.members.length

def isEmpty (g : Group) : Bool := g.members.isEmpty

def names (g : Group) : List String := g.members.map Process.name

variable {σ : Type} (h : Host σ)

/-- The number of each member, as the host tells it now. -/
def ids (g : Group) (s : σ) : List (Option Nat) := g.members.map fun p => h.id p s

/-- What the log tells of a request to stop that failed. -/
def warning (name : String) : Except Failure Unit → List Line
  | .ok () => []
  | .error e => [.killFailed name e]

/-- The request to stop one process. -/
def kill (p : Process) (s : σ) : Outcome σ Unit :=
  let r := h.terminate p s
  ⟨(), r.host, .line (.killing p.name (h.id p s)) :: .event (.killed p) ::
    Trace.ofLines (r.lines ++ warning p.name r.result)⟩

def killEach : List Process → σ → Outcome σ Unit
  | [], s => ⟨(), s, []⟩
  | p :: ps, s =>
    let first := kill h p s
    (killEach ps first.host).after first.trace

/-- One request to stop for every member. -/
def terminateAll (g : Group) (s : σ) : Outcome σ Unit :=
  (killEach h g.members s).after [.line (.terminating g.size)]

/-- Starts the invocations one after the other, behind the processes started already. -/
def launchOnto (started : List Process) : List Invocation → σ → Outcome σ (Except Failure Group)
  | [], s => ⟨.ok ⟨started⟩, s, []⟩
  | i :: is, s =>
    match h.spawn i s with
    | (.ok p, s) =>
      (launchOnto (started ++ [p]) is s).after
        [.line (.starting i), .event (.spawned i p), .line (.started p.name (h.id p s))]
    | (.error e, s) =>
      let swept := terminateAll h ⟨started⟩ s
      ⟨.error e, swept.host,
        [.line (.starting i), .event (.refused i), .line (.startFailed i.service e)] ++
          swept.trace⟩

def launch (is : List Invocation) (s : σ) : Outcome σ (Except Failure Group) :=
  launchOnto h [] is s

@[simp] theorem killEach_nil (s : σ) : killEach h [] s = ⟨(), s, []⟩ := rfl

@[simp] theorem killEach_cons (p : Process) (ps : List Process) (s : σ) :
    killEach h (p :: ps) s =
      (killEach h ps (kill h p s).host).after (kill h p s).trace := rfl

/-- A request is one event, whatever comes of it. -/
@[simp] theorem events_kill (p : Process) (s : σ) :
    (kill h p s).trace.events = [.killed p] := by
  simp [kill]

/-- A sweep asks every process to stop, once and in order. -/
@[simp] theorem events_killEach (ps : List Process) (s : σ) :
    (killEach h ps s).trace.events = ps.map .killed := by
  induction ps generalizing s with
  | nil => rfl
  | cons p ps ih => simp [ih]

@[simp] theorem events_terminateAll (g : Group) (s : σ) :
    (g.terminateAll h s).trace.events = g.members.map .killed := by
  simp [terminateAll]

end Group

end ServiceStack
