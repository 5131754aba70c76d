import ServiceStack.Host

/-!
A host that plays a script. The script has a cue for every call to start a process, counted from
the first; it settles whether the call fails, what the process is called, which number it tells,
and whether its request to stop fails.
-/

namespace ServiceStack

structure Cue where
  failure : Option Failure := none
  id : Option Nat := none
  /-- the name of the process, by default that of its service -/
  name : Option String := none
  killFailure : Option Failure := none

abbrev Script := Nat → Cue

/-- The cues of a list, and empty ones behind them. -/
def Script.ofList (cues : List Cue) : Script := fun i => cues.getD i {}

/-- The script from some call on. -/
def Script.drop (script : Script) (n : Nat) : Script := fun i => script (n + i)

/-- A script and the number of calls so far. -/
structure Stage where
  script : Script
  calls : Nat := 0

namespace Stage

def spawn (i : Invocation) (st : Stage) : Except Failure Process × Stage :=
  let cue := st.script st.calls
  let next := { st with calls := st.calls + 1 }
  match cue.failure with
  | some e => (.error e, next)
  | none => (.ok ⟨st.calls, cue.name.getD i.service⟩, next)

def id (p : Process) (st : Stage) : Option Nat := (st.script p.key).id

def terminate (p : Process) (st : Stage) : Stopping Stage :=
  match (st.script p.key).killFailure with
  | some e => ⟨.error e, [], st⟩
  | none => ⟨.ok (), [], st⟩

def host : Host Stage := ⟨spawn, id, terminate⟩

/-- From now on the process of a call tells another number. -/
def setId (call : Nat) (id : Option Nat) (st : Stage) : Stage :=
  { st with script := fun i => if i = call then { st.script i with id := id } else st.script i }

end Stage

end ServiceStack
