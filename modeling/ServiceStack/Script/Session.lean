import ServiceStack.Group.Info
import ServiceStack.Script.Stage

/-!
A session with one group at a time on a scripted host. A launch that succeeds takes the place of
the current group, which is let go without a request to stop; one that fails leaves it in place.
-/

namespace ServiceStack

structure Session where
  stage : Stage
  group : Option Group := none

namespace Session

inductive Step where
  | launch (invocations : List Invocation)
  | info
  | terminateAll
  | drop
  | setId (call : Nat) (id : Option Nat)

inductive Reply where
  | done
  | noGroup
  | info (i : Group.Info)
  | failed (e : Failure)

/-- What a step gives and the session after it. -/
structure Answer where
  reply : Reply
  trace : Trace
  session : Session

def step (s : Session) : Step → Answer
  | .launch is =>
    let launched := Group.launch Stage.host is s.stage
    match launched.value with
    | .ok g => ⟨.done, launched.trace, ⟨launched.host, some g⟩⟩
    | .error e => ⟨.failed e, launched.trace, ⟨launched.host, s.group⟩⟩
  | .info =>
    match s.group with
    | some g => ⟨.info (g.info Stage.host s.stage), [], s⟩
    | none => ⟨.noGroup, [], s⟩
  | .terminateAll =>
    match s.group with
    | some g =>
      let swept := g.terminateAll Stage.host s.stage
      ⟨.done, swept.trace, ⟨swept.host, none⟩⟩
    | none => ⟨.noGroup, [], s⟩
  | .drop => ⟨.done, [], { s with group := none }⟩
  | .setId call id => ⟨.done, [], { s with stage := s.stage.setId call id }⟩

/-- The answers to some steps, one after the other. -/
def play (s : Session) : List Step → List Answer
  | [] => []
  | st :: sts =>
    let a := s.step st
    a :: a.session.play sts

/-- The session after some steps. -/
def last (s : Session) : List Step → Session
  | [] => s
  | st :: sts => (s.step st).session.last sts

end Session

end ServiceStack
