import ServiceStack.Supervisor.Basic

/-!
Runs of supervisors, one after the other on one host. Each is started; if the start succeeds it is
run or let go.
-/

namespace ServiceStack

/-- The settings of a run and its wakes. Without wakes the supervisor is let go unrun. -/
structure Plan where
  settings : Settings
  wakes : Option (List Wake)

/-- How a run went: the trace of its start, and what followed if that succeeded. -/
inductive Report where
  | failed (started : Trace) (e : Failure)
  | dropped (started : Trace) (sup : Supervisor) (info : Group.Info)
  | ran (started : Trace) (sup : Supervisor) (info : Group.Info) (final : Option Phase)
      (trace : Trace)

namespace Plan

variable {σ : Type} (h : Host σ)

def play (p : Plan) (s : σ) : Report × σ :=
  let started := Supervisor.start h p.settings s
  match started.value with
  | .error e => (.failed started.trace e, started.host)
  | .ok sup =>
    let info := sup.group.info h started.host
    match p.wakes with
    | none => (.dropped started.trace sup info, started.host)
    | some wakes =>
      let run := sup.run h wakes started.host
      (.ran started.trace sup info run.value run.trace, run.host)

def playAll : List Plan → σ → List Report × σ
  | [], s => ([], s)
  | p :: ps, s =>
    let first := p.play h s
    let rest := playAll ps first.2
    (first.1 :: rest.1, rest.2)

end Plan

end ServiceStack
