import ServiceStack.Trace

/-!
What runs the processes. A host has a state of its own, which every request may change: it starts
a process for an invocation, tells the number of a process, and asks a process to stop.
-/

namespace ServiceStack

/-- What a request to stop comes to. A process may log lines of its own. -/
structure Stopping (σ : Type) where
  result : Except Failure Unit
  lines : List Line
  host : σ

structure Host (σ : Type) where
  spawn : Invocation → σ → Except Failure Process × σ
  id : Process → σ → Option Nat
  terminate : Process → σ → Stopping σ

/-- What an activity on a host leaves. -/
structure Outcome (σ α : Type) where
  value : α
  host : σ
  trace : Trace

namespace Outcome

variable {σ α : Type}

/-- The outcome when some entries come first. -/
def after (t : Trace) (o : Outcome σ α) : Outcome σ α := { o with trace := t ++ o.trace }

@[simp] theorem value_after (t : Trace) (o : Outcome σ α) : (o.after t).value = o.value := rfl
@[simp] theorem host_after (t : Trace) (o : Outcome σ α) : (o.after t).host = o.host := rfl
@[simp] theorem trace_after (t : Trace) (o : Outcome σ α) :
    (o.after t).trace = t ++ o.trace := rfl

end Outcome

end ServiceStack
