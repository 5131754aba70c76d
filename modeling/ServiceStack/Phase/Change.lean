import ServiceStack.Log.Line

/-!
How the phases follow each other. An interrupt ends the running phase and the end of the sweep
ends the shutdown; an interrupt later on is noted and ignored, a finish out of turn is not even
noted.
-/

namespace ServiceStack

/-- A phase with the log lines that led to it. -/
structure Change where
  phase : Phase
  lines : List Line
deriving DecidableEq, Repr

namespace Phase

def moveTo (before after : Phase) : Change := ⟨after, [.moved before after]⟩

/-- Whether an interrupt is heeded. -/
def heeds (p : Phase) : Bool := p = .running

def interrupt : Phase → Change
  | running => running.moveTo shuttingDown
  | p => ⟨p, [.ignored p]⟩

def finish : Phase → Change
  | shuttingDown => shuttingDown.moveTo terminated
  | p => ⟨p, []⟩

/-- What may be asked of a stack in some phase. -/
inductive Call where
  | interrupt
  | finish
deriving DecidableEq, Repr

def answer (p : Phase) : Call → Change
  | .interrupt => p.interrupt
  | .finish => p.finish

/-- The phase and the lines after a history of calls. -/
def after (p : Phase) : List Call → Change
  | [] => ⟨p, []⟩
  | c :: cs =>
    let first := p.answer c
    let later := first.phase.after cs
    ⟨later.phase, first.lines ++ later.lines⟩

@[simp] theorem after_nil (p : Phase) : p.after [] = ⟨p, []⟩ := rfl

@[simp] theorem after_cons (p : Phase) (c : Call) (cs : List Call) :
    p.after (c :: cs) =
      ⟨((p.answer c).phase.after cs).phase,
        (p.answer c).lines ++ ((p.answer c).phase.after cs).lines⟩ := rfl

end Phase

end ServiceStack
