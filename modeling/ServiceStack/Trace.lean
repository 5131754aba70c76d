import ServiceStack.Log.Line

/-!
The trace of a run: what was done to the processes and what was logged, in one order. The events
and the log are views of it.
-/

namespace ServiceStack

/-- A started process. The key tells it from every other process of its host, the name need not. -/
structure Process where
  key : Nat
  name : String
deriving DecidableEq, Repr

inductive Event where
  /-- a process was started -/
  | spawned (invocation : Invocation) (process : Process)
  /-- a process could not be started -/
  | refused (invocation : Invocation)
  /-- a process was asked to stop -/
  | killed (process : Process)
  /-- the interrupt is waited for -/
  | listening
  /-- the interrupt came -/
  | interrupted
deriving DecidableEq, Repr

inductive Entry where
  | event (e : Event)
  | line (l : Line)
deriving DecidableEq, Repr

def Entry.event? : Entry → Option Event
  | .event e => some e
  | .line _ => none

def Entry.line? : Entry → Option Line
  | .event _ => none
  | .line l => some l

abbrev Trace := List Entry

namespace Trace

def events (t : Trace) : List Event := t.filterMap Entry.event?

def lines (t : Trace) : List Line := t.filterMap Entry.line?

/-- The log of a run, kept at a level. -/
def log (t : Trace) (kept : Level) : List Line := kept.filter t.lines

def ofLines (ls : List Line) : Trace := ls.map .line

@[simp] theorem events_nil : events [] = [] := rfl
@[simp] theorem lines_nil : lines [] = [] := rfl

@[simp] theorem events_cons_event (e : Event) (t : Trace) :
    events (.event e :: t) = e :: t.events := rfl
@[simp] theorem events_cons_line (l : Line) (t : Trace) :
    events (.line l :: t) = t.events := rfl
@[simp] theorem lines_cons_event (e : Event) (t : Trace) :
    lines (.event e :: t) = t.lines := rfl
@[simp] theorem lines_cons_line (l : Line) (t : Trace) :
    lines (.line l :: t) = l :: t.lines := rfl

@[simp] theorem events_append (s t : Trace) : events (s ++ t) = s.events ++ t.events := by
  simp [events]

@[simp] theorem lines_append (s t : Trace) : lines (s ++ t) = s.lines ++ t.lines := by
  simp [lines]

@[simp] theorem events_ofLines (ls : List Line) : events (ofLines ls) = [] := by
  simp [events, ofLines, Entry.event?]

@[simp] theorem lines_ofLines (ls : List Line) : lines (ofLines ls) = ls := by
  induction ls with
  | nil => rfl
  | cons l ls ih => simpa [ofLines] using ih

end Trace

end ServiceStack
