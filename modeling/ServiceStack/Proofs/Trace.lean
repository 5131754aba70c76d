import Mathlib.Tactic.Lemma
import ServiceStack.Trace

/-!
Views of a trace: the processes that were started, those that were asked to stop, and the calls to
start one, whether they succeeded or not. Each is in the order of the trace.
-/

namespace ServiceStack

namespace Event

def spawned? : Event → Option Process
  | .spawned _ p => some p
  | _ => none

def killed? : Event → Option Process
  | .killed p => some p
  | _ => none

def isCall : Event → Bool
  | .spawned .. | .refused _ => true
  | _ => false

/-- The invocation of a call to start a process. -/
def asked? : Event → Option Invocation
  | .spawned i _ | .refused i => some i
  | _ => none

variable {is : List Invocation} {ps : List Process}

lemma filterMap_spawned?_killed (ps : List Process) :
    (ps.map killed).filterMap spawned? = [] := by
  simp [spawned?]

lemma filterMap_killed?_killed (ps : List Process) :
    (ps.map killed).filterMap killed? = ps := by
  induction ps with
  | nil => rfl
  | cons p ps ih => simpa [killed?] using ih

lemma filter_isCall_killed (ps : List Process) :
    (ps.map killed).filter isCall = [] := by
  simp [isCall]

lemma filterMap_spawned?_zipWith (hl : ps.length = is.length) :
    (List.zipWith spawned is ps).filterMap spawned? = ps := by
  induction is generalizing ps with
  | nil => simp [List.eq_nil_of_length_eq_zero hl]
  | cons i is ih =>
    rcases ps with _ | ⟨p, ps⟩
    · simp at hl
    · simpa [spawned?] using ih (by simpa using hl)

lemma filterMap_killed?_zipWith (is : List Invocation) (ps : List Process) :
    (List.zipWith spawned is ps).filterMap killed? = [] := by
  induction is generalizing ps with
  | nil => rfl
  | cons i is ih =>
    cases ps with
    | nil => rfl
    | cons p ps => exact ih ps

lemma filter_isCall_zipWith (is : List Invocation) (ps : List Process) :
    (List.zipWith spawned is ps).filter isCall = List.zipWith spawned is ps := by
  induction is generalizing ps with
  | nil => rfl
  | cons i is ih =>
    cases ps with
    | nil => rfl
    | cons p ps => exact congrArg _ (ih ps)

lemma filterMap_asked?_killed (ps : List Process) : (ps.map killed).filterMap asked? = [] := by
  simp [asked?]

lemma filterMap_asked?_zipWith (hl : ps.length = is.length) :
    (List.zipWith spawned is ps).filterMap asked? = is := by
  induction is generalizing ps with
  | nil => simp
  | cons i is ih =>
    rcases ps with _ | ⟨p, ps⟩
    · simp at hl
    · simpa [asked?] using ih (by simpa using hl)

/-- Where processes are started the interrupt is not waited for. -/
lemma listening_notMem_zipWith (is : List Invocation) (ps : List Process) :
    listening ∉ List.zipWith spawned is ps := by
  rw [← List.map_uncurry_zip_eq_zipWith]
  simp

end Event

namespace Trace

def spawned (t : Trace) : List Process := t.events.filterMap Event.spawned?

def killed (t : Trace) : List Process := t.events.filterMap Event.killed?

def calls (t : Trace) : List Event := t.events.filter Event.isCall

/-- The invocations of the calls to start a process. -/
def attempts (t : Trace) : List Invocation := t.events.filterMap Event.asked?

@[simp] lemma spawned_nil : spawned [] = [] := rfl
@[simp] lemma killed_nil : killed [] = [] := rfl
@[simp] lemma calls_nil : calls [] = [] := rfl

@[simp] lemma spawned_append (s t : Trace) : spawned (s ++ t) = s.spawned ++ t.spawned := by
  simp [spawned]

@[simp] lemma killed_append (s t : Trace) : killed (s ++ t) = s.killed ++ t.killed := by
  simp [killed]

@[simp] lemma calls_append (s t : Trace) : calls (s ++ t) = s.calls ++ t.calls := by
  simp [calls]

variable {t : Trace} {is : List Invocation} {ps : List Process}

lemma views_spawned (hl : ps.length = is.length)
    (ht : t.events = List.zipWith .spawned is ps) :
    t.spawned = ps ∧ t.killed = [] ∧ t.calls = List.zipWith .spawned is ps := by
  rw [spawned, killed, calls, ht]
  exact ⟨Event.filterMap_spawned?_zipWith hl, Event.filterMap_killed?_zipWith is ps,
    Event.filter_isCall_zipWith is ps⟩

/-- The views of a trace in which a call fails and the processes before it are asked to stop. -/
lemma views_refused {i : Invocation} (hl : ps.length = is.length)
    (ht : t.events = List.zipWith .spawned is ps ++ .refused i :: ps.map .killed) :
    t.spawned = ps ∧ t.killed = ps ∧ t.calls = List.zipWith .spawned is ps ++ [.refused i] := by
  rw [spawned, killed, calls, ht, ← List.singleton_append]
  simp only [List.filterMap_append, List.filter_append, Event.filterMap_spawned?_zipWith hl,
    Event.filterMap_killed?_zipWith, Event.filter_isCall_zipWith, Event.filterMap_spawned?_killed,
    Event.filterMap_killed?_killed, Event.filter_isCall_killed]
  exact ⟨by simp [Event.spawned?], by simp [Event.killed?], by simp [Event.isCall]⟩

lemma views_waiting {es : List Event} (hl : ps.length = is.length) (hes : es <+: [.listening])
    (ht : t.events = List.zipWith .spawned is ps ++ es) : t.spawned = ps ∧ t.killed = [] := by
  rw [spawned, killed, ht]
  simp only [List.filterMap_append, Event.filterMap_spawned?_zipWith hl,
    Event.filterMap_killed?_zipWith]
  rcases List.prefix_cons_iff.mp hes with rfl | ⟨es, rfl, hnil⟩
  · simp
  · simp [List.prefix_nil.mp hnil, Event.spawned?, Event.killed?]

lemma views_interrupted (hl : ps.length = is.length)
    (ht : t.events = List.zipWith .spawned is ps ++ .listening :: .interrupted ::
      ps.map .killed) :
    t.spawned = ps ∧ t.killed = ps := by
  rw [spawned, killed, ht]
  simp only [List.filterMap_append, Event.filterMap_spawned?_zipWith hl,
    Event.filterMap_killed?_zipWith, List.nil_append]
  refine ⟨?_, Event.filterMap_killed?_killed ps⟩
  exact (congrArg (ps ++ ·) (Event.filterMap_spawned?_killed ps)).trans (List.append_nil ps)

lemma views_killed (ht : t.events = ps.map .killed) :
    t.spawned = [] ∧ t.killed = ps ∧ t.calls = [] := by
  rw [spawned, killed, calls, ht]
  exact ⟨Event.filterMap_spawned?_killed ps, Event.filterMap_killed?_killed ps,
    Event.filter_isCall_killed ps⟩

lemma attempts_spawned (hl : ps.length = is.length)
    (ht : t.events = List.zipWith .spawned is ps) : t.attempts = is := by
  rw [attempts, ht, Event.filterMap_asked?_zipWith hl]

lemma attempts_refused {i : Invocation} (hl : ps.length = is.length)
    (ht : t.events = List.zipWith .spawned is ps ++ .refused i :: ps.map .killed) :
    t.attempts = is ++ [i] := by
  rw [attempts, ht, ← List.singleton_append]
  simp only [List.filterMap_append, Event.filterMap_asked?_zipWith hl, Event.filterMap_asked?_killed]
  simp [Event.asked?]

end Trace

end ServiceStack
