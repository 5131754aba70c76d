import Mathlib.Data.List.TakeWhile
import ServiceStack.Phase.Change

/-!
The phases over a history of calls.

The changes of phase that a log tells are a beginning of the one way there is, and the phase says
how far on it they are. One call keeps this, so any history does. Which phase it is depends on the
first interrupt alone and on whether a finish comes behind it.
-/

namespace ServiceStack

/-! ### The changes of phase in a log -/

def Line.change? : Line → Option (Phase × Phase)
  | .moved before after => some (before, after)
  | _ => none

/-- The changes of phase that some lines tell. -/
def changes (ls : List Line) : List (Phase × Phase) := ls.filterMap Line.change?

@[simp] lemma changes_nil : changes [] = [] := rfl

@[simp] lemma changes_cons (l : Line) (ls : List Line) :
    changes (l :: ls) = l.change?.toList ++ changes ls := by
  cases hl : l.change? <;> simp [changes, hl]

@[simp] lemma changes_append (ks ls : List Line) : changes (ks ++ ls) = changes ks ++ changes ls :=
  List.filterMap_append

namespace Phase

/-- How far a phase is on the way to the end. -/
def rank : Phase → Nat
  | running => 0
  | shuttingDown => 1
  | terminated => 2

/-- All changes of phase, in the order in which they can come. -/
def way : List (Phase × Phase) := [(running, shuttingDown), (shuttingDown, terminated)]

/-- A history from its first interrupt on. -/
def sinceInterrupt (cs : List Call) : List Call := cs.dropWhile (· ≠ .interrupt)

/-- The phase that a history leads to. -/
def reached (cs : List Call) : Phase :=
  if .interrupt ∉ cs then running
  else if .finish ∈ sinceInterrupt cs then terminated
  else shuttingDown

/-! ### One call and any calls -/

lemma answer_way (p : Phase) (c : Call) :
    way.take p.rank ++ changes (p.answer c).lines = way.take (p.answer c).phase.rank ∧
      p.rank ≤ (p.answer c).phase.rank := by
  cases p <;> cases c <;> exact ⟨rfl, by decide⟩

/-- What is told before some calls and what they tell is one beginning of the way. -/
lemma after_way (p : Phase) (cs : List Call) :
    way.take p.rank ++ changes (p.after cs).lines = way.take (p.after cs).phase.rank ∧
      p.rank ≤ (p.after cs).phase.rank := by
  induction cs generalizing p with
  | nil => exact ⟨List.append_nil _, Nat.le_refl _⟩
  | cons c cs ih =>
    obtain ⟨hc, hr⟩ := answer_way p c
    obtain ⟨hcs, hrs⟩ := ih (p.answer c).phase
    refine ⟨?_, Nat.le_trans hr hrs⟩
    rw [after_cons, changes_append, ← List.append_assoc, hc, hcs]

/-- A history is read call by call: what comes later starts from the phase reached so far. -/
lemma after_append (p : Phase) (cs ds : List Call) :
    p.after (cs ++ ds) =
      ⟨((p.after cs).phase.after ds).phase,
        (p.after cs).lines ++ ((p.after cs).phase.after ds).lines⟩ := by
  induction cs generalizing p with
  | nil => rfl
  | cons c cs ih => simp [ih]

/-! ### The phase of a history -/

lemma phase_after_terminated (cs : List Call) : (terminated.after cs).phase = terminated := by
  induction cs with
  | nil => rfl
  | cons c cs ih => cases c <;> exact ih

lemma phase_after_shuttingDown (cs : List Call) :
    (shuttingDown.after cs).phase = if .finish ∈ cs then terminated else shuttingDown := by
  induction cs with
  | nil => rfl
  | cons c cs ih =>
    cases c with
    | interrupt => simpa [answer, interrupt] using ih
    | finish => simpa [answer, finish, moveTo] using phase_after_terminated cs

/-- A finish in front of the first interrupt leaves no trace in the phase. -/
lemma phase_after_running (cs : List Call) : (running.after cs).phase = reached cs := by
  induction cs with
  | nil => rfl
  | cons c cs ih =>
    cases c with
    | interrupt =>
      simpa [reached, sinceInterrupt, answer, interrupt, moveTo] using phase_after_shuttingDown cs
    | finish => simpa [reached, sinceInterrupt, answer, finish] using ih

lemma sinceInterrupt_eq_nil {cs : List Call} (h : .interrupt ∉ cs) : sinceInterrupt cs = [] := by
  rw [sinceInterrupt, List.dropWhile_eq_nil_iff]
  intro c hc
  have hne : c ≠ .interrupt := fun he => h (he ▸ hc)
  simpa using hne

lemma phase_cases (cs : List Call) :
    ((running.after cs).phase = running ∧ .interrupt ∉ cs ∧ .finish ∉ sinceInterrupt cs) ∨
      ((running.after cs).phase = shuttingDown ∧ .interrupt ∈ cs ∧ .finish ∉ sinceInterrupt cs) ∨
      ((running.after cs).phase = terminated ∧ .interrupt ∈ cs ∧ .finish ∈ sinceInterrupt cs) := by
  rw [phase_after_running]
  by_cases hi : .interrupt ∈ cs
  · by_cases hf : .finish ∈ sinceInterrupt cs <;> simp [reached, hi, hf]
  · simp [reached, hi, sinceInterrupt_eq_nil hi]

lemma phase_iff (cs : List Call) :
    ((running.after cs).phase = running ↔ .interrupt ∉ cs) ∧
      ((running.after cs).phase = terminated ↔ .finish ∈ sinceInterrupt cs) ∧
      ((running.after cs).phase = shuttingDown ↔
        .interrupt ∈ cs ∧ .finish ∉ sinceInterrupt cs) := by
  rcases phase_cases cs with ⟨hp, hi, hf⟩ | ⟨hp, hi, hf⟩ | ⟨hp, hi, hf⟩ <;> simp [hp, hi, hf]

lemma answer_after (cs : List Call) :
    ((running.after cs).phase.answer .interrupt =
        if .interrupt ∉ cs then ⟨shuttingDown, [.moved running shuttingDown]⟩
        else ⟨(running.after cs).phase, [.ignored (running.after cs).phase]⟩) ∧
      ((running.after cs).phase.answer .finish =
        if .interrupt ∈ cs ∧ .finish ∉ sinceInterrupt cs then
          ⟨terminated, [.moved shuttingDown terminated]⟩
        else ⟨(running.after cs).phase, []⟩) := by
  rcases phase_cases cs with ⟨hp, hi, hf⟩ | ⟨hp, hi, hf⟩ | ⟨hp, hi, hf⟩ <;>
    simp [hp, hi, hf, answer, interrupt, finish, moveTo]

/-- **Any history** of calls. The phase tells whether there was an interrupt and a finish behind the
first one, and the log tells as many changes as the phase is on its way. The next call is answered
by what was before it: only a first interrupt is heeded, a later one is noted with the phase and
changes nothing, and a finish is noted only if it ends the shutdown. -/
theorem history (cs : List Call) :
    let c := running.after cs
    (c.phase = running ↔ .interrupt ∉ cs) ∧
      (c.phase = terminated ↔ .finish ∈ sinceInterrupt cs) ∧
      (c.phase = shuttingDown ↔ .interrupt ∈ cs ∧ .finish ∉ sinceInterrupt cs) ∧
      changes c.lines = way.take c.phase.rank ∧
      (c.phase.heeds = true ↔ .interrupt ∉ cs) ∧
      (c.phase.answer .interrupt =
        if .interrupt ∉ cs then ⟨shuttingDown, [.moved running shuttingDown]⟩
        else ⟨c.phase, [.ignored c.phase]⟩) ∧
      (c.phase.answer .finish =
        if .interrupt ∈ cs ∧ .finish ∉ sinceInterrupt cs then
          ⟨terminated, [.moved shuttingDown terminated]⟩
        else ⟨c.phase, []⟩) ∧
      ∀ call later,
        let next := c.phase.answer call
        let last := next.phase.after later
        running.after (cs ++ call :: later) = ⟨last.phase, c.lines ++ next.lines ++ last.lines⟩ ∧
          c.phase.rank ≤ next.phase.rank ∧ next.phase.rank ≤ last.phase.rank := by
  intro c
  obtain ⟨hr, ht, hs⟩ := phase_iff cs
  obtain ⟨hi, hf⟩ := answer_after cs
  refine ⟨hr, ht, hs, (after_way running cs).1, ?_, hi, hf, ?_⟩
  · rw [← hr, heeds, decide_eq_true_iff]
  · intro call later next last
    refine ⟨?_, (answer_way c.phase call).2, (after_way next.phase later).2⟩
    rw [after_append, after_cons, List.append_assoc]

example : running.after [.finish, .interrupt, .interrupt, .finish, .interrupt] =
    ⟨terminated, [.moved running shuttingDown, .ignored shuttingDown,
      .moved shuttingDown terminated, .ignored terminated]⟩ := rfl

end Phase

end ServiceStack
