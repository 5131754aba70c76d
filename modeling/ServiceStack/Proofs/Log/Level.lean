import Mathlib.Tactic.Lemma
import ServiceStack.Trace

/-!
Logs kept at different levels.

A recording holds all that was done and the lines that its level takes, in one order. A recording at
some level is what is left of one at a level that takes more.
-/

namespace ServiceStack

namespace Level

variable {kept lower higher : Level}

lemma admits_trans (hh : higher.admits lower = true) (hl : lower.admits kept = true) :
    higher.admits kept = true := by
  simp only [admits, decide_eq_true_iff] at *
  exact Nat.le_trans hl hh

/-- No line is less severe than `debug`. -/
lemma admits_line (hk : kept.admits .debug = true) (l : Line) : kept.admits l.level = true := by
  refine admits_trans hk ?_
  cases l <;> rfl

lemma filter_filter (hh : higher.admits lower = true) (ls : List Line) :
    lower.filter (higher.filter ls) = lower.filter ls := by
  rw [filter, filter, List.filter_filter]
  refine List.filter_congr fun l _ => ?_
  cases hl : lower.admits l.level with
  | false => rfl
  | true => exact admits_trans hh hl

lemma filter_of_debug (hk : kept.admits .debug = true) (ls : List Line) : kept.filter ls = ls :=
  List.filter_eq_self.mpr fun l _ => admits_line hk l

end Level

/-- Of some lines, the log `low` is kept at a level that takes no more than that of `high` does. -/
structure Narrowed (lower : Level) (ls low high : List Line) : Prop where
  restricted : low = lower.filter high
  sublist : low.Sublist high
  /-- no line is missing that its level takes -/
  whole : ∀ {kept}, lower.admits kept = true → kept.filter low = kept.filter ls
  /-- nothing is ever told at `trace` -/
  same : lower.admits .debug = true → low = high

lemma narrowed_filter {lower higher : Level} (hh : higher.admits lower = true) (ls : List Line) :
    Narrowed lower ls (lower.filter ls) (higher.filter ls) where
  restricted := (Level.filter_filter hh ls).symm
  sublist := by
    rw [← Level.filter_filter hh]
    exact List.filter_sublist
  whole hk := Level.filter_filter hk ls
  same hd := by
    rw [Level.filter_of_debug hd, Level.filter_of_debug (Level.admits_trans hh hd)]

namespace Trace

variable {kept lower higher : Level}

/-- The recording of what is traced, its log kept at a level. -/
def keep (kept : Level) (t : Trace) : Trace :=
  t.filter fun e => e.line?.all fun l => kept.admits l.level

lemma keep_append (s t : Trace) : (s ++ t).keep kept = s.keep kept ++ t.keep kept :=
  List.filter_append ..

@[simp] lemma events_keep (t : Trace) : (t.keep kept).events = t.events := by
  induction t with
  | nil => rfl
  | cons e t ih =>
    cases e with
    | event e => exact congrArg (e :: ·) ih
    | line l =>
      by_cases hl : kept.admits l.level = true <;>
        simpa [keep, Entry.line?, hl] using ih

@[simp] lemma lines_keep (t : Trace) : (t.keep kept).lines = t.log kept := by
  induction t with
  | nil => rfl
  | cons e t ih =>
    cases e with
    | event e => exact ih
    | line l =>
      by_cases hl : kept.admits l.level = true <;>
        simpa [keep, log, Level.filter, Entry.line?, hl] using ih

/-- What is recorded at a level is left of what is recorded at one that takes more. -/
lemma keep_keep (hh : higher.admits lower = true) (t : Trace) :
    (t.keep higher).keep lower = t.keep lower := by
  rw [keep, keep, List.filter_filter]
  refine List.filter_congr fun e _ => ?_
  rcases e with e | l
  · rfl
  · cases hl : lower.admits l.level with
    | false => simp [Entry.line?, hl]
    | true => simp [Entry.line?, hl, Level.admits_trans hh hl]

end Trace

end ServiceStack
