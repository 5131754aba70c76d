import Mathlib.Algebra.Ring.Nat
import ServiceStack.CommandLine.Parse

/-!
The language of the command lines that are read to their end.

A word gives switches: by a long name, or by a bundle of the letter `v`. A sentence is a row of
words, which a lone `--` may close. It is spelled as arguments, and it asks for settings.
-/

namespace ServiceStack.CommandLine

/-- A flag that settles something; the others are requests. -/
inductive Switch where
  | release
  | alice
  | verbose
deriving DecidableEq, Repr

def Switch.flag : Switch → Flag
  | release => .release
  | alice => .alice
  | verbose => .verbose

def equals : UInt8 := 0x3D

def letterV : UInt8 := 0x76

/-- An argument that gives switches. -/
inductive Word where
  /-- two dashes or more, the name, and whatever an equals sign begins -/
  | long (more : Nat) (switch : Switch) (value : Option Octets)
  /-- one dash and one letter or more -/
  | bundle (more : Nat)
deriving DecidableEq, Repr

namespace Word

def spelling : Word → Octets
  | long more sw value =>
    List.replicate (more + 2) dash ++ (Utf8.encode sw.flag.name ++ value.elim [] (equals :: ·))
  | bundle more => dash :: List.replicate (more + 1) letterV

/-- How often a word gives a switch. -/
def times (sw : Switch) : Word → Nat
  | long _ given _ => if given = sw then 1 else 0
  | bundle more => if sw = .verbose then more + 1 else 0

def flags : Word → List Flag
  | long _ sw _ => [sw.flag]
  | bundle more => List.replicate (more + 1) .verbose

lemma count_flags (w : Word) (sw : Switch) : w.flags.count sw.flag = w.times sw := by
  cases w with
  | long more given value => cases given <;> cases sw <;> rfl
  | bundle more => cases sw <;> simp [flags, times, Switch.flag, List.count_replicate]

lemma exists_of_mem_flags {w : Word} {f : Flag} (hf : f ∈ w.flags) :
    ∃ sw : Switch, sw.flag = f := by
  cases w with
  | long more sw value => exact ⟨sw, (List.mem_singleton.mp hf).symm⟩
  | bundle more => exact ⟨.verbose, (List.eq_of_mem_replicate hf).symm⟩

end Word

/-- A command line that is read to its end. -/
structure Sentence where
  words : List Word
  /-- whether a lone `--` comes last -/
  closed : Bool
deriving DecidableEq, Repr

namespace Sentence

def spelling (s : Sentence) : List Octets :=
  s.words.map Word.spelling ++ if s.closed then [[dash, dash]] else []

/-- How often a switch is given. -/
def times (s : Sentence) (sw : Switch) : Nat := (s.words.map (Word.times sw)).sum

def flags (s : Sentence) : List Flag := s.words.flatMap Word.flags

/-- What a sentence asks for. -/
def settings (s : Sentence) : Settings :=
  { Settings.standard with
    mode := if s.times .release = 0 then .development else .release
    withAlice := s.times .alice ≠ 0
    verbosity := s.times .verbose }

lemma count_flags (s : Sentence) (sw : Switch) : s.flags.count sw.flag = s.times sw := by
  simp only [flags, times, List.count_flatMap]
  congr 2
  funext w
  exact w.count_flags sw

lemma mem_flags (s : Sentence) (sw : Switch) : sw.flag ∈ s.flags ↔ s.times sw ≠ 0 := by
  rw [← s.count_flags, ← List.count_pos_iff]
  omega

lemma count_request {s : Sentence} {f : Flag} (hf : ∀ sw : Switch, sw.flag ≠ f) :
    s.flags.count f = 0 := by
  rw [List.count_eq_zero]
  intro hm
  obtain ⟨w, -, hw⟩ := List.mem_flatMap.mp hm
  obtain ⟨sw, hsw⟩ := Word.exists_of_mem_flags hw
  exact hf sw hsw

lemma settings_eq (s : Sentence) : Settings.ofFlags s.flags = s.settings := by
  have hr := s.mem_flags .release
  have ha := s.mem_flags .alice
  have hv := s.count_flags .verbose
  simp only [Switch.flag] at hr ha hv
  simp only [Settings.ofFlags, settings, hv, hr, ha, Mode.ofRelease]
  by_cases h : s.times .release = 0 <;> simp [h]

/-- The standard is asked for by giving no switch at all. -/
lemma settings_eq_standard (s : Sentence) :
    s.settings = .standard ↔ ∀ sw, s.times sw = 0 := by
  constructor
  · intro h sw
    have hm := congrArg Settings.mode h
    have ha := congrArg Settings.withAlice h
    have hv := congrArg Settings.verbosity h
    cases sw with
    | release => simpa [settings, Settings.standard] using hm
    | alice => simpa [settings, Settings.standard] using ha
    | verbose => exact hv
  · intro h
    simp [settings, h, Settings.standard]

/-- The first switch, if any, that is given too often. -/
lemma overused?_flags (s : Sentence) :
    overused? s.flags =
      if 1 < s.times .release then some .release
      else if 1 < s.times .alice then some .alice
      else none := by
  have hr := s.count_flags .release
  have ha := s.count_flags .alice
  have hh : s.flags.count .help = 0 := count_request fun sw => by cases sw <;> simp [Switch.flag]
  have hv : s.flags.count .version = 0 :=
    count_request fun sw => by cases sw <;> simp [Switch.flag]
  simp only [Switch.flag] at hr ha
  simp only [overused?, Flag.all, Flag.repeatable, List.find?_cons, hr, ha, hh, hv]
  by_cases h₁ : 1 < s.times .release
  · simp [h₁]
  · by_cases h₂ : 1 < s.times .alice <;> simp [h₁, h₂]

end Sentence

end ServiceStack.CommandLine
