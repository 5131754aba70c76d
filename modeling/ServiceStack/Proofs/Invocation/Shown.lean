import Mathlib.Data.List.Forall2
import ServiceStack.Invocation
import ServiceStack.Proofs.Text.Lossy

/-!
The shown command line as the text of one row of octets.

The parts are read one by one, each from where a character begins. A space closes whatever a part
leaves unfinished and is itself never part of another character, so it makes no difference to join
the parts first and to read them as one.
-/

namespace ServiceStack

namespace Utf8

/-- Parts that are joined by spaces are read apart. -/
lemma lossyChars_intercalate (part : Octets) (parts : List Octets) :
    lossyChars ([0x20].intercalate (part :: parts)) =
      [' '].intercalate ((part :: parts).map lossyChars) := by
  induction parts generalizing part with
  | nil => simp
  | cons next parts ih =>
    have hjoin : lossyChars (part ++ 0x20 :: [0x20].intercalate (next :: parts)) =
        lossyChars part ++ ' ' :: lossyChars ([0x20].intercalate (next :: parts)) := by
      simp [lossyChars, pieces, piecesFrom_append_space, Piece.shown]
    rw [List.intercalate_cons_cons, List.map_cons, List.map_cons, List.intercalate_cons_cons,
      ← List.map_cons, ← ih]
    simpa using hjoin

lemma forall₂_reads (parts : List Octets) : List.Forall₂ Reads parts (parts.map lossyChars) := by
  rw [List.forall₂_map_right_iff, List.forall₂_same]
  exact fun part _ => reads_iff.mpr rfl

end Utf8

namespace Invocation

/-- The program and its arguments as one row of octets. -/
def joined (i : Invocation) : Octets := [0x20].intercalate (i.program :: i.args)

lemma shownChars_eq (i : Invocation) :
    i.shownChars = [' '].intercalate ((i.program :: i.args).map Utf8.lossyChars) := by
  rw [shownChars]
  generalize i.program = part
  induction i.args generalizing part with
  | nil => simp
  | cons next parts ih =>
    rw [List.map_cons, List.map_cons, List.intercalate_cons_cons, ← List.map_cons, ← ih]
    simp

/-- **A command line is shown as the octets it joins to.** Its parts are shown one by one, each as
it reads by itself, and this is the lossy text of all of them joined by single spaces. What a text
is, is said by `Utf8.Reads`. -/
theorem shown_joined (i : Invocation) :
    (∃ texts, List.Forall₂ Utf8.Reads (i.program :: i.args) texts ∧
        i.shown = String.ofList ([' '].intercalate texts)) ∧
      i.shown = Utf8.lossy i.joined ∧
      (∀ text, Utf8.Reads i.joined text ↔ i.shown = String.ofList text) ∧
      ∀ bs text, Utf8.Reads bs text ↔ Utf8.lossy bs = String.ofList text := by
  have hreads : ∀ bs text, Utf8.Reads bs text ↔ Utf8.lossy bs = String.ofList text := by
    intro bs text
    rw [Utf8.reads_iff, Utf8.lossy, String.ofList_inj]
  have hjoined : i.shown = Utf8.lossy i.joined := by
    rw [shown, shownChars_eq, Utf8.lossy, joined, Utf8.lossyChars_intercalate]
  refine ⟨⟨_, Utf8.forall₂_reads _, ?_⟩, hjoined, fun text => ?_, hreads⟩
  · rw [shown, shownChars_eq]
  · rw [hreads, hjoined]

/-- Two parts that would make one character if they were not apart. -/
example : (⟨"web", [0xE2, 0x82], [[0xAC]]⟩ : Invocation).shown = "\uFFFD \uFFFD" := rfl

end Invocation

end ServiceStack
