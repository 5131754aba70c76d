import ServiceStack.Proofs.Invocation.Separator
import ServiceStack.Proofs.Invocation.Shown

/-!
Reading a shown command line back.

If no part holds a space, the single spaces of a shown command line are those between its parts,
also where parts are empty and spaces stand side by side. If the parts are texts besides, nothing of
them is lost, so the words are the parts again.
-/

namespace ServiceStack

/-- What stands between the single spaces of a text. -/
def words (text : String) : List String := (text.split ' ').toList.map (·.copy)

/-- Octets that are the UTF-8 of a text without spaces. -/
def Utf8.IsWord (part : Octets) : Prop := ∃ s : String, Utf8.encode s = part ∧ ' ' ∉ s.toList

namespace Utf8

lemma isWord_encode {s : String} : IsWord (encode s) ↔ ' ' ∉ s.toList :=
  ⟨fun ⟨_, ht, hspace⟩ => encode_injective ht ▸ hspace, fun h => ⟨s, rfl, h⟩⟩

lemma IsWord.encode_lossy {part : Octets} (h : IsWord part) : encode (lossy part) = part := by
  obtain ⟨s, rfl, -⟩ := h
  rw [lossy_encode]

lemma IsWord.space_notMem {part : Octets} (h : IsWord part) : ' ' ∉ lossyChars part := by
  obtain ⟨s, rfl, hspace⟩ := h
  rwa [lossyChars_encode]

end Utf8

namespace Invocation

/-- A command line whose parts are words, each of which may be empty. -/
def Plain (i : Invocation) : Prop := ∀ part ∈ i.program :: i.args, Utf8.IsWord part

variable {i j : Invocation}

/-- What holds no space is shown as one word. -/
lemma words_shown (h : ∀ part ∈ i.program :: i.args, ' ' ∉ Utf8.lossyChars part) :
    words i.shown = (i.program :: i.args).map Utf8.lossy := by
  have hsplit : i.shown.toList.splitOn ' ' = (i.program :: i.args).map Utf8.lossyChars := by
    rw [shown, String.toList_ofList, shownChars_eq]
    refine List.splitOn_intercalate ' ' ?_ (List.cons_ne_nil _ _)
    rw [List.forall_mem_map]
    exact h
  rw [words, String.toList_split_char, hsplit, List.map_map]
  rfl

lemma Plain.words_shown (h : i.Plain) :
    (words i.shown).map Utf8.encode = i.program :: i.args := by
  rw [Invocation.words_shown fun part hpart => (h part hpart).space_notMem, List.map_map]
  calc (i.program :: i.args).map (Utf8.encode ∘ Utf8.lossy)
      = (i.program :: i.args).map id :=
        List.map_congr_left fun part hpart => (h part hpart).encode_lossy
    _ = i.program :: i.args := List.map_id _

lemma Plain.shown_inj (hi : i.Plain) (hj : j.Plain) :
    i.shown = j.shown ↔ i.program = j.program ∧ i.args = j.args := by
  constructor
  · intro h
    have hparts : i.program :: i.args = j.program :: j.args := by
      rw [← hi.words_shown, ← hj.words_shown, h]
    exact List.cons.inj hparts
  · rintro ⟨hprogram, hargs⟩
    rw [shown, shown, shownChars, shownChars, hprogram, hargs]

lemma space_notMem_flags (mode : Mode) :
    ∀ flag ∈ "run" :: mode.flags ++ ["--"], ' ' ∉ flag.toList := by
  cases mode <;> decide

lemma plain_ofService {program : Octets} {spec : Service} {mode : Mode} :
    (ofService program spec mode).Plain ↔
      Utf8.IsWord program ∧ ∀ arg ∈ spec.args, ' ' ∉ arg.toList := by
  have hargs : (ofService program spec mode).args =
      ("run" :: mode.flags ++ ["--"] ++ spec.args).map Utf8.encode := by
    simp [ofService, arguments]
  rw [Plain, List.forall_mem_cons, hargs, List.forall_mem_map]
  simp only [Utf8.isWord_encode]
  rw [List.forall_mem_append, and_iff_right (space_notMem_flags mode)]
  rfl

/-- **A shown command line can be read back.** The words of a plain one are its parts, so its text is
that of no other one; and a text that shows the command line of a service tells the program, the
mode and what the service is given. -/
theorem shown_reads_back (hi : i.Plain) (hj : j.Plain) :
    (words i.shown).map Utf8.encode = i.program :: i.args ∧
      (i.shown = j.shown ↔ i.program = j.program ∧ i.args = j.args) ∧
      (∀ program spec mode, (ofService program spec mode).Plain ↔
        Utf8.IsWord program ∧ ∀ arg ∈ spec.args, ' ' ∉ arg.toList) ∧
      ∀ program spec mode program' spec' mode',
        i = ofService program spec mode → j = ofService program' spec' mode' →
          (i.shown = j.shown ↔ program = program' ∧ mode = mode' ∧ spec.args = spec'.args) := by
  refine ⟨hi.words_shown, hi.shown_inj hj, fun _ _ _ => plain_ofService, ?_⟩
  rintro program spec mode program' spec' mode' rfl rfl
  rw [hi.shown_inj hj, args_ofService_inj, and_comm (a := spec.args = spec'.args)]
  rfl

/-- Services whose arguments look like what stands in front of them, or are empty. -/
theorem shown_reads_back_imitated :
    let i := ofService (Utf8.encode "cargo") ⟨"web", ["--release", "--", ""], .always⟩ .development
    let j := ofService (Utf8.encode "cargo") ⟨"web", ["--", ""], .always⟩ .release
    (i.Plain ∧ j.Plain) ∧
      (words i.shown).map Utf8.encode =
        ["cargo", "run", "--", "--release", "--", ""].map Utf8.encode ∧
      i.shown ≠ j.shown := by
  intro i j
  have hword : Utf8.IsWord (Utf8.encode "cargo") := Utf8.isWord_encode.mpr (by decide)
  have hi : i.Plain := plain_ofService.mpr ⟨hword, by decide⟩
  have hj : j.Plain := plain_ofService.mpr ⟨hword, by decide⟩
  obtain ⟨hwords, -, -, hservice⟩ := shown_reads_back hi hj
  refine ⟨⟨hi, hj⟩, hwords.trans (by decide), fun h => ?_⟩
  obtain ⟨-, hmode, -⟩ := (hservice _ _ _ _ _ _ rfl rfl).mp h
  cases hmode

end Invocation

end ServiceStack
