import Mathlib.Data.List.Basic
import ServiceStack.Invocation
import ServiceStack.Proofs.Text.Encoded

/-!
The separator in a command line.

The build program takes the arguments up to the first `--` for itself and hands on what follows.
What it takes is `run` and the flags of the mode, and neither is `--`. So the first separator is
the one that was put there, whatever the arguments of the service are, and both sides can be read
off the arguments.
-/

namespace ServiceStack

namespace Invocation

def separator : Octets := Utf8.encode "--"

/-- The arguments that the build program takes for itself. -/
def taken (i : Invocation) : List Octets := i.args.takeWhile (· ≠ separator)

/-- The arguments that it hands on to the service. -/
def handedOn (i : Invocation) : List Octets := (i.args.dropWhile (· ≠ separator)).tail

lemma taken_congr {i j : Invocation} (h : i.args = j.args) : i.taken = j.taken := by
  rw [taken, taken, h]

lemma handedOn_congr {i j : Invocation} (h : i.args = j.args) : i.handedOn = j.handedOn := by
  rw [handedOn, handedOn, h]

variable {program program' : Octets} {spec spec' : Service} {mode mode' : Mode}

lemma separator_notMem_flags (mode : Mode) :
    separator ∉ ("run" :: mode.flags).map Utf8.encode := by
  cases mode <;> decide

lemma args_ofService :
    (ofService program spec mode).args =
      ("run" :: mode.flags).map Utf8.encode ++ separator :: spec.args.map Utf8.encode := by
  simp [ofService, arguments, separator]

/-- The first separator parts the arguments. -/
lemma eq_of_args_eq {i : Invocation} {front behind : List Octets}
    (hi : i.args = front ++ separator :: behind) (hfront : separator ∉ front) :
    i.taken = front ∧ i.handedOn = behind := by
  have hne : ∀ a ∈ front, decide (a ≠ separator) = true := fun a ha =>
    decide_eq_true fun h => hfront (h ▸ ha)
  rw [taken, handedOn, hi, List.takeWhile_append_of_pos hne, List.dropWhile_append_of_pos hne]
  simp

@[simp] lemma taken_ofService :
    (ofService program spec mode).taken = ("run" :: mode.flags).map Utf8.encode :=
  (eq_of_args_eq args_ofService (separator_notMem_flags mode)).1

@[simp] lemma handedOn_ofService :
    (ofService program spec mode).handedOn = spec.args.map Utf8.encode :=
  (eq_of_args_eq args_ofService (separator_notMem_flags mode)).2

lemma flags_injective : Function.Injective Mode.flags := by
  intro mode mode' h
  cases mode <;> cases mode' <;> first | rfl | cases h

lemma args_ofService_inj (program program' : Octets) :
    (ofService program spec mode).args = (ofService program' spec' mode').args ↔
      spec.args = spec'.args ∧ mode = mode' := by
  constructor
  · intro h
    have htaken := taken_congr h
    have hhanded := handedOn_congr h
    rw [taken_ofService, taken_ofService] at htaken
    rw [handedOn_ofService, handedOn_ofService] at hhanded
    have hmap := Utf8.encode_injective.list_map
    exact ⟨hmap hhanded, flags_injective (List.cons.inj (hmap htaken)).2⟩
  · rintro ⟨hargs, rfl⟩
    rw [args_ofService, args_ofService, hargs]

lemma ofService_inj :
    ofService program spec mode = ofService program' spec' mode' ↔
      program = program' ∧ spec.name = spec'.name ∧ spec.args = spec'.args ∧ mode = mode' := by
  rw [← args_ofService_inj program program']
  constructor
  · intro h
    exact ⟨congrArg Invocation.program h, congrArg service h, congrArg args h⟩
  · rintro ⟨hprogram, hname, hargs⟩
    rw [Invocation.mk.injEq]
    exact ⟨hname, hprogram, hargs⟩

/-- **The first separator parts the flags from the arguments of the service.** In front of it stand
`run` and the flags of the mode, behind it what the service is given, each whatever the other is.
So no two modes have the same arguments, and a command line tells its program, the service's name
and arguments, and the mode. -/
theorem separator_parts (program : Octets) (spec : Service) (mode : Mode) :
    let i := ofService program spec mode
    (i.args = i.taken ++ separator :: i.handedOn ∧ separator ∉ i.taken) ∧
      i.taken = ("run" :: mode.flags).map Utf8.encode ∧
      i.handedOn = spec.args.map Utf8.encode ∧
      (∀ program' spec', (ofService program' spec' mode).taken = i.taken) ∧
      (∀ program' mode', (ofService program' spec mode').handedOn = i.handedOn) ∧
      (∀ program' spec' mode', (ofService program' spec' mode').args = i.args ↔
        spec'.args = spec.args ∧ mode' = mode) ∧
      ∀ program' spec' mode', ofService program' spec' mode' = i ↔
        program' = program ∧ spec'.name = spec.name ∧ spec'.args = spec.args ∧ mode' = mode := by
  intro i
  refine ⟨⟨?_, ?_⟩, taken_ofService, handedOn_ofService, fun _ _ => ?_, fun _ _ => ?_,
    fun _ _ _ => args_ofService_inj _ _, fun _ _ _ => ofService_inj⟩
  · rw [taken_ofService, handedOn_ofService, args_ofService]
  · rw [taken_ofService]
    exact separator_notMem_flags mode
  · rw [taken_ofService, taken_ofService]
  · rw [handedOn_ofService, handedOn_ofService]

/-- A service whose arguments look like flags. -/
example :
    let spec : Service := ⟨"mirror", ["run", "--release", "--", "run"], .always⟩
    let i := ofService (Utf8.encode "cargo") spec .development
    i.taken = ["run"].map Utf8.encode ∧
      i.handedOn = ["run", "--release", "--", "run"].map Utf8.encode := by decide

end Invocation

end ServiceStack
