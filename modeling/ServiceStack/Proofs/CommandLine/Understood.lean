import ServiceStack.Proofs.CommandLine.Offender

/-!
The usage line of a refusal.

A refused command line has given some flags before it is refused: those of the sentence in front of
the first offender and those of the letters in front of the offending one, or all of them where
nobody offends. The usage line tells these and the suggested one, as a set.
-/

namespace ServiceStack.CommandLine

/-- A command line gives a flag before it is refused. -/
inductive Given (argv : List Octets) (f : Flag) : Prop
  /-- in front of the first offender -/
  | before {s : Sentence} {arg : Octets} {later : List Octets} (h : FirstOffender argv s arg later)
    (hf : f ∈ s.flags)
  /-- by a letter in front of the offending one -/
  | within {s : Sentence} {arg : Octets} {later : List Octets} {counted : List Flag} {o : Offence}
    (h : FirstOffender argv s arg later) (ho : Offends s.closed arg counted o) (hf : f ∈ counted)
  /-- anywhere, as nobody offends -/
  | anywhere {s : Sentence} (h : s.spelling = argv.tail) (hf : f ∈ s.flags)

namespace Refusal

/-- A refusal with a usage line. -/
def TellsUsage : Refusal → Prop
  | .unknown .. | .repeated .. => True
  | .help | .version | .notText => False

/-- The flag that a refusal suggests. -/
def suggested? : Refusal → Option Flag
  | .unknown _ meant _ => meant
  | _ => none

/-- What a refusal says before its usage line. -/
def headline : Refusal → String
  | .unknown arg meant _ => "error: Found argument '" ++ arg ++
      "' which wasn't expected, or isn't valid in this context" ++ suggestion meant
  | .repeated f _ => "error: The argument '--" ++ f.name ++
      "' was provided more than once, but cannot be used multiple times"
  | _ => ""

def usageLine (r : Refusal) (name : String) : String := usage name r.understood

lemma append_ending (front usageLine : String) :
    front ++ ending usageLine = front ++ "\n\nUSAGE:\n    " ++ usageLine ++
      "\n\nFor more information try --help" := by
  rw [ending]
  generalize "\n\nUSAGE:\n    " = title
  generalize "\n\nFor more information try --help" = advice
  rw [String.append_assoc, String.append_assoc, String.append_assoc]

lemma message_eq {r : Refusal} (hr : r.TellsUsage) (name : String) :
    r.message name = r.headline ++ "\n\nUSAGE:\n    " ++ r.usageLine name ++
      "\n\nFor more information try --help" := by
  rw [← append_ending]
  unfold message headline usageLine
  cases r with
  | unknown arg meant counted => rfl
  | repeated f counted => rfl
  | _ => exact hr.elim

end Refusal

/-- A flag that is given or suggested. -/
def Understood (argv : List Octets) (r : Refusal) (f : Flag) : Prop :=
  Given argv f ∨ r.suggested? = some f

variable {argv : List Octets} {r : Refusal} {f : Flag}

/-- What is given is what the scan has counted where it ends. -/
lemma given_iff : Given argv f ↔ f ∈ (scan argv.tail).counted := by
  constructor
  · rintro (⟨h, hf⟩ | ⟨h, ho, hf⟩ | ⟨h, hf⟩)
    · obtain ⟨counted, o, ho⟩ := exists_offends h.stuck
      rw [h.scan_eq ho]
      exact List.mem_append_left _ hf
    · rw [h.scan_eq ho]
      exact List.mem_append_right _ hf
    · rw [scan_eq_complete.mpr ⟨_, h, rfl⟩]
      exact hf
  · intro hf
    rcases sentence_or_offender argv with ⟨s, hs⟩ | ⟨s, arg, later, h⟩
    · rw [scan_eq_complete.mpr ⟨s, hs, rfl⟩] at hf
      exact .anywhere hs hf
    · obtain ⟨counted, o, ho⟩ := exists_offends h.stuck
      rw [h.scan_eq ho] at hf
      rcases List.mem_append.mp hf with hf | hf
      · exact .before h hf
      · exact .within h ho hf

lemma Offence.understood_refusal {o : Offence} {counted : List Flag} {later : List Octets}
    (hr : (o.refusal counted later).TellsUsage) :
    (o.refusal counted later).understood =
      counted ++ (o.refusal counted later).suggested?.toList := by
  cases o with
  | long name =>
    rcases refusal_long name counted later with h | ⟨_, _, h⟩ <;> rw [h] at hr ⊢
    · exact hr.elim
    · rfl
  | positional arg => rfl
  | letter c => rfl
  | help => exact hr.elim
  | version => exact hr.elim

lemma understood_eq (hp : parse argv = .error r) (hr : r.TellsUsage) :
    r.understood = (scan argv.tail).counted ++ r.suggested?.toList := by
  rcases hs : scan argv.tail with fs | ⟨counted, o, later⟩
  · obtain ⟨s, hsp, rfl⟩ := scan_eq_complete.mp hs
    rw [parse_sentence hsp] at hp
    split_ifs at hp <;> cases hp <;> exact (List.append_nil _).symm
  · have ho : o.refusal counted later = r := by
      simpa [parse, flags, hs, Verdict.accept, Except.map] using hp
    subst ho
    exact o.understood_refusal hr

lemma mem_understood (hp : parse argv = .error r) (hr : r.TellsUsage) :
    f ∈ r.understood ↔ Understood argv r f := by
  rw [understood_eq hp hr, List.mem_append, ← given_iff, Option.mem_toList]
  rfl

lemma usage_congr (name : String) {fs gs : List Flag} (h : ∀ f, f ∈ fs ↔ f ∈ gs) :
    usage name fs = usage name gs := by
  have hnil : fs = [] ↔ gs = [] := by simp only [List.eq_nil_iff_forall_not_mem, h]
  simp only [usage, hnil, h]

lemma filter_told_eq_nil (fs : List Flag) : Flag.told.filter (· ∈ fs) = [] ↔ fs = [] := by
  rw [List.filter_eq_nil_iff, List.eq_nil_iff_forall_not_mem]
  simp only [decide_eq_true_eq]
  exact ⟨fun h f => h f f.mem_told, fun h f _ => h f⟩

/-- **The usage line tells what was understood.** It has each flag that was given before the refusal
or is suggested, once and in a fixed order, and no other one; so it goes by the name and the set of
these flags. -/
theorem usage_understood (hp : parse argv = .error r) (hr : r.TellsUsage) :
    let name := calledName argv
    r.message name = r.headline ++ "\n\nUSAGE:\n    " ++ r.usageLine name ++
        "\n\nFor more information try --help" ∧
      (∃ fs : List Flag, fs.Sublist [.alice, .help, .release, .version, .verbose] ∧
        (∀ f, f ∈ fs ↔ Understood argv r f) ∧
        r.usageLine name = if fs = [] then name ++ " [FLAGS]"
          else name ++ String.join (fs.map fun f => " --" ++ f.name)) ∧
      ∀ argv' r', parse argv' = .error r' → r'.TellsUsage → calledName argv' = name →
        (∀ f, Understood argv' r' f ↔ Understood argv r f) →
          r'.usageLine (calledName argv') = r.usageLine name := by
  intro name
  refine ⟨r.message_eq hr name, ⟨Flag.told.filter (· ∈ r.understood), ?_, fun f => ?_, ?_⟩, ?_⟩
  · exact List.filter_sublist
  · rw [List.mem_filter, decide_eq_true_eq, mem_understood hp hr]
    exact and_iff_right f.mem_told
  · simp only [Refusal.usageLine, usage, filter_told_eq_nil]
  · intro argv' r' hp' hr' hname hsame
    rw [hname]
    refine usage_congr name fun f => ?_
    rw [mem_understood hp hr, mem_understood hp' hr', hsame]

/-- Two command lines that give the same flags in other ways, up to the same unknown name. -/
theorem usage_understood_release :
    let argv := ["/bin/x", "-v", "--alice", "--verbose", "--relase", "--help"].map Utf8.encode
    let argv' := ["x", "---alice=1", "-vvv", "--relase"].map Utf8.encode
    let r := Refusal.unknown "--relase" (some .release) [.verbose, .alice, .verbose]
    let r' := Refusal.unknown "--relase" (some .release) [.alice, .verbose, .verbose, .verbose]
    parse argv = .error r ∧ parse argv' = .error r' ∧ calledName argv' = calledName argv ∧
      (∀ f, Understood argv' r' f ↔ Understood argv r f) ∧
      r.message (calledName argv) = r.headline ++ "\n\nUSAGE:\n    " ++
        "x --alice --release --verbose" ++ "\n\nFor more information try --help" ∧
      r'.usageLine (calledName argv') = r.usageLine (calledName argv) := by
  intro argv argv' r r'
  have hp : parse argv = .error r := by decide +kernel
  have hp' : parse argv' = .error r' := by decide +kernel
  have hname : calledName argv' = calledName argv := by decide +kernel
  have hsame : ∀ f, Understood argv' r' f ↔ Understood argv r f := by
    intro f
    rw [← mem_understood hp trivial, ← mem_understood hp' trivial]
    cases f <;> decide
  have hline : r.usageLine (calledName argv) = "x --alice --release --verbose" := by decide +kernel
  obtain ⟨hm, -, hcongr⟩ := usage_understood hp trivial
  rw [hline] at hm
  exact ⟨hp, hp', hname, hsame, hm, hcongr argv' r' hp' trivial hname hsame⟩

end ServiceStack.CommandLine
