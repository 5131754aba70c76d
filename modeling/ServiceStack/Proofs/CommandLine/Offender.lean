import Mathlib.Data.List.Basic
import ServiceStack.Proofs.CommandLine.Grammar

/-!
The command lines that are refused for an argument.

In front of the first offender stands a sentence, which it cannot go on with. It alone decides what
is said: what comes behind it is not looked at, except that behind an unknown long name everything
has to be text. Whether a switch is given too often is asked only where nobody offends.
-/

namespace ServiceStack.CommandLine

/-! ### Offenders -/

/-- An argument of two dashes or more with a name, which ends before the first equals sign. -/
def LongName (arg name : Octets) : Prop :=
  [dash, dash] <+: arg ∧ 2 < arg.length ∧
    (arg.dropWhile (· == dash)).takeWhile (· != equals) = name

/-- An argument of one dash and some letters. -/
def Letters (arg : Octets) (cs : List Char) : Prop :=
  ∃ b bs, b ≠ dash ∧ arg = dash :: b :: bs ∧ Utf8.lossyChars (b :: bs) = cs

/-- A flag that settles nothing but asks for a text. -/
inductive Request where
  | help
  | version
deriving DecidableEq, Repr

namespace Request

def flag : Request → Flag
  | help => .help
  | version => .version

def letter : Request → Char
  | help => 'h'
  | version => 'V'

def offence : Request → Offence
  | help => .help
  | version => .version

def refusal : Request → Refusal
  | help => .help
  | version => .version

/-- An argument makes a request by its name, or by its letter behind `n` letters `v`. -/
def Made (q : Request) (n : Nat) (arg : Octets) : Prop :=
  (LongName arg (Utf8.encode q.flag.name) ∧ n = 0) ∨
    ∃ cs, Letters arg (List.replicate n 'v' ++ q.letter :: cs)

end Request

/-- How an argument offends, behind a lone `--` or not, and what it counts before that. -/
inductive Offends : Bool → Octets → List Flag → Offence → Prop
  | behind (arg : Octets) : Offends true arg [] (.positional arg)
  | bare {arg : Octets} (h : arg.head? ≠ some dash ∨ arg = [dash]) :
    Offends false arg [] (.positional arg)
  | long {arg name : Octets} (h : LongName arg name) (hf : ∀ f : Flag, Utf8.encode f.name ≠ name) :
    Offends false arg [] (.long name)
  | letter {arg : Octets} {n : Nat} {c : Char} {cs : List Char}
    (h : Letters arg (List.replicate n 'v' ++ c :: cs)) (hc : c ∉ ['v', 'h', 'V']) :
    Offends false arg (List.replicate n .verbose) (.letter c)
  | request {q : Request} {arg : Octets} {n : Nat} (h : q.Made n arg) :
    Offends false arg (List.replicate n .verbose) q.offence

/-- The first argument that neither gives switches nor is the first lone `--`. Behind a lone `--`
it is whatever comes next. -/
structure FirstOffender (argv : List Octets) (s : Sentence) (arg : Octets) (later : List Octets) :
    Prop where
  split : argv.tail = s.spelling ++ arg :: later
  stuck : s.closed = true ∨ arg ≠ [dash, dash] ∧ ∀ w : Word, w.spelling ≠ arg

variable {argv args : List Octets} {arg name : Octets} {s : Sentence} {later : List Octets}

/-- A command line is a sentence, or somebody offends. -/
lemma sentence_or_offender (argv : List Octets) :
    (∃ s : Sentence, s.spelling = argv.tail) ∨ ∃ s arg later, FirstOffender argv s arg later := by
  suffices h : ∀ args : List Octets, (∃ s : Sentence, s.spelling = args) ∨
      ∃ (s : Sentence) (arg : Octets) (later : List Octets), args = s.spelling ++ arg :: later ∧
        (s.closed = true ∨ arg ≠ [dash, dash] ∧ ∀ w : Word, w.spelling ≠ arg) by
    exact (h argv.tail).imp id fun ⟨s, arg, later, hsplit, hstuck⟩ =>
      ⟨s, arg, later, hsplit, hstuck⟩
  intro args
  induction args with
  | nil => exact .inl ⟨⟨[], false⟩, rfl⟩
  | cons a args ih =>
    by_cases hw : ∃ w : Word, w.spelling = a
    · obtain ⟨w, rfl⟩ := hw
      rcases ih with ⟨⟨ws, closed⟩, rfl⟩ | ⟨⟨ws, closed⟩, arg, later, rfl, hstuck⟩
      · exact .inl ⟨⟨w :: ws, closed⟩, rfl⟩
      · exact .inr ⟨⟨w :: ws, closed⟩, arg, later, rfl, hstuck⟩
    · by_cases hd : a = [dash, dash]
      · subst hd
        rcases args with _ | ⟨arg, later⟩
        · exact .inl ⟨⟨[], true⟩, rfl⟩
        · exact .inr ⟨⟨[], true⟩, arg, later, rfl, .inl rfl⟩
      · exact .inr ⟨⟨[], false⟩, a, args, rfl, .inr ⟨hd, fun w h => hw ⟨w, h⟩⟩⟩

/-! ### How the scan sees them -/

lemma form_eq_positional : form arg = .positional ↔ arg.head? ≠ some dash ∨ arg = [dash] := by
  rcases arg with _ | ⟨a, _ | ⟨b, bs⟩⟩
  · simp [form]
  · by_cases ha : a = dash <;> simp [form, ha]
  · by_cases ha : a = dash <;> by_cases hb : b = dash <;> by_cases hbs : bs = [] <;>
      simp [form, ha, hb, hbs]

lemma exists_offends (hs : s.closed = true ∨ arg ≠ [dash, dash] ∧ ∀ w : Word, w.spelling ≠ arg) :
    ∃ counted o, Offends s.closed arg counted o := by
  cases hc : s.closed with
  | true => exact ⟨[], _, .behind arg⟩
  | false =>
    obtain ⟨hd, hw⟩ := hs.resolve_left (by simp [hc])
    cases hf : form arg with
    | separator => exact absurd (form_eq_separator.mp hf) hd
    | positional => exact ⟨[], _, .bare (form_eq_positional.mp hf)⟩
    | long name =>
      have hl : LongName arg name := form_eq_long.mp hf
      by_cases hname : ∃ f : Flag, Utf8.encode f.name = name
      · obtain ⟨f, rfl⟩ := hname
        rcases exists_switch_or f with ⟨sw, rfl⟩ | rfl | rfl
        · obtain ⟨more, value, hsp⟩ := (exists_long_iff sw).mpr hf
          exact absurd hsp (hw _)
        · exact ⟨_, _, .request (q := .help) (.inl ⟨hl, rfl⟩)⟩
        · exact ⟨_, _, .request (q := .version) (.inl ⟨hl, rfl⟩)⟩
      · exact ⟨[], _, .long hl fun f h => hname ⟨f, h⟩⟩
    | letters cs =>
      have hl : Letters arg cs := form_eq_letters.mp hf
      rcases letters_cases cs with hv | ⟨n, c, cs', hc', rfl⟩
      · rw [hv] at hf
        obtain ⟨more, -, hsp⟩ := exists_bundle hf (by rw [readLetters_replicate])
        exact absurd hsp (hw _)
      · by_cases hh : c = 'h'
        · exact ⟨_, _, .request (q := .help) (.inr ⟨cs', hh ▸ hl⟩)⟩
        by_cases hV : c = 'V'
        · exact ⟨_, _, .request (q := .version) (.inr ⟨cs', hV ▸ hl⟩)⟩
        · exact ⟨_, _, .letter hl (by simp [hc', hh, hV])⟩

lemma Verdict.after_nil (v : Verdict) : v.after [] = v := by cases v <;> rfl

lemma Verdict.after_append (fs gs : List Flag) (v : Verdict) :
    v.after (fs ++ gs) = (v.after gs).after fs := by
  cases v <;> simp [Verdict.after]

lemma scan_words (ws : List Word) (args : List Octets) :
    scan (ws.map Word.spelling ++ args) = (scan args).after (ws.flatMap Word.flags) := by
  induction ws with
  | nil => exact (Verdict.after_nil _).symm
  | cons w ws ih =>
    rw [List.map_cons, List.cons_append, scan_word, ih, List.flatMap_cons, Verdict.after_append]

lemma scan_request {q : Request} {n : Nat} (h : q.Made n arg) (later : List Octets) :
    scan (arg :: later) = .stopped (List.replicate n .verbose) q.offence later := by
  have hmeet : ∀ next, meet q.flag next = ⟨[], some q.offence⟩ := by cases q <;> exact fun _ => rfl
  rcases h with ⟨hl, rfl⟩ | ⟨cs, hl⟩
  · rw [scan_long (form_eq_long.mpr hl), readLong, ofName?_eq_some.mpr rfl]
    simp [hmeet, Reading.onto]
  · have hletters : readLetters (q.letter :: cs) = ⟨[], some q.offence⟩ := by cases q <;> rfl
    rw [scan_letters (form_eq_letters.mpr hl), readLetters_replicate_append, hletters]
    simp [Reading.onto]

/-- The scan stops at an argument that offends. -/
lemma scan_offends {closed : Bool} {counted : List Flag} {o : Offence}
    (h : Offends closed arg counted o) (later : List Octets) :
    scan ((if closed then [[dash, dash]] else []) ++ arg :: later) = .stopped counted o later := by
  cases h with
  | behind => rfl
  | bare h => exact scan_positional (form_eq_positional.mpr h) later
  | @long _ name h hf =>
    have hnone : Flag.ofName? name = none := by
      cases hn : Flag.ofName? name with
      | none => rfl
      | some f => exact absurd (ofName?_eq_some.mp hn).symm (hf f)
    rw [if_neg (by simp), List.nil_append, scan_long (form_eq_long.mpr h), readLong, hnone]
    rfl
  | letter h hc =>
    simp only [List.mem_cons, List.not_mem_nil, or_false, not_or] at hc
    obtain ⟨hv, hh, hV⟩ := hc
    rw [if_neg (by simp), List.nil_append, scan_letters (form_eq_letters.mpr h),
      readLetters_replicate_append, readLetters_cons_of_ne hv, if_neg hh, if_neg hV,
      List.append_nil]
    rfl
  | request h => exact scan_request h later

namespace FirstOffender

variable {counted : List Flag} {o : Offence}

lemma scan_eq (h : FirstOffender argv s arg later) (ho : Offends s.closed arg counted o) :
    scan argv.tail = .stopped (s.flags ++ counted) o later := by
  rw [h.split, Sentence.spelling, List.append_assoc, scan_words, scan_offends ho]
  rfl

lemma parse_eq (h : FirstOffender argv s arg later) (ho : Offends s.closed arg counted o) :
    parse argv = .error (o.refusal (s.flags ++ counted) later) := by
  simp [parse, CommandLine.flags, h.scan_eq ho, Verdict.accept, Except.map]

lemma ne_nil (h : FirstOffender argv s arg later) : argv ≠ [] := by
  rintro rfl
  have := h.split
  simp at this

lemma append (h : FirstOffender argv s arg later) (more : List Octets) :
    FirstOffender (argv ++ more) s arg (later ++ more) where
  split := by rw [List.tail_append_of_ne_nil h.ne_nil, h.split]; simp
  stuck := h.stuck

lemma unique {s' : Sentence} {arg' : Octets} {later' : List Octets}
    (h : FirstOffender argv s arg later) (h' : FirstOffender argv s' arg' later') :
    s'.spelling = s.spelling ∧ arg' = arg ∧ later' = later := by
  obtain ⟨counted, o, ho⟩ := exists_offends h.stuck
  obtain ⟨counted', o', ho'⟩ := exists_offends h'.stuck
  have hlater : later' = later := by
    have := (h.scan_eq ho).symm.trans (h'.scan_eq ho')
    exact (Verdict.stopped.inj this).2.2.symm
  have hsplit := h'.split.symm.trans h.split
  rw [hlater] at hsplit
  obtain ⟨hs, hargs⟩ := List.append_inj' hsplit rfl
  exact ⟨hs, (List.cons.inj hargs).1, hlater⟩

end FirstOffender

/-! ### What is said of them -/

/-- A refusal for what one argument says. -/
def Refusal.ForArgument : Refusal → Prop
  | .unknown .. | .help | .version => True
  | .repeated .. | .notText => False

/-- An argument is a long name that is not known. Behind a lone `--` there are no names. -/
def UnknownLong (s : Sentence) (arg : Octets) : Prop :=
  s.closed = false ∧ ∃ name, LongName arg name ∧ ∀ f : Flag, Utf8.encode f.name ≠ name

lemma Offends.unique {closed : Bool} {counted counted' : List Flag} {o o' : Offence}
    (h : Offends closed arg counted o) (h' : Offends closed arg counted' o') :
    counted' = counted ∧ o' = o := by
  obtain ⟨hc, ho, -⟩ := Verdict.stopped.inj ((scan_offends h []).symm.trans (scan_offends h' []))
  exact ⟨hc.symm, ho.symm⟩

lemma Offends.request_iff {q : Request} {counted : List Flag} {o : Offence}
    (h : Offends s.closed arg counted o) :
    o = q.offence ↔ s.closed = false ∧ ∃ n, q.Made n arg := by
  constructor
  · rintro rfl
    generalize hc : s.closed = closed at h
    generalize ho : q.offence = o at h
    cases h with
    | @request q' _ n h =>
      -- the two requests have offences of their own
      obtain rfl : q = q' := by cases q <;> cases q' <;> simp_all [Request.offence]
      exact ⟨rfl, n, h⟩
    | _ => cases q <;> simp [Request.offence] at ho
  · rintro ⟨hc, n, hq⟩
    rw [hc] at h
    exact ((Offends.request hq).unique h).2

lemma Offends.long_iff {counted : List Flag} {o : Offence} (h : Offends s.closed arg counted o) :
    (∃ name, o = .long name) ↔ UnknownLong s arg := by
  constructor
  · rintro ⟨name, rfl⟩
    generalize ho : Offence.long name = o at h
    generalize hc : s.closed = closed at h
    cases h with
    | @long _ name' h hf => exact ⟨hc, name', h, hf⟩
    | @request q => cases q <;> simp [Request.offence] at ho
    | _ => simp at ho
  · rintro ⟨hc, name, hl, hf⟩
    rw [hc] at h
    exact ⟨name, ((Offends.long hl hf).unique h).2⟩

namespace Offence

variable {o : Offence} {counted : List Flag} {more : List Octets}

lemma refusal_long (name : Octets) (counted : List Flag) (later : List Octets) :
    (long name).refusal counted later = .notText ∨
      ∃ shown meant, (long name).refusal counted later = .unknown shown meant counted := by
  cases hd : Utf8.decode? name with
  | none => exact .inl (by simp [refusal, hd])
  | some t =>
    by_cases ht : later.all Utf8.isValid = true
    · exact .inr ⟨"--" ++ t, meant? t, by simp only [refusal, hd, ht, if_true]⟩
    · exact .inl (by simp [refusal, hd, ht])

lemma refusal_eq_request {q : Request} :
    o.refusal counted later = q.refusal ↔ o = q.offence := by
  cases o with
  | long name =>
    rcases refusal_long name counted later with h | ⟨_, _, h⟩ <;>
      cases q <;> simp [h, Request.refusal, Request.offence]
  | _ => cases q <;> simp [refusal, Request.refusal, Request.offence]

/-- More text behind an offender changes nothing, and what is no text only behind a long name. -/
lemma refusal_append (hm : more.all Utf8.isValid = true ∨ ¬ ∃ name, o = .long name) :
    o.refusal counted (later ++ more) = o.refusal counted later := by
  cases o with
  | long name =>
    have hvalid := hm.resolve_right (by simp)
    simp only [refusal, List.all_append, hvalid, Bool.and_true]
  | _ => rfl

lemma refusal_append_invalid (name : Octets) (hm : more.all Utf8.isValid = false) :
    (long name).refusal counted (later ++ more) = .notText := by
  cases hd : Utf8.decode? name <;> simp [refusal, hd, List.all_append, hm]

end Offence

lemma calledName_append (h : argv ≠ []) (more : List Octets) :
    calledName (argv ++ more) = calledName argv := by
  rw [calledName, List.head?_append_of_ne_nil _ h, calledName]

/-- What the first offender decides about a command line. -/
structure Decides (argv : List Octets) (s : Sentence) (arg : Octets) (later : List Octets) :
    Prop where
  /-- no other argument is the first offender -/
  only : ∀ s' arg' later', FirstOffender argv s' arg' later' →
    s'.spelling = s.spelling ∧ arg' = arg ∧ later' = later
  told : ∃ counted o, Offends s.closed arg counted o ∧
    parse argv = .error (o.refusal (s.flags ++ counted) later)
  requested : ∀ q : Request, parse argv = .error q.refusal ↔
    s.closed = false ∧ ∃ n, q.Made n arg
  /-- more arguments change nothing of what is said -/
  kept : ∀ r, parse argv = .error r → r.ForArgument → ∀ more,
    more.all Utf8.isValid = true ∨ ¬ UnknownLong s arg →
      parse (argv ++ more) = .error r ∧
        r.message (calledName (argv ++ more)) = r.message (calledName argv)
  /-- unless they have to be text and are not -/
  lost : UnknownLong s arg → ∀ more, more.all Utf8.isValid = false →
    parse (argv ++ more) = .error .notText
  unrepeated : ∀ f counted, parse argv ≠ .error (.repeated f counted)

lemma FirstOffender.decides (h : FirstOffender argv s arg later) : Decides argv s arg later := by
  obtain ⟨counted, o, ho⟩ := exists_offends h.stuck
  have hp := h.parse_eq ho
  have happ : ∀ more, parse (argv ++ more) =
      .error (o.refusal (s.flags ++ counted) (later ++ more)) := fun more =>
    (h.append more).parse_eq ho
  refine ⟨fun _ _ _ h' => h.unique h', ⟨counted, o, ho, hp⟩, fun q => ?_, ?_, ?_, ?_⟩
  · rw [hp, Except.error.injEq, Offence.refusal_eq_request, ho.request_iff]
  · intro r hr _ more hm
    rw [← ho.long_iff] at hm
    refine ⟨?_, by rw [calledName_append h.ne_nil]⟩
    rw [happ, Offence.refusal_append hm, ← hp, hr]
  · intro hu more hm
    obtain ⟨name, rfl⟩ := ho.long_iff.mpr hu
    rw [happ, Offence.refusal_append_invalid name hm]
  · intro f fs hr
    rw [hp] at hr
    exact refusal_ne_repeated o _ later f fs (Except.error.inj hr)

/-- **The first offender decides a command line.** A refusal for an argument is one for the first
offender: the first argument that neither gives switches nor is the first lone `--`. More arguments
change nothing of it, and they need not even be text, unless it is an unknown long name. The help
and the version are given exactly if the first offender stands before any lone `--` and asks for
them, and a switch is refused as repeated only where nobody offends. -/
theorem first_offender_decides (argv : List Octets) :
    (∀ s arg later, FirstOffender argv s arg later → Decides argv s arg later) ∧
      (∀ r, parse argv = .error r → r.ForArgument →
        (∃ s arg later, FirstOffender argv s arg later) ∧
          ∀ more, more.all Utf8.isValid = true → parse (argv ++ more) = .error r ∧
            r.message (calledName (argv ++ more)) = r.message (calledName argv)) ∧
      ∀ f counted, parse argv = .error (.repeated f counted) →
        (∃ s : Sentence, s.spelling = argv.tail) ∧ ¬ ∃ s arg later, FirstOffender argv s arg later := by
  refine ⟨fun s arg later h => h.decides, fun r hr hfor => ?_, fun f counted hr => ⟨?_, ?_⟩⟩
  · rcases sentence_or_offender argv with ⟨s, hs⟩ | ⟨s, arg, later, h⟩
    · -- a sentence is refused for switches alone
      rw [parse_sentence hs] at hr
      split_ifs at hr <;> cases hr <;> exact hfor.elim
    · exact ⟨⟨s, arg, later, h⟩, fun more hm => h.decides.kept r hr hfor more (.inl hm)⟩
  · obtain ⟨s, hs, -⟩ := parse_eq_repeated.mp hr
    exact ⟨s, hs⟩
  · rintro ⟨s, arg, later, h⟩
    exact h.decides.unrepeated f counted hr

/-- Behind an unknown letter octets that are no text change nothing, nor does a switch that is given
again; behind an unknown long name they do. -/
theorem first_offender_decides_letter :
    let argv := ["stackrc", "--alice", "-vx"].map Utf8.encode
    let argv' := ["stackrc", "-v", "--debug"].map Utf8.encode
    let more := [[0xFF], Utf8.encode "--alice"]
    FirstOffender argv ⟨[.long 0 .alice none], false⟩ (Utf8.encode "-vx") [] ∧
      parse argv = .error (.unknown "-x" none [.alice, .verbose]) ∧
      parse (argv ++ more) = .error (.unknown "-x" none [.alice, .verbose]) ∧
      FirstOffender argv' ⟨[.bundle 0], false⟩ (Utf8.encode "--debug") [] ∧
      parse (argv' ++ more) = .error .notText := by
  intro argv argv' more
  have h : FirstOffender argv ⟨[.long 0 .alice none], false⟩ (Utf8.encode "-vx") [] := by
    refine ⟨rfl, .inr ⟨by decide, ?_⟩⟩
    rintro (⟨n, sw, value⟩ | n) hw
    · cases (List.cons.inj (List.cons.inj hw).2).1
    · rcases n with _ | n
      · cases hw
      · cases (List.cons.inj (List.cons.inj (List.cons.inj hw).2).2).1
  have h' : FirstOffender argv' ⟨[.bundle 0], false⟩ (Utf8.encode "--debug") [] := by
    refine ⟨rfl, .inr ⟨by decide, ?_⟩⟩
    rintro (⟨n, sw, value⟩ | n) hw
    · have ht := (List.cons.inj (List.cons.inj hw).2).2
      rcases n with _ | n
      · cases sw <;> cases (List.cons.inj ht).1
      · cases (List.cons.inj ht).1
    · cases (List.cons.inj (List.cons.inj hw).2).1
  have hp : parse argv = .error (.unknown "-x" none [.alice, .verbose]) := rfl
  refine ⟨h, hp, ?_, h', ?_⟩
  · have hletter : ¬ UnknownLong ⟨[.long 0 .alice none], false⟩ (Utf8.encode "-vx") :=
      fun ⟨_, _, hl, _⟩ => absurd hl.1 (by decide)
    exact (((first_offender_decides argv).1 _ _ _ h).kept _ hp trivial more (.inr hletter)).1
  · have hlong : UnknownLong ⟨[.bundle 0], false⟩ (Utf8.encode "--debug") :=
      ⟨rfl, Utf8.encode "debug", ⟨by decide, by decide, rfl⟩, fun f => by cases f <;> decide⟩
    exact ((first_offender_decides argv').1 _ _ _ h').lost hlong more rfl

end ServiceStack.CommandLine
