import Mathlib.Tactic.SplitIfs
import ServiceStack.Proofs.CommandLine.Sentence
import ServiceStack.Proofs.Text.Utf8

/-!
The command lines that are acted upon.

Each form of an argument is compared with the words that have it. From this, one argument after
the other, the scan runs to its end exactly on the sentences, and counts the flags of their words;
only then it matters how often a switch was given.
-/

namespace ServiceStack.CommandLine

/-! ### The forms of arguments -/

variable {arg name : Octets}

lemma undashed_replicate (n : Nat) (bs : Octets) :
    undashed (List.replicate n dash ++ bs) = undashed bs := by
  induction n with
  | zero => rfl
  | succ n ih => rw [List.replicate_succ, List.cons_append, ← ih]; rfl

lemma undashed_of_ne {b : UInt8} (hb : b ≠ dash) (bs : Octets) : undashed (b :: bs) = b :: bs := by
  simp [undashed, hb]

lemma form_eq_separator : form arg = .separator ↔ arg = [dash, dash] := by
  rcases arg with _ | ⟨a, _ | ⟨b, bs⟩⟩
  · simp [form]
  · by_cases ha : a = dash <;> simp [form, ha]
  · by_cases ha : a = dash <;> by_cases hb : b = dash <;> by_cases hbs : bs = [] <;>
      simp [form, ha, hb, hbs]

lemma form_eq_long :
    form arg = .long name ↔
      [dash, dash] <+: arg ∧ 2 < arg.length ∧ (undashed arg).takeWhile (· != equals) = name := by
  rcases arg with _ | ⟨a, _ | ⟨b, bs⟩⟩
  · simp [form]
  · by_cases ha : a = dash <;> simp [form, ha]
  · by_cases ha : a = dash <;> by_cases hb : b = dash <;> by_cases hbs : bs = [] <;>
      simp [form, ha, hb, hbs, equals, List.length_pos_iff, @eq_comm _ dash]

lemma form_eq_letters {cs : List Char} :
    form arg = .letters cs ↔
      ∃ b bs, b ≠ dash ∧ arg = dash :: b :: bs ∧ Utf8.lossyChars (b :: bs) = cs := by
  constructor
  · intro h
    rcases arg with _ | ⟨a, _ | ⟨b, bs⟩⟩
    · simp [form] at h
    · by_cases ha : a = dash <;> simp [form, ha] at h
    · by_cases ha : a = dash
      · subst ha
        by_cases hb : b = dash
        · by_cases hbs : bs = [] <;> simp [form, hb, hbs] at h
        · exact ⟨b, bs, hb, rfl, by simpa [form, hb, undashed] using h⟩
      · simp [form, ha] at h
  · rintro ⟨b, bs, hb, rfl, rfl⟩
    simp [form, hb, undashed]

lemma encode_name (sw : Switch) :
    (∃ b bs, b ≠ dash ∧ Utf8.encode sw.flag.name = b :: bs) ∧
      (Utf8.encode sw.flag.name).all (· != equals) = true := by
  cases sw
  · exact ⟨⟨_, _, by decide, rfl⟩, rfl⟩
  · exact ⟨⟨_, _, by decide, rfl⟩, rfl⟩
  · exact ⟨⟨_, _, by decide, rfl⟩, rfl⟩

lemma exists_undashed (arg : Octets) : ∃ n, arg = List.replicate n dash ++ undashed arg := by
  induction arg with
  | nil => exact ⟨0, rfl⟩
  | cons a as ih =>
    by_cases ha : a = dash
    · obtain ⟨n, hn⟩ := ih
      refine ⟨n + 1, ?_⟩
      have hu : undashed (a :: as) = undashed as := by simp [undashed, ha]
      rw [hu, List.replicate_succ, List.cons_append, ← hn, ha]
    · exact ⟨0, (undashed_of_ne ha as).symm⟩

lemma exists_value (bs : Octets) :
    ∃ value : Option Octets, bs.dropWhile (· != equals) = value.elim [] (equals :: ·) := by
  rcases hd : bs.dropWhile (· != equals) with _ | ⟨c, cs⟩
  · exact ⟨none, rfl⟩
  · have hc : c = equals := by
      have := List.head?_dropWhile_not (· != equals) bs
      simpa [hd] using this
    exact ⟨some cs, by rw [hc]; rfl⟩

lemma exists_long_iff (sw : Switch) :
    (∃ more value, (Word.long more sw value).spelling = arg) ↔
      form arg = .long (Utf8.encode sw.flag.name) := by
  obtain ⟨⟨b, bs, hb, hn⟩, heq⟩ := encode_name sw
  rw [form_eq_long]
  constructor
  · rintro ⟨more, value, rfl⟩
    refine ⟨⟨_, rfl⟩, ?_, ?_⟩
    · simp [Word.spelling, hn]
      omega
    · -- the name holds no equals sign, so it goes up to the value or to the end
      rw [Word.spelling, undashed_replicate, hn, List.cons_append, undashed_of_ne hb,
        ← List.cons_append, ← hn, List.takeWhile_append_of_pos (List.all_eq_true.mp heq)]
      cases value <;> simp
  · -- the other way the dashes and the value are read off the argument
    rintro ⟨⟨t, rfl⟩, -, hname⟩
    have ht : undashed ([dash, dash] ++ t) = undashed t := undashed_replicate 2 t
    obtain ⟨more, hmore⟩ := exists_undashed t
    obtain ⟨value, hv⟩ := exists_value (undashed t)
    have hrest : undashed t = Utf8.encode sw.flag.name ++ value.elim [] (equals :: ·) := by
      rw [← hname, ht, ← hv, List.takeWhile_append_dropWhile]
    refine ⟨more, value, ?_⟩
    rw [Word.spelling, ← hrest]
    exact congrArg (fun bs => dash :: dash :: bs) hmore.symm

lemma bundle_spelling_iff (more : Nat) :
    (Word.bundle more).spelling = arg ↔ form arg = .letters (List.replicate (more + 1) 'v') := by
  have hv : 'v' = Char.ofNat letterV.toNat := rfl
  have hl : letterV.toNat < 0x80 := by decide
  rw [form_eq_letters, hv]
  constructor
  · rintro rfl
    exact ⟨letterV, List.replicate more letterV, by decide, rfl,
      (Utf8.lossyChars_eq_replicate hl).mpr rfl⟩
  · rintro ⟨b, bs, -, rfl, h⟩
    exact congrArg (dash :: ·) ((Utf8.lossyChars_eq_replicate hl).mp h).symm

/-! ### What the scan counts -/

lemma ofName?_eq_some {f : Flag} : Flag.ofName? name = some f ↔ name = Utf8.encode f.name := by
  constructor
  · intro h
    unfold Flag.ofName? at h
    have := List.find?_some h
    exact (eq_of_beq this).symm
  · rintro rfl
    cases f <;> rfl

lemma exists_switch_or (f : Flag) : (∃ sw : Switch, sw.flag = f) ∨ f = .help ∨ f = .version := by
  cases f with
  | release => exact .inl ⟨.release, rfl⟩
  | alice => exact .inl ⟨.alice, rfl⟩
  | verbose => exact .inl ⟨.verbose, rfl⟩
  | help => exact .inr (.inl rfl)
  | version => exact .inr (.inr rfl)

lemma readLong_encode (sw : Switch) :
    readLong (Utf8.encode sw.flag.name) = ⟨[sw.flag], none⟩ := by
  rw [readLong, ofName?_eq_some.mpr rfl]
  cases sw <;> rfl

lemma exists_of_readLong (h : (readLong name).offence = none) :
    ∃ sw : Switch, name = Utf8.encode sw.flag.name := by
  unfold readLong at h
  rcases hf : Flag.ofName? name with _ | f
  · simp [hf] at h
  · rcases exists_switch_or f with ⟨sw, rfl⟩ | rfl | rfl
    · exact ⟨sw, ofName?_eq_some.mp hf⟩
    · simp [hf, meet] at h
    · simp [hf, meet] at h

/-- Letters are all of them `v`, or there is a first other one. -/
lemma letters_cases (cs : List Char) :
    cs = List.replicate cs.length 'v' ∨
      ∃ n c cs', c ≠ 'v' ∧ cs = List.replicate n 'v' ++ c :: cs' := by
  induction cs with
  | nil => exact .inl rfl
  | cons c cs ih =>
    by_cases hc : c = 'v'
    · subst hc
      rcases ih with h | ⟨n, d, cs', hd, rfl⟩
      · exact .inl (by rw [List.length_cons, List.replicate_succ, ← h])
      · exact .inr ⟨n + 1, d, cs', hd, rfl⟩
    · exact .inr ⟨0, c, cs, hc, rfl⟩

lemma readLetters_replicate_append (n : Nat) (cs : List Char) :
    readLetters (List.replicate n 'v' ++ cs) =
      ⟨List.replicate n .verbose ++ (readLetters cs).counted, (readLetters cs).offence⟩ := by
  induction n with
  | zero => rfl
  | succ n ih =>
    simp [List.replicate_succ, readLetters, Flag.ofLetter?, meet, Reading.count, ih]

lemma readLetters_replicate (n : Nat) :
    readLetters (List.replicate n 'v') = ⟨List.replicate n .verbose, none⟩ := by
  simpa [readLetters] using readLetters_replicate_append n []

lemma readLetters_cons_of_ne {c : Char} (hc : c ≠ 'v') (cs : List Char) :
    readLetters (c :: cs) =
      ⟨[], some (if c = 'h' then .help else if c = 'V' then .version else .letter c)⟩ := by
  by_cases hh : c = 'h'
  · subst hh
    rfl
  by_cases hV : c = 'V'
  · subst hV
    rfl
  have hnone : Flag.ofLetter? c = none := by
    unfold Flag.ofLetter?
    split <;> simp_all
  simp [readLetters, hnone, hh, hV]

lemma eq_of_readLetters {cs : List Char} (h : (readLetters cs).offence = none) :
    cs = List.replicate cs.length 'v' := by
  rcases letters_cases cs with hv | ⟨n, c, cs', hc, rfl⟩
  · exact hv
  · rw [readLetters_replicate_append, readLetters_cons_of_ne hc] at h
    cases h

lemma exists_bundle {cs : List Char} (hf : form arg = .letters cs)
    (ho : (readLetters cs).offence = none) :
    ∃ more, cs = List.replicate (more + 1) 'v' ∧ (Word.bundle more).spelling = arg := by
  have hcs := eq_of_readLetters ho
  rcases hn : cs.length with _ | more
  · -- behind the dash there is at least one letter
    obtain ⟨b, bs, -, -, hl⟩ := form_eq_letters.mp hf
    rw [hcs, hn] at hl
    exact absurd ((Utf8.lossyChars_eq_replicate (a := letterV) (by decide)).mp hl) (by simp)
  · rw [hn] at hcs
    exact ⟨more, hcs, (bundle_spelling_iff more).mpr (hcs ▸ hf)⟩

lemma onto_eq_complete {r : Reading} {later : List Octets} {rest : Verdict} {fs : List Flag} :
    r.onto later rest = .complete fs ↔
      r.offence = none ∧ ∃ gs, rest = .complete gs ∧ r.counted ++ gs = fs := by
  rcases r with ⟨counted, _ | o⟩
  · cases rest <;> simp [Reading.onto, Verdict.after]
  · simp [Reading.onto]

lemma scan_word (w : Word) (args : List Octets) :
    scan (w.spelling :: args) = (scan args).after w.flags := by
  cases w with
  | long more sw value =>
    rw [scan_long ((exists_long_iff sw).mp ⟨more, value, rfl⟩), readLong_encode]
    rfl
  | bundle more =>
    rw [scan_letters ((bundle_spelling_iff more).mp rfl), readLetters_replicate]
    rfl

/-- The scan goes on only behind a word, and ends only at its end or at a lone `--`. -/
lemma scan_cons_complete {args : List Octets} {fs : List Flag}
    (h : scan (arg :: args) = .complete fs) :
    (arg = [dash, dash] ∧ args = [] ∧ fs = []) ∨
      ∃ (w : Word) (gs : List Flag), w.spelling = arg ∧ scan args = .complete gs ∧
        w.flags ++ gs = fs := by
  cases hf : form arg with
  | separator =>
    rcases args with _ | ⟨a, later⟩
    · exact .inl ⟨form_eq_separator.mp hf, rfl, by simpa [scan, hf] using h.symm⟩
    · simp [scan, hf] at h
  | positional => simp [scan_positional hf] at h
  | long name =>
    rw [scan_long hf, onto_eq_complete] at h
    obtain ⟨ho, gs, hgs, hfs⟩ := h
    obtain ⟨sw, rfl⟩ := exists_of_readLong ho
    obtain ⟨more, value, hw⟩ := (exists_long_iff sw).mpr hf
    rw [readLong_encode] at hfs
    exact .inr ⟨_, gs, hw, hgs, hfs⟩
  | letters cs =>
    rw [scan_letters hf, onto_eq_complete] at h
    obtain ⟨ho, gs, hgs, hfs⟩ := h
    obtain ⟨more, rfl, hw⟩ := exists_bundle hf ho
    rw [readLetters_replicate] at hfs
    exact .inr ⟨_, gs, hw, hgs, hfs⟩

/-- **The scan** runs to its end exactly on the sentences, and counts their flags. -/
lemma scan_eq_complete {args : List Octets} {fs : List Flag} :
    scan args = .complete fs ↔ ∃ s : Sentence, s.spelling = args ∧ s.flags = fs := by
  constructor
  · intro h
    induction args generalizing fs with
    | nil => exact ⟨⟨[], false⟩, rfl, Verdict.complete.inj h⟩
    | cons arg args ih =>
      rcases scan_cons_complete h with ⟨rfl, rfl, rfl⟩ | ⟨w, gs, rfl, hgs, rfl⟩
      · exact ⟨⟨[], true⟩, rfl, rfl⟩
      · obtain ⟨⟨ws, closed⟩, rfl, rfl⟩ := ih hgs
        exact ⟨⟨w :: ws, closed⟩, rfl, rfl⟩
  · rintro ⟨⟨ws, closed⟩, rfl, rfl⟩
    induction ws with
    | nil => cases closed <;> rfl
    | cons w ws ih =>
      have hs : (Sentence.mk (w :: ws) closed).spelling =
          w.spelling :: (Sentence.mk ws closed).spelling := rfl
      rw [hs, scan_word, ih]
      rfl

/-! ### What is made of a command line -/

lemma refusal_ne_repeated (o : Offence) (counted : List Flag) (later : List Octets) (f : Flag)
    (fs : List Flag) : o.refusal counted later ≠ .repeated f fs := by
  cases o with
  | long name =>
    cases hd : Utf8.decode? name with
    | some t => by_cases ht : later.all Utf8.isValid = true <;> simp [Offence.refusal, hd, ht]
    | none => simp [Offence.refusal, hd]
  | _ => simp [Offence.refusal]

/-- A sentence is looked through for switches given too often. -/
lemma parse_sentence {argv : List Octets} {s : Sentence} (hs : s.spelling = argv.tail) :
    parse argv =
      if 1 < s.times .release then .error (.repeated .release s.flags)
      else if 1 < s.times .alice then .error (.repeated .alice s.flags)
      else .ok s.settings := by
  have hscan : scan argv.tail = .complete s.flags := scan_eq_complete.mpr ⟨s, hs, rfl⟩
  simp only [parse, CommandLine.flags, hscan, Verdict.accept, s.overused?_flags]
  by_cases hr : 1 < s.times .release
  · simp [hr, Except.map]
  · by_cases ha : 1 < s.times .alice <;> simp [hr, ha, Except.map, s.settings_eq]

lemma parse_offence {argv : List Octets} (hs : ¬ ∃ s : Sentence, s.spelling = argv.tail) :
    ∃ (o : Offence) (counted : List Flag) (later : List Octets),
      parse argv = .error (o.refusal counted later) := by
  rcases hscan : scan argv.tail with fs | ⟨counted, o, later⟩
  · obtain ⟨s, h, -⟩ := scan_eq_complete.mp hscan
    exact absurd ⟨s, h⟩ hs
  · exact ⟨o, counted, later, by simp [parse, CommandLine.flags, hscan, Verdict.accept, Except.map]⟩

lemma parse_eq_ok {argv : List Octets} {settings : Settings} :
    parse argv = .ok settings ↔
      ∃ s : Sentence, s.spelling = argv.tail ∧ s.times .release ≤ 1 ∧ s.times .alice ≤ 1 ∧
        s.settings = settings := by
  constructor
  · intro h
    by_cases hs : ∃ s : Sentence, s.spelling = argv.tail
    · obtain ⟨s, hs⟩ := hs
      rw [parse_sentence hs] at h
      split_ifs at h with hr ha
      exact ⟨s, hs, by omega, by omega, Except.ok.inj h⟩
    · obtain ⟨o, counted, later, he⟩ := parse_offence hs
      rw [he] at h
      cases h
  · rintro ⟨s, hs, hr, ha, rfl⟩
    rw [parse_sentence hs, if_neg (by omega), if_neg (by omega)]

lemma parse_eq_repeated {argv : List Octets} {f : Flag} {counted : List Flag} :
    parse argv = .error (.repeated f counted) ↔
      ∃ s : Sentence, s.spelling = argv.tail ∧ s.flags = counted ∧
        (f = .release ∧ 1 < s.times .release ∨
          f = .alice ∧ s.times .release ≤ 1 ∧ 1 < s.times .alice) := by
  constructor
  · intro h
    by_cases hs : ∃ s : Sentence, s.spelling = argv.tail
    · obtain ⟨s, hs⟩ := hs
      rw [parse_sentence hs] at h
      split_ifs at h with hr ha
      · obtain ⟨rfl, rfl⟩ := Refusal.repeated.inj (Except.error.inj h)
        exact ⟨s, hs, rfl, .inl ⟨rfl, hr⟩⟩
      · obtain ⟨rfl, rfl⟩ := Refusal.repeated.inj (Except.error.inj h)
        exact ⟨s, hs, rfl, .inr ⟨rfl, by omega, ha⟩⟩
    · obtain ⟨o, fs, later, he⟩ := parse_offence hs
      rw [he] at h
      exact absurd (Except.error.inj h) (refusal_ne_repeated o fs later f counted)
  · rintro ⟨s, hs, rfl, ⟨rfl, hr⟩ | ⟨rfl, hr, ha⟩⟩
    · rw [parse_sentence hs, if_pos hr]
    · rw [parse_sentence hs, if_neg (by omega), if_pos ha]

/-- **The command lines that are acted upon** are the sentences in which `release` and `alice`
are given at most once, and they are acted upon as they read; a sentence that gives one of the two
more often is refused for it. The last part reads the long words off their octets. -/
theorem parse_grammar (argv : List Octets) :
    (∀ settings, parse argv = .ok settings ↔
      ∃ s : Sentence, s.spelling = argv.tail ∧ s.times .release ≤ 1 ∧ s.times .alice ≤ 1 ∧
        s.settings = settings) ∧
    (∀ f counted, parse argv = .error (.repeated f counted) ↔
      ∃ s : Sentence, s.spelling = argv.tail ∧ s.flags = counted ∧
        (f = .release ∧ 1 < s.times .release ∨
          f = .alice ∧ s.times .release ≤ 1 ∧ 1 < s.times .alice)) ∧
    (∀ s : Sentence, s.settings = .standard ↔ ∀ sw, s.times sw = 0) ∧
    ∀ sw arg, (∃ more value, (Word.long more sw value).spelling = arg) ↔
      [dash, dash] <+: arg ∧ 2 < arg.length ∧
        (arg.dropWhile (· == dash)).takeWhile (· != equals) = Utf8.encode sw.flag.name :=
  ⟨fun _ => parse_eq_ok, fun _ _ => parse_eq_repeated, Sentence.settings_eq_standard,
    fun sw _ => (exists_long_iff sw).trans form_eq_long⟩

example : parse (["stackrc", "---release=no", "-vv", "--verbose", "--"].map Utf8.encode) =
    .ok { Settings.standard with mode := .release, verbosity := 3 } := rfl

end ServiceStack.CommandLine
