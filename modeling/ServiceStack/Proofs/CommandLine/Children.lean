import ServiceStack.Proofs.CommandLine.Grammar
import ServiceStack.Proofs.Supervisor.Run

/-!
From a command line to the processes it starts.

Two things are read off a command line for this: whether `--release` is given and whether `--alice`
is. They fix the invocations; what else a command line says, and how it says it, reaches no call.
-/

namespace ServiceStack

namespace CommandLine

/-- Whether an argument gives a switch by its name. -/
def Switch.Names (sw : Switch) (arg : Octets) : Prop :=
  ∃ more value, (Word.long more sw value).spelling = arg

instance (sw : Switch) (arg : Octets) : Decidable (sw.Names arg) :=
  decidable_of_iff _ (exists_long_iff sw).symm

/-- Whether some argument gives a switch by its name. The first part of a command line is the name
of the program. -/
def Gives (argv : List Octets) (sw : Switch) : Prop := ∃ arg ∈ argv.tail, sw.Names arg

instance (argv : List Octets) (sw : Switch) : Decidable (Gives argv sw) :=
  inferInstanceAs (Decidable (∃ arg ∈ argv.tail, sw.Names arg))

/-- The invocations that are asked for, in launch order. -/
def children (release alice : Bool) : List Invocation :=
  let services := [Service.frontend, Service.searchServer, Service.webgraph] ++
    if alice then [Service.alice] else []
  services.map fun service => {
    service := service.name
    program := Utf8.encode "cargo"
    args := (["run"] ++ (if release then ["--release"] else []) ++ ["--"] ++ service.args).map
      Utf8.encode }

/-! ### What is given -/

lemma Switch.flag_injective {sw sw' : Switch} (h : sw.flag = sw'.flag) : sw = sw' := by
  cases sw <;> cases sw' <;> first | rfl | cases h

lemma encode_name_injective {sw sw' : Switch}
    (h : Utf8.encode sw.flag.name = Utf8.encode sw'.flag.name) : sw = sw' := by
  have hf := ofName?_eq_some.mpr h
  rw [ofName?_eq_some.mpr rfl] at hf
  exact Switch.flag_injective (Option.some.inj hf)

lemma names_spelling {sw : Switch} (hv : sw ≠ .verbose) (w : Word) :
    sw.Names w.spelling ↔ sw.flag ∈ w.flags := by
  rw [Switch.Names, exists_long_iff]
  cases w with
  | long more given value =>
    have hg : form (Word.long more given value).spelling = .long (Utf8.encode given.flag.name) :=
      (exists_long_iff given).mp ⟨more, value, rfl⟩
    rw [hg, Word.flags, List.mem_singleton]
    constructor
    · intro h
      rw [encode_name_injective (Form.long.inj h)]
    · intro h
      rw [Switch.flag_injective h]
  | bundle more =>
    -- a bundle gives `verbose` by its letter, and by no name
    have hne : sw.flag ≠ .verbose := fun (h : sw.flag = Switch.flag .verbose) =>
      hv (Switch.flag_injective h)
    rw [(bundle_spelling_iff more).mp rfl, Word.flags, List.mem_replicate]
    simpa using hne

lemma not_names_separator (sw : Switch) : ¬ sw.Names [dash, dash] := by
  rw [Switch.Names, exists_long_iff, form_eq_separator.mpr rfl]
  exact Form.noConfusion

lemma gives_iff {argv : List Octets} {sw : Switch} (hv : sw ≠ .verbose) {s : Sentence}
    (hs : s.spelling = argv.tail) : Gives argv sw ↔ s.times sw ≠ 0 := by
  rw [← s.mem_flags, Sentence.flags, List.mem_flatMap, Gives, ← hs]
  constructor
  · rintro ⟨arg, harg, hn⟩
    rcases List.mem_append.mp harg with hw | hc
    · obtain ⟨w, hmem, rfl⟩ := List.mem_map.mp hw
      exact ⟨w, hmem, (names_spelling hv w).mp hn⟩
    · -- the lone `--` at the end gives nothing
      have hd : arg = [dash, dash] := by
        by_cases h : s.closed = true <;> simp_all
      exact absurd (hd ▸ hn) (not_names_separator sw)
  · rintro ⟨w, hw, hf⟩
    exact ⟨w.spelling, List.mem_append_left _ (List.mem_map_of_mem hw),
      (names_spelling hv w).mpr hf⟩

lemma settings_of_parse {argv : List Octets} {settings : Settings}
    (hp : parse argv = .ok settings) :
    settings.mode = Mode.ofRelease (Gives argv .release) ∧
      settings.withAlice = decide (Gives argv .alice) ∧ settings.program = Utf8.encode "cargo" := by
  obtain ⟨s, hs, -, -, rfl⟩ := parse_eq_ok.mp hp
  have hr : Gives argv .release ↔ s.times .release ≠ 0 := gives_iff (by decide) hs
  have ha : Gives argv .alice ↔ s.times .alice ≠ 0 := gives_iff (by decide) hs
  refine ⟨?_, ?_, rfl⟩
  · by_cases h : s.times .release = 0 <;> simp [Sentence.settings, Mode.ofRelease, hr, h]
  · simp [Sentence.settings, ha]

lemma selected_eq (alice : Bool) :
    Service.selected alice =
      [.frontend, .searchServer, .webgraph] ++ if alice then [.alice] else [] := by
  cases alice <;> rfl

lemma flags_ofRelease (release : Bool) :
    (Mode.ofRelease release).flags = if release then ["--release"] else [] := by
  cases release <;> rfl

lemma invocations_of_parse {argv : List Octets} {settings : Settings}
    (hp : parse argv = .ok settings) :
    settings.invocations = children (Gives argv .release) (Gives argv .alice) := by
  obtain ⟨hm, ha, hprog⟩ := settings_of_parse hp
  rw [Settings.invocations, Invocation.forRun, hm, ha, hprog, selected_eq, children]
  simp only [Invocation.ofService, Invocation.arguments, flags_ofRelease]

end CommandLine

namespace Supervisor

open CommandLine

variable {σ : Type}

lemma group_start (h : Host σ) (settings : Settings) (s : σ) :
    (start h settings s).value.map Supervisor.group =
      (Group.launch h settings.invocations s).value := by
  rcases hl : Group.launch h settings.invocations s with ⟨e | g, t, trace⟩ <;>
    simp [start, hl, Except.map]

/-- A start goes by the invocations, and its first line by the mode. -/
lemma start_congr {settings settings' : Settings} (hi : settings'.invocations = settings.invocations)
    (hm : settings'.mode = settings.mode) (h : Host σ) (s : σ) :
    let o := start h settings s
    let o' := start h settings' s
    o'.trace = o.trace ∧ o'.host = o.host ∧
      o'.value.map Supervisor.group = o.value.map Supervisor.group := by
  refine ⟨?_, ?_, ?_⟩
  · simp only [start, hi, hm]
  · simp only [start, hi, hm]
  · rw [group_start, group_start, hi]

lemma attempts_start (h : Host σ) (settings : Settings) (s : σ) :
    let o := start h settings s
    (∃ ps t, h.Spawns s settings.invocations ps t ∧ o.value.map Supervisor.group = .ok ⟨ps⟩ ∧
        o.host = t ∧ o.trace.attempts = settings.invocations) ∨
      ∃ j ps e t, h.Refuses s settings.invocations j ps e t ∧ o.value = .error e ∧
        o.host = h.terminateEach ps t ∧ o.trace.attempts = settings.invocations.take (j + 1) := by
  rcases h.spawns_or_refuses settings.invocations s with ⟨ps, t, hc⟩ | ⟨j, ps, e, t, hc⟩
  · obtain ⟨hv, hh, he⟩ := start_spawns hc
    exact .inl ⟨ps, t, hc, by rw [hv]; rfl, hh, Trace.attempts_spawned hc.length_eq he⟩
  · obtain ⟨hv, hh, i, hi, he⟩ := start_refuses hc
    refine .inr ⟨j, ps, e, t, hc, hv, hh, ?_⟩
    rw [Trace.attempts_refused hc.length_take he, List.take_add_one, hi]
    rfl

/-- **What a command line starts** is fixed by whether it gives `--release` and `--alice`. The
calls are made for the invocations that these ask for, in their order, and stop early only at a
call that fails; the host is asked for nothing else. Two command lines that agree on the two flags
come to the same start on every host. -/
theorem start_of_parse {argv argv' : List Octets} {settings settings' : Settings}
    (hp : parse argv = .ok settings) (hp' : parse argv' = .ok settings') (h : Host σ) (s : σ) :
    let is := children (Gives argv .release) (Gives argv .alice)
    let o := start h settings s
    let o' := start h settings' s
    ((∃ ps t, h.Spawns s is ps t ∧ o.value.map Supervisor.group = .ok ⟨ps⟩ ∧ o.host = t ∧
          o.trace.attempts = is) ∨
        ∃ j ps e t, h.Refuses s is j ps e t ∧ o.value = .error e ∧
          o.host = h.terminateEach ps t ∧ o.trace.attempts = is.take (j + 1)) ∧
      ((Gives argv' .release ↔ Gives argv .release) → (Gives argv' .alice ↔ Gives argv .alice) →
        o'.trace = o.trace ∧ o'.host = o.host ∧
          o'.value.map Supervisor.group = o.value.map Supervisor.group) := by
  intro is o o'
  have hi : settings.invocations = is := invocations_of_parse hp
  refine ⟨hi ▸ attempts_start h settings s, fun hr ha => ?_⟩
  have hm : settings'.mode = settings.mode := by
    rw [(settings_of_parse hp').1, (settings_of_parse hp).1, decide_eq_decide.mpr hr]
  have hi' : settings'.invocations = settings.invocations := by
    rw [hi, invocations_of_parse hp', decide_eq_decide.mpr hr, decide_eq_decide.mpr ha]
  exact start_congr hi' hm h s

/-- Two spellings of one request, on a host that refuses the third call. -/
theorem start_of_parse_webgraph :
    let argv := ["stackrc", "--alice", "--release"].map Utf8.encode
    let argv' := ["/x", "-vv", "----release=no", "--verbose", "---alice=", "--"].map Utf8.encode
    let asked : Settings := { mode := .release, withAlice := true }
    let st : Stage := ⟨Script.ofList [{}, { id := some 7 }, { failure := some (.ofText "no") }], 0⟩
    parse argv = .ok asked ∧ parse argv' = .ok { asked with verbosity := 3 } ∧
      (start Stage.host { asked with verbosity := 3 } st).trace =
        (start Stage.host asked st).trace ∧
      (start Stage.host asked st).trace.attempts = (children true true).take 3 := by
  intro argv argv' asked st
  have hp : parse argv = .ok asked := rfl
  have hp' : parse argv' = .ok { asked with verbosity := 3 } := rfl
  obtain ⟨-, hsame⟩ := start_of_parse hp hp' Stage.host st
  exact ⟨hp, hp', (hsame (by decide) (by decide)).1, rfl⟩

end Supervisor

end ServiceStack
