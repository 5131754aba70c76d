import ServiceStack.Program
import ServiceStack.Proofs.Supervisor.Run

/-!
How the program ends.

A command line that is refused ends it before any call. Otherwise its start fails, and it ends with
that failure; or it is up, and it ends exactly if the interrupt comes. However it ends, each process
that it started was asked to stop, once.
-/

namespace ServiceStack

/-- Whether some wakes hold the interrupt. -/
def Interrupts (wakes : List Wake) : Prop := ∃ result, .interrupted result ∈ wakes

/-- Wakes are ticks up to the first interrupt, or ticks throughout. -/
lemma ticks_or_interrupts (wakes : List Wake) :
    (¬ Interrupts wakes ∧ ∃ looks : List Bool, wakes = looks.map .tick) ∨
      (Interrupts wakes ∧ ∃ (looks : List Bool) (result : Except Failure Unit) (later : List Wake),
        wakes = looks.map .tick ++ .interrupted result :: later) := by
  induction wakes with
  | nil => exact .inl ⟨by simp [Interrupts], [], rfl⟩
  | cons w ws ih =>
    cases w with
    | tick looked =>
      have hi : Interrupts (.tick looked :: ws) ↔ Interrupts ws := by simp [Interrupts]
      rcases ih with ⟨hn, looks, rfl⟩ | ⟨hy, looks, result, later, rfl⟩
      · exact .inl ⟨hi.not.mpr hn, looked :: looks, rfl⟩
      · exact .inr ⟨hi.mpr hy, looked :: looks, result, later, rfl⟩
    | interrupted result => exact .inr ⟨⟨result, List.mem_cons_self⟩, [], result, ws, rfl⟩

namespace Program

variable {σ : Type} {h : Host σ}

/-! ### The program with settings -/

lemma supervise_refuses {settings : Settings} {s t : σ} {j : Nat} {ps : List Process} {e : Failure}
    (hc : h.Refuses s settings.invocations j ps e t) (wakes : List Wake) :
    let o := supervise h settings wakes s
    o.value = .failed e ∧ o.host = h.terminateEach ps t ∧
      ∃ i, settings.invocations[j]? = some i ∧ o.trace.events =
        List.zipWith .spawned (settings.invocations.take j) ps ++
          .refused i :: ps.map .killed := by
  obtain ⟨hv, hh, he⟩ := Supervisor.start_refuses hc
  simp only [supervise, hv]
  exact ⟨trivial, hh, he⟩

lemma supervise_interrupted {settings : Settings} {s t : σ} {ps : List Process}
    (hc : h.Spawns s settings.invocations ps t) (looks : List Bool)
    (result : Except Failure Unit) (later : List Wake) :
    let o := supervise h settings (looks.map .tick ++ .interrupted result :: later) s
    o.value = .stopped .terminated ∧ o.host = h.terminateEach ps t ∧
      o.trace.events = List.zipWith .spawned settings.invocations ps ++
        .listening :: .interrupted :: ps.map .killed := by
  obtain ⟨hv, hh, he⟩ := Supervisor.start_spawns hc
  simp only [supervise, hv, hh, Supervisor.run_interrupted]
  simp [he]

lemma supervise_ticks {settings : Settings} {s t : σ} {ps : List Process}
    (hc : h.Spawns s settings.invocations ps t) (looks : List Bool) :
    let o := supervise h settings (looks.map .tick) s
    o.value = .idling ∧ o.host = t ∧ ∃ es, es <+: [.listening] ∧
      o.trace.events = List.zipWith .spawned settings.invocations ps ++ es := by
  obtain ⟨hv, hh, he⟩ := Supervisor.start_spawns hc
  have hup : (⟨settings, ⟨ps⟩, .running⟩ : Supervisor).phase = .running := rfl
  obtain ⟨hrv, hrh, hre⟩ := Supervisor.run_ticks (h := h) hup looks t
  simp only [supervise, hv, hh, Outcome.value_after, hrv]
  exact ⟨trivial, hrh, _, hre, by simp [he]⟩

/-! ### The program with a command line -/

variable {argv : List Octets} {settings : Settings}

lemma run_refused {r : CommandLine.Refusal} (hp : CommandLine.parse argv = .error r)
    (wakes : List Wake) (s : σ) : run h argv wakes s = ⟨.refused r, s, []⟩ := by
  simp [run, hp]

lemma run_accepted (hp : CommandLine.parse argv = .ok settings) (wakes : List Wake) (s : σ) :
    run h argv wakes s = supervise h settings wakes s := by
  simp [run, hp]

/-- All calls of the program succeed. -/
def Up (h : Host σ) (argv : List Octets) (s : σ) (ps : List Process) (t : σ) : Prop :=
  ∃ settings, CommandLine.parse argv = .ok settings ∧ h.Spawns s settings.invocations ps t

/-- Some call of the program fails, behind those that gave some processes. -/
def Down (h : Host σ) (argv : List Octets) (s : σ) (ps : List Process) (e : Failure) (t : σ) :
    Prop :=
  ∃ settings j, CommandLine.parse argv = .ok settings ∧
    h.Refuses s settings.invocations j ps e t

lemma up_or_down (h : Host σ) (argv : List Octets) (s : σ) :
    (∃ r, CommandLine.parse argv = .error r) ∨ (∃ ps e t, Down h argv s ps e t) ∨
      ∃ ps t, Up h argv s ps t := by
  rcases hp : CommandLine.parse argv with r | settings
  · exact .inl ⟨r, rfl⟩
  · rcases h.spawns_or_refuses settings.invocations s with ⟨ps, t, hc⟩ | ⟨j, ps, e, t, hc⟩
    · exact .inr (.inr ⟨ps, t, settings, hp, hc⟩)
    · exact .inr (.inl ⟨ps, e, t, settings, j, hp, hc⟩)

lemma run_down {s t : σ} {ps : List Process} {e : Failure} (hd : Down h argv s ps e t)
    (wakes : List Wake) :
    let o := run h argv wakes s
    o.value = .failed e ∧ o.trace.spawned = ps ∧ o.trace.killed = ps ∧
      o.host = h.terminateEach ps t := by
  obtain ⟨settings, j, hp, hc⟩ := hd
  obtain ⟨hv, hh, i, -, he⟩ := supervise_refuses hc wakes
  obtain ⟨hs, hk, -⟩ := Trace.views_refused hc.length_take he
  rw [run_accepted hp]
  exact ⟨hv, hs, hk, hh⟩

lemma run_interrupted {s t : σ} {ps : List Process} (hu : Up h argv s ps t) {wakes : List Wake}
    (hi : Interrupts wakes) :
    let o := run h argv wakes s
    o.value = .stopped .terminated ∧ o.trace.spawned = ps ∧ o.trace.killed = ps ∧
      o.host = h.terminateEach ps t := by
  obtain ⟨settings, hp, hc⟩ := hu
  rcases ticks_or_interrupts wakes with ⟨hn, -⟩ | ⟨-, looks, result, later, rfl⟩
  · exact absurd hi hn
  · obtain ⟨hv, hh, he⟩ := supervise_interrupted hc looks result later
    obtain ⟨hs, hk⟩ := Trace.views_interrupted hc.length_eq he
    rw [run_accepted hp]
    exact ⟨hv, hs, hk, hh⟩

lemma run_ticks {s t : σ} {ps : List Process} (hu : Up h argv s ps t) {wakes : List Wake}
    (hn : ¬ Interrupts wakes) :
    let o := run h argv wakes s
    o.value = .idling ∧ o.trace.spawned = ps ∧ o.trace.killed = [] ∧ o.host = t := by
  obtain ⟨settings, hp, hc⟩ := hu
  rcases ticks_or_interrupts wakes with ⟨-, looks, rfl⟩ | ⟨hi, -⟩
  · obtain ⟨hv, hh, es, hes, he⟩ := supervise_ticks hc looks
    obtain ⟨hs, hk⟩ := Trace.views_waiting hc.length_eq hes he
    rw [run_accepted hp]
    exact ⟨hv, hs, hk, hh⟩
  · exact absurd hi hn

/-- The four ways to end, or not to. -/
lemma value_run (h : Host σ) (argv : List Octets) (wakes : List Wake) (s : σ) :
    let v := (run h argv wakes s).value
    (∃ r, CommandLine.parse argv = .error r ∧ v = .refused r) ∨
      (∃ e ps t, Down h argv s ps e t ∧ v = .failed e) ∨
      (Interrupts wakes ∧ ∃ ps t, Up h argv s ps t ∧ v = .stopped .terminated) ∨
      (¬ Interrupts wakes ∧ ∃ ps t, Up h argv s ps t ∧ v = .idling) := by
  rcases up_or_down h argv s with ⟨r, hp⟩ | ⟨ps, e, t, hd⟩ | ⟨ps, t, hu⟩
  · exact .inl ⟨r, hp, by rw [run_refused hp]⟩
  · exact .inr (.inl ⟨e, ps, t, hd, (run_down hd wakes).1⟩)
  · by_cases hi : Interrupts wakes
    · exact .inr (.inr (.inl ⟨hi, ps, t, hu, (run_interrupted hu hi).1⟩))
    · exact .inr (.inr (.inr ⟨hi, ps, t, hu, (run_ticks hu hi).1⟩))

/-! ### The ending -/

/-- How a run of the program ends, told by its command line, its calls and its wakes. -/
structure Ending (h : Host σ) (argv : List Octets) (wakes : List Wake) (s : σ)
    (o : Outcome σ Exit) : Prop where
  refused : ∀ r, o.value = .refused r ↔ CommandLine.parse argv = .error r
  /-- without settings no call is made -/
  untouched : ∀ r, CommandLine.parse argv = .error r → o.trace = [] ∧ o.host = s
  failed : ∀ e, o.value = .failed e ↔ ∃ ps t, Down h argv s ps e t
  undone : ∀ ps e t, Down h argv s ps e t →
    o.trace.spawned = ps ∧ o.trace.killed = ps ∧ o.host = h.terminateEach ps t
  stopped : ∀ p, o.value = .stopped p ↔
    p = .terminated ∧ Interrupts wakes ∧ ∃ ps t, Up h argv s ps t
  swept : ∀ ps t, Up h argv s ps t → Interrupts wakes →
    o.trace.spawned = ps ∧ o.trace.killed = ps ∧ o.host = h.terminateEach ps t
  idling : o.value = .idling ↔ ¬ Interrupts wakes ∧ ∃ ps t, Up h argv s ps t
  waiting : ∀ ps t, Up h argv s ps t → ¬ Interrupts wakes →
    o.trace.spawned = ps ∧ o.trace.killed = [] ∧ o.host = t
  /-- once it has ended, what it started is what it asked to stop -/
  ended : o.value ≠ .idling → o.trace.killed = o.trace.spawned

/-- **How the program ends**, for all command lines, hosts and wakes: with the refusal of its
command line, with the failure of the first call that fails, or, once the interrupt comes, in the
last phase. Each process it started was asked to stop then, once and in launch order, whatever the
interrupt came as and whatever the requests came to. -/
theorem ending (h : Host σ) (argv : List Octets) (wakes : List Wake) (s : σ) :
    Ending h argv wakes s (run h argv wakes s) where
  refused r := by
    refine ⟨fun hv => ?_, fun hp => by rw [run_refused hp]⟩
    rcases value_run h argv wakes s with ⟨_, hp, hr⟩ | ⟨_, _, _, _, hr⟩ | ⟨_, _, _, _, hr⟩ |
      ⟨_, _, _, _, hr⟩ <;> cases hr.symm.trans hv
    exact hp
  untouched r hp := by
    rw [run_refused hp]
    exact ⟨rfl, rfl⟩
  failed e := by
    refine ⟨fun hv => ?_, fun ⟨_, _, hd⟩ => (run_down hd wakes).1⟩
    rcases value_run h argv wakes s with ⟨_, _, hr⟩ | ⟨_, ps, t, hd, hr⟩ | ⟨_, _, _, _, hr⟩ |
      ⟨_, _, _, _, hr⟩ <;> cases hr.symm.trans hv
    exact ⟨ps, t, hd⟩
  undone _ _ _ hd := (run_down hd wakes).2
  stopped p := by
    refine ⟨fun hv => ?_, ?_⟩
    · rcases value_run h argv wakes s with ⟨_, _, hr⟩ | ⟨_, _, _, _, hr⟩ | ⟨hi, ps, t, hu, hr⟩ |
        ⟨_, _, _, _, hr⟩ <;> cases hr.symm.trans hv
      exact ⟨rfl, hi, ps, t, hu⟩
    · rintro ⟨rfl, hi, _, _, hu⟩
      exact (run_interrupted hu hi).1
  swept _ _ hu hi := (run_interrupted hu hi).2
  idling := by
    refine ⟨fun hv => ?_, fun ⟨hn, _, _, hu⟩ => (run_ticks hu hn).1⟩
    rcases value_run h argv wakes s with ⟨_, _, hr⟩ | ⟨_, _, _, _, hr⟩ | ⟨_, _, _, _, hr⟩ |
      ⟨hn, ps, t, hu, hr⟩ <;> cases hr.symm.trans hv
    exact ⟨hn, ps, t, hu⟩
  waiting _ _ hu hn := (run_ticks hu hn).2
  ended hne := by
    rcases value_run h argv wakes s with ⟨_, hp, _⟩ | ⟨_, _, _, hd, _⟩ | ⟨hi, _, _, hu, _⟩ |
      ⟨_, _, _, _, hr⟩
    · rw [run_refused hp]
      rfl
    · obtain ⟨-, hs, hk, -⟩ := run_down hd wakes
      rw [hs, hk]
    · obtain ⟨-, hs, hk, -⟩ := run_interrupted hu hi
      rw [hs, hk]
    · exact absurd hr hne

/-- One of four processes cannot be asked to stop, and the interrupt comes as a failure. -/
theorem ending_alice :
    let argv := ["stackrc", "--alice", "-v"].map Utf8.encode
    let st : Stage := ⟨Script.ofList [{}, { killFailure := some (.ofText "busy") }], 0⟩
    let ps : List Process :=
      [⟨0, "frontend"⟩, ⟨1, "search-server"⟩, ⟨2, "webgraph"⟩, ⟨3, "alice"⟩]
    let wakes : List Wake := [.tick true, .interrupted (.error (.ofText "closed"))]
    let o := run Stage.host argv wakes st
    Up Stage.host argv st ps ⟨st.script, 4⟩ ∧ Interrupts wakes ∧
      o.value = .stopped .terminated ∧ o.trace.spawned = ps ∧ o.trace.killed = ps := by
  intro argv st ps wakes o
  have hu : Up Stage.host argv st ps ⟨st.script, 4⟩ :=
    ⟨{ withAlice := true, verbosity := 1 }, rfl,
      .cons rfl (.cons rfl (.cons rfl (.cons rfl (.nil _))))⟩
  have hi : Interrupts wakes := ⟨_, .tail _ (.head _)⟩
  have he := ending Stage.host argv wakes st
  obtain ⟨hs, hk, -⟩ := he.swept ps _ hu hi
  exact ⟨hu, hi, (he.stopped .terminated).mpr ⟨rfl, hi, ps, _, hu⟩, hs, hk⟩

end Program

end ServiceStack
