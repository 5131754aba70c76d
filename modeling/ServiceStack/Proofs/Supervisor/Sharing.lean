import Mathlib.Algebra.Ring.Nat
import ServiceStack.Proofs.Host.Mirror
import ServiceStack.Proofs.Script.Ledger
import ServiceStack.Proofs.Supervisor.Run
import ServiceStack.Supervisor.Plan

/-!
Runs that share a host, one after the other.

A run leaves nothing on a stage but the number of its calls. So the stage that a run finds mirrors a
fresh one whose script begins behind the calls so far, and the run goes as it would there; only the
keys of its processes count on.
-/

namespace ServiceStack

/-- The process that is given some calls later. -/
def Process.later (n : Nat) (p : Process) : Process := { p with key := n + p.key }

/-- What can be seen of a process by its name alone. -/
def Process.unkeyed (p : Process) : Process := { p with key := 0 }

def Supervisor.rename (f : Process → Process) (sup : Supervisor) : Supervisor :=
  { sup with group := sup.group.rename f }

namespace Report

def rename (f : Process → Process) : Report → Report
  | .failed t e => .failed (t.rename f) e
  | .dropped t sup info => .dropped (t.rename f) (sup.rename f) info
  | .ran t sup info final run => .ran (t.rename f) (sup.rename f) info final (run.rename f)

/-- All that a run traced, from its start to its end. -/
def trace : Report → Trace
  | .failed t _ => t
  | .dropped t _ _ => t
  | .ran t _ _ _ run => t ++ run

/-- The number of calls that a run made. -/
def calls (r : Report) : Nat := r.trace.calls.length

/-- Why the run was not started. -/
def failure? : Report → Option Failure
  | .failed _ e => some e
  | _ => none

lemma rename_rename (f g : Process → Process) (r : Report) :
    (r.rename f).rename g = r.rename (g ∘ f) := by
  cases r <;> simp [rename, Supervisor.rename, Group.rename, Trace.rename_rename]

end Report

/-! ### A run on a mirror -/

namespace Idling

variable (f : Process → Process)

lemma rename_turn (i : Idling) (w : Wake) : (i.turn w).2.rename f = (i.turn w).2 := by
  have hl : i.watch.look.2.rename f = i.watch.look.2 := by cases i.watch <;> rfl
  cases w with
  | tick looked => cases looked <;> simp [turn, hl]
  | interrupted result =>
    by_cases ha : i.watch = .answered <;> simp [turn, ha, hl, Entry.rename, Event.rename]

lemma rename_loop (i : Idling) (ws : List Wake) : (i.loop ws).2.rename f = (i.loop ws).2 := by
  induction ws generalizing i with
  | nil => rfl
  | cons w ws ih =>
    by_cases hr : i.phase = .running <;> simp [loop, hr, rename_turn, ih]

end Idling

namespace Mirrors

variable {σ τ : Type} {h : Host σ} {k : Host τ} {f : Process → Process} {R : σ → τ → Prop}

lemma start (hm : Mirrors h k f R) (settings : Settings) {s : σ} {t : τ} (hr : R s t) :
    Outcome.Mirrored f R (Except.map (Supervisor.rename f)) (Supervisor.start h settings s)
      (Supervisor.start k settings t) := by
  obtain ⟨hv, ht, hh⟩ := (hm.launch settings.invocations hr).after
    (t := [.line (.launching settings.invocations.length settings.mode)]) rfl
  refine ⟨?_, ht, hh⟩
  rw [Outcome.value_after, Outcome.value_after] at hv
  rcases hl : (Group.launch h settings.invocations s).value with e | g <;>
    simp [Supervisor.start, hv, hl, Except.map, Supervisor.rename]

lemma run (hm : Mirrors h k f R) (sup : Supervisor) (wakes : List Wake) {s : σ} {t : τ}
    (hr : R s t) :
    Outcome.Mirrored f R (fun v => v) (sup.run h wakes s) ((sup.rename f).run k wakes t) := by
  have hnames : (sup.rename f).group.names = sup.group.names := by
    simp [Supervisor.rename, Group.rename, Group.names, Function.comp_def, hm.name]
  have hwait := Idling.rename_loop f { phase := sup.phase } wakes
  obtain ⟨-, htrace, hhost⟩ := hm.terminateAll sup.group hr
  have hphase : (sup.rename f).phase = sup.phase := rfl
  have hgroup : (sup.rename f).group = sup.group.rename f := rfl
  simp only [Supervisor.run, hnames, hphase]
  split
  · exact ⟨rfl, by simp [hwait, Entry.rename], hr⟩
  · refine ⟨rfl, ?_, hhost⟩
    simp [hgroup, htrace, hwait, Entry.rename]

lemma play (hm : Mirrors h k f R) (p : Plan) {s : σ} {t : τ} (hr : R s t) :
    (p.play k t).1 = (p.play h s).1.rename f ∧ R (p.play h s).2 (p.play k t).2 := by
  obtain ⟨hv, ht, hh⟩ := hm.start p.settings hr
  rcases hs : (Supervisor.start h p.settings s).value with e | sup
  · rw [hs] at hv
    simp only [Plan.play, hs, hv, Except.map, Report.rename, ht]
    exact ⟨trivial, hh⟩
  · rw [hs] at hv
    have hinfo := hm.info sup.group hh
    rcases hw : p.wakes with _ | wakes
    · simp only [Plan.play, hs, hv, hw, Except.map, Report.rename, ht]
      exact ⟨congrArg _ hinfo, hh⟩
    · obtain ⟨hrv, hrt, hrh⟩ := hm.run sup wakes hh
      simp only [Plan.play, hs, hv, hw, Except.map, Report.rename, ht, hrv, hrt]
      exact ⟨congrArg (Report.ran _ _ · _ _) hinfo, hrh⟩

end Mirrors

/-! ### A stage behind some calls -/

/-- Of the calls from the `c`-th on, the one at place `j` is the first to fail. -/
def Script.FailsFirst (script : Script) (c j : Nat) (e : Failure) : Prop :=
  (∀ k < j, (script (c + k)).failure = none) ∧ (script (c + j)).failure = some e

namespace Stage

/-- The stage `t` stands where `s` stands, but `n` calls later. -/
structure Behind (n : Nat) (s t : Stage) : Prop where
  script : s.script = t.script.drop n
  calls : t.calls = n + s.calls

lemma behind_fresh (script : Script) (n : Nat) : Behind n ⟨script.drop n, 0⟩ ⟨script, n⟩ :=
  ⟨rfl, rfl⟩

lemma spawn_of_none {script : Script} {c : Nat} (hf : (script c).failure = none) (i : Invocation) :
    host.spawn i ⟨script, c⟩ =
      (.ok ⟨c, (script c).name.getD i.service⟩, ⟨script, c + 1⟩) := by
  simp [host, spawn, hf]

lemma spawn_of_some {script : Script} {c : Nat} {e : Failure} (hf : (script c).failure = some e)
    (i : Invocation) : host.spawn i ⟨script, c⟩ = (.error e, ⟨script, c + 1⟩) := by
  simp [host, spawn, hf]

/-- A stage that goes on mirrors one whose script begins there. -/
lemma mirrors_behind (n : Nat) : Mirrors host host (Process.later n) (Behind n) where
  name _ := rfl
  spawn := by
    rintro ⟨_, c⟩ ⟨script, d⟩ i ⟨hs, hc⟩
    simp only at hs hc
    subst hs hc
    rcases hf : (script (n + c)).failure with _ | e
    · have hf' : (script.drop n c).failure = none := hf
      rw [spawn_of_none hf, spawn_of_none hf']
      exact ⟨rfl, rfl, rfl⟩
    · have hf' : (script.drop n c).failure = some e := hf
      rw [spawn_of_some hf, spawn_of_some hf']
      exact ⟨rfl, rfl, rfl⟩
  number := by
    rintro ⟨_, c⟩ ⟨script, d⟩ p ⟨hs, hc⟩
    simp only at hs hc
    subst hs hc
    rfl
  terminate := by
    rintro ⟨_, c⟩ ⟨script, d⟩ p ⟨hs, hc⟩
    simp only at hs hc
    subst hs hc
    rcases hf : (script (n + p.key)).killFailure with _ | e <;>
      simp only [host, terminate, Script.drop, Process.later, hf] <;>
      exact ⟨trivial, trivial, rfl, rfl⟩

lemma spawns_of_script {script : Script} {is : List Invocation} {c : Nat}
    (hf : ∀ k < is.length, (script (c + k)).failure = none) :
    ∃ ps, Stage.host.Spawns ⟨script, c⟩ is ps ⟨script, c + is.length⟩ := by
  induction is generalizing c with
  | nil => exact ⟨[], .nil _⟩
  | cons i is ih =>
    have hhead : (script c).failure = none := hf 0 (Nat.succ_pos _)
    have htail : ∀ k < is.length, (script (c + 1 + k)).failure = none := by
      intro k hk
      rw [Nat.add_right_comm]
      exact hf (k + 1) (Nat.succ_lt_succ hk)
    obtain ⟨ps, hps⟩ := ih htail
    rw [Nat.add_right_comm] at hps
    exact ⟨_, .cons (spawn_of_none hhead i) hps⟩

lemma refuses_of_script {script : Script} {is : List Invocation} {c j : Nat} {e : Failure}
    (hj : j < is.length) (hf : script.FailsFirst c j e) :
    ∃ ps, Stage.host.Refuses ⟨script, c⟩ is j ps e ⟨script, c + (j + 1)⟩ := by
  obtain ⟨hf, he⟩ := hf
  induction j generalizing is c with
  | zero =>
    obtain ⟨i, is, rfl⟩ := List.exists_cons_of_length_pos hj
    exact ⟨[], .here (spawn_of_some he i)⟩
  | succ j ih =>
    obtain ⟨i, is, rfl⟩ := List.exists_cons_of_length_pos (Nat.zero_lt_of_lt hj)
    have hhead : (script c).failure = none := hf 0 (Nat.succ_pos _)
    have htail : ∀ k < j, (script (c + 1 + k)).failure = none := by
      intro k hk
      rw [Nat.add_right_comm]
      exact hf (k + 1) (Nat.succ_lt_succ hk)
    have hlast : (script (c + 1 + j)).failure = some e := by
      rw [Nat.add_right_comm]
      exact he
    obtain ⟨ps, hps⟩ := ih (Nat.lt_of_succ_lt_succ hj) htail hlast
    rw [Nat.add_assoc, Nat.add_comm 1] at hps
    exact ⟨_, .later (spawn_of_none hhead i) hps⟩

lemma exists_first_failure (script : Script) (c n : Nat) :
    (∀ k < n, (script (c + k)).failure = none) ∨
      ∃ j e, j < n ∧ script.FailsFirst c j e := by
  induction n with
  | zero => exact .inl fun k hk => absurd hk (Nat.not_lt_zero k)
  | succ n ih =>
    rcases ih with hall | ⟨j, e, hj, hf⟩
    · rcases hn : (script (c + n)).failure with _ | e
      · refine .inl fun k hk => ?_
        rcases Nat.lt_succ_iff_lt_or_eq.mp hk with hk | rfl
        · exact hall k hk
        · exact hn
      · exact .inr ⟨n, e, Nat.lt_succ_self n, hall, hn⟩
    · exact .inr ⟨j, e, Nat.lt_succ_of_lt hj, hf⟩

end Stage

/-! ### The calls of a run -/

namespace Idling

lemma calls_turn (i : Idling) (w : Wake) : (i.turn w).2.calls = [] := by
  have hl : i.watch.look.2.calls = [] := by cases i.watch <;> rfl
  cases w with
  | tick looked => cases looked <;> simp [turn, hl]
  | interrupted result =>
    by_cases ha : i.watch = .answered <;> simp [turn, ha, hl]
    simp [Trace.calls, Event.isCall]

lemma calls_loop (i : Idling) (ws : List Wake) : (i.loop ws).2.calls = [] := by
  induction ws generalizing i with
  | nil => rfl
  | cons w ws ih => by_cases hr : i.phase = .running <;> simp [loop, hr, calls_turn, ih]

end Idling

namespace Supervisor

lemma calls_run {σ : Type} (h : Host σ) (sup : Supervisor) (wakes : List Wake) (s : σ) :
    (sup.run h wakes s).trace.calls = [] := by
  have hloop := Idling.calls_loop { phase := sup.phase } wakes
  have hsweep := (Trace.views_killed (Group.events_terminateAll h sup.group s)).2.2
  have hfirst : ∀ t : Trace, Trace.calls (.line (.running sup.group.names) :: t) = t.calls :=
    fun _ => rfl
  have hlast : ∀ ls : List Line, (Trace.ofLines ls).calls = [] := by simp [Trace.calls]
  simp only [run]
  split
  · rw [hfirst, hloop]
  · rw [Trace.calls_append, Trace.calls_append, hfirst, hloop, hsweep, hlast]
    rfl

lemma host_run_stage (sup : Supervisor) (wakes : List Wake) (st : Stage) :
    (sup.run Stage.host wakes st).host = st := by
  simp only [run]
  split <;> simp [Stage.terminateEach_eq]

end Supervisor

namespace Plan

variable {script : Script} {c : Nat} (p : Plan)

lemma play_up (hf : ∀ k < p.settings.invocations.length, (script (c + k)).failure = none) :
    let o := p.play Stage.host ⟨script, c⟩
    o.1.failure? = none ∧ o.1.calls = p.settings.invocations.length ∧ o.2 = ⟨script, c + o.1.calls⟩ ∧
      (p.wakes = none → o.1.trace.killed = [] ∧
        o.1.trace = (Supervisor.start Stage.host p.settings ⟨script, c⟩).trace) := by
  intro o
  obtain ⟨ps, hc⟩ := Stage.spawns_of_script hf
  obtain ⟨hv, hh, he⟩ := Supervisor.start_spawns hc
  obtain ⟨-, hk, hcalls⟩ := Trace.views_spawned hc.length_eq he
  have hn : (Supervisor.start Stage.host p.settings ⟨script, c⟩).trace.calls.length =
      p.settings.invocations.length := by
    rw [hcalls, List.length_zipWith, hc.length_eq, Nat.min_self]
  rcases hw : p.wakes with _ | wakes
  · -- it is let go unrun, so nobody is asked
    simp only [o, play, hv, hh, hw, Report.failure?, Report.calls, Report.trace, hn]
    exact ⟨trivial, trivial, trivial, fun _ => ⟨hk, trivial⟩⟩
  · simp only [o, play, hv, hh, hw, Report.failure?, Report.calls, Report.trace,
      Trace.calls_append, Supervisor.calls_run, List.append_nil, hn, Supervisor.host_run_stage]
    exact ⟨trivial, trivial, trivial, fun h => absurd h (Option.some_ne_none _)⟩

lemma play_down {j : Nat} {e : Failure} (hj : j < p.settings.invocations.length)
    (hf : script.FailsFirst c j e) :
    let o := p.play Stage.host ⟨script, c⟩
    o.1.failure? = some e ∧ o.1.calls = j + 1 ∧ o.2 = ⟨script, c + o.1.calls⟩ := by
  intro o
  obtain ⟨ps, hc⟩ := Stage.refuses_of_script hj hf
  obtain ⟨hv, hh, i, -, hev⟩ := Supervisor.start_refuses hc
  obtain ⟨-, -, hcalls⟩ := Trace.views_refused hc.length_take hev
  have hn : (Supervisor.start Stage.host p.settings ⟨script, c⟩).trace.calls.length = j + 1 := by
    rw [hcalls, List.length_append, List.length_zipWith, ← hc.length_take, Nat.min_self,
      hc.length_eq]
    rfl
  simp only [o, play, hv, hh, Report.failure?, Report.calls, Report.trace, hn,
    Stage.terminateEach_eq]
  exact ⟨trivial, trivial, trivial⟩

/-- Whatever becomes of a run, it leaves the script, and the stage stands behind its calls. -/
lemma stage_play (script : Script) (c : Nat) :
    (p.play Stage.host ⟨script, c⟩).2 =
      ⟨script, c + (p.play Stage.host ⟨script, c⟩).1.calls⟩ := by
  rcases Stage.exists_first_failure script c p.settings.invocations.length with
    hall | ⟨j, e, hj, hf⟩
  · exact (p.play_up hall).2.2.1
  · exact (p.play_down hj hf).2.2

lemma length_playAll {σ : Type} (h : Host σ) (ps : List Plan) (s : σ) :
    (playAll h ps s).1.length = ps.length := by
  induction ps generalizing s with
  | nil => rfl
  | cons p ps ih => simp [playAll, ih]

/-- Each run finds the stage behind the calls of the runs before it. -/
lemma getElem?_playAll {ps : List Plan} {i : Nat} {p : Plan} (hp : ps[i]? = some p) (c : Nat) :
    let reports := (playAll Stage.host ps ⟨script, c⟩).1
    reports[i]? = some
      (p.play Stage.host ⟨script, c + ((reports.take i).map Report.calls).sum⟩).1 := by
  induction ps generalizing i c with
  | nil => simp at hp
  | cons q ps ih =>
    cases i with
    | zero =>
      obtain rfl : q = p := by simpa using hp
      rfl
    | succ i =>
      have hrest := ih (by simpa using hp) (c + (q.play Stage.host ⟨script, c⟩).1.calls)
      rw [← stage_play] at hrest
      simpa [playAll, Nat.add_assoc] using hrest

/-- **Runs that share a host** do not influence each other, whatever the script and however each run
goes. A run goes as it would alone with the script from the calls before it on: its processes are
those of the run alone, counted on, and by all that can be seen without the keys it is that run. A
run that is started makes one call for each service, one that is not makes them up to the first that
fails; a supervisor that is let go unrun adds nothing to the trace of its start. -/
theorem runs_apart (script : Script) (ps : List Plan) :
    let reports := (playAll Stage.host ps ⟨script, 0⟩).1
    reports.length = ps.length ∧
      ∀ i p, ps[i]? = some p →
        let c := ((reports.take i).map Report.calls).sum
        let n := (Service.selected p.settings.withAlice).length
        let alone := (p.play Stage.host ⟨script.drop c, 0⟩).1
        ∃ r, reports[i]? = some r ∧ r = alone.rename (Process.later c) ∧
          r.rename Process.unkeyed = alone.rename Process.unkeyed ∧
          (r.failure? = none ↔ ∀ k < n, (script (c + k)).failure = none) ∧
          (r.failure? = none → r.calls = n) ∧
          (∀ e, r.failure? = some e → ∃ j < n, script.FailsFirst c j e ∧ r.calls = j + 1) ∧
          (r.failure? = none → p.wakes = none → r.trace.killed = [] ∧
            r.trace = (Supervisor.start Stage.host p.settings ⟨script, c⟩).trace) := by
  intro reports
  refine ⟨length_playAll Stage.host ps _, fun i p hp => ?_⟩
  intro c n alone
  have hn : p.settings.invocations.length = n := by
    simp [n, Settings.invocations, Invocation.forRun]
  have hr : reports[i]? = some (p.play Stage.host ⟨script, c⟩).1 := by
    simpa [c] using getElem?_playAll hp 0
  have hlater : (p.play Stage.host ⟨script, c⟩).1 = alone.rename (Process.later c) :=
    ((Stage.mirrors_behind c).play p (Stage.behind_fresh script c)).1
  have hkeys : Process.unkeyed ∘ Process.later c = Process.unkeyed := rfl
  refine ⟨_, hr, hlater, by rw [hlater, Report.rename_rename, hkeys], ?_⟩
  rcases Stage.exists_first_failure script c n with hall | ⟨j, e, hj, hf⟩
  · obtain ⟨hup, hcalls, -, hdrop⟩ := p.play_up (by rwa [hn])
    rw [hup, hcalls, hn]
    exact ⟨⟨fun _ => hall, fun _ => rfl⟩, fun _ => rfl,
      fun e he => absurd he.symm (Option.some_ne_none e), fun _ => hdrop⟩
  · obtain ⟨hdown, hcalls, -⟩ := p.play_down (by rwa [hn]) hf
    have hne : ¬ ∀ k < n, (script (c + k)).failure = none := by
      intro hall
      have hfail := hf.2
      rw [hall j hj] at hfail
      cases hfail
    have hsome : some e ≠ none := Option.some_ne_none e
    rw [hdown, hcalls]
    refine ⟨⟨fun he => absurd he hsome, fun hall => absurd hall hne⟩, fun he => absurd he hsome, ?_,
      fun he => absurd he hsome⟩
    rintro e' ⟨⟩
    exact ⟨j, hj, hf, rfl⟩

/-- A start fails at its second call, a supervisor is let go unrun, and the third run goes as it
would alone behind these five calls. -/
theorem runs_apart_third :
    let script := Script.ofList [{}, { failure := some (.ofText "no") }, { id := some 7 }, {}, {},
      { name := some "web", killFailure := some (.ofText "busy") }]
    let wakes := some [Wake.tick true, .interrupted (.ok ())]
    let third : Plan := ⟨{ withAlice := true, verbosity := 1 }, wakes⟩
    let ps : List Plan := [⟨.standard, wakes⟩, ⟨.standard, none⟩, third]
    let reports := (playAll Stage.host ps ⟨script, 0⟩).1
    ps[2]? = some third ∧ reports.map Report.calls = [2, 3, 4] ∧
      reports[2]? = some ((third.play Stage.host ⟨script.drop 5, 0⟩).1.rename (Process.later 5)) := by
  intro script wakes third ps reports
  have hp : ps[2]? = some third := rfl
  have hc : reports.map Report.calls = [2, 3, 4] := by decide +kernel
  obtain ⟨r, hr, hlater, -⟩ := (runs_apart script ps).2 2 third hp
  have hsum : ((reports.take 2).map Report.calls).sum = 5 := by
    rw [List.map_take, hc]
    rfl
  rw [hsum] at hlater
  exact ⟨hp, hc, hr.trans (congrArg some hlater)⟩

end Plan

end ServiceStack
