import ServiceStack.Proofs.Host.Mirror
import ServiceStack.Proofs.Machine.History

/-!
What the children of a machine are sent when they are asked to stop.

A signal finds a child until it is reaped, whether it runs or not, and then meets one error only,
which a request to stop takes for success. So a request never fails, and it tells by a line of its
own that its child was reaped before.
-/

namespace ServiceStack.Machine

variable {m : Machine} {pid : Nat} {r : Prop} [Decidable r]

/-! ### One request -/

/-- A request to stop, by the way in which its signal is sent. -/
def signalling {σ : Type} (send : Nat → σ → Except Errno Unit × σ) (p : Process) (s : σ) :
    Stopping σ :=
  let r := send p.key s
  match r.1 with
  | .ok () => ⟨.ok (), [], r.2⟩
  | .error .ESRCH => ⟨.ok (), [.gone p.name p.key], r.2⟩
  | .error e => ⟨.error (.ofErrno e), [], r.2⟩

/-- On a machine it is sent by `kill`. -/
lemma terminate_eq : terminate = signalling kill := rfl

/-- The one error there is comes of a child that was reaped. -/
lemma Has.kill (h : m.Has pid r) : (m.kill pid).1 = if r then .error .ESRCH else .ok () := by
  obtain ⟨c, hc, hr⟩ := h
  simp only [Machine.kill, hc, ← hr]
  split <;> rfl

/-- What a process logs by itself when it is asked to stop. Its child was reaped exactly if `r`. -/
def farewell (p : Process) (r : Prop) [Decidable r] : List Line :=
  if r then [.gone p.name p.key] else []

lemma Has.terminate {p : Process} (h : m.Has p.key r) :
    (m.terminate p).result = .ok () ∧ (m.terminate p).lines = farewell p r := by
  simp only [terminate_eq, signalling, h.kill]
  by_cases hr : r <;> simp [farewell, hr]

lemma child?_unchanged {f : Child → Child} (hf : ∀ c, m.child? pid = some c → f c = c) (q : Nat) :
    ((m.child? q).map fun c => if c.pid = pid then f c else c) = m.child? q := by
  cases hq : m.child? q with
  | none => rfl
  | some c =>
    have hc : c.pid = pid → f c = c := fun hpid => hf c (by rw [← hpid, (mem_of_child? hq).2, hq])
    simpa using hc

lemma child?_kill (pid q : Nat) :
    (m.kill pid).2.child? q = (m.child? q).map fun c => if c.pid = pid then c.kill else c := by
  -- where no signal arrives there is nobody to change, or a reaped child, which stays as it is
  cases hc : m.child? pid with
  | none =>
    rw [kill, hc, child?_unchanged (by simp [hc])]
  | some c =>
    by_cases hs : c.status = .reaped
    · have hkill : ∀ d, m.child? pid = some d → d.kill = d := by
        intro d hd
        obtain rfl : c = d := Option.some.inj (hc.symm.trans hd)
        exact Child.kill_of_reaped hs
      simp only [kill, hc, if_pos hs, child?_unchanged hkill]
    · simp only [kill, hc, if_neg hs]
      exact child?_modify Child.pid_kill q

/-! ### A trial of one process -/

/-- What a step of a trial does to the machine. -/
def Step.happenings (p : Process) : Step → List Happening
  | .hasId | .name => []
  | .terminate => [.asked p]
  | .reap => [.waited p.key]

lemma machine_step (p : Process) (m : Machine) (s : Step) :
    (m.step p s).machine = m.after (s.happenings p) := by
  cases s with
  | hasId | name => rfl
  | terminate =>
    simp only [step]
    split <;> rfl
  | reap =>
    simp only [step]
    split <;> rfl

lemma after_append (hs hs' : List Happening) : m.after (hs ++ hs') = (m.after hs).after hs' :=
  List.foldl_append

lemma getElem?_play {p : Process} {steps : List Step} {k : Nat} {s : Step}
    (hk : steps[k]? = some s) (m : Machine) :
    (m.play p steps).1[k]? =
      some ((m.after ((steps.take k).flatMap (Step.happenings p))).step p s) := by
  induction steps generalizing k m with
  | nil => simp at hk
  | cons s' steps ih =>
    cases k with
    | zero =>
      obtain rfl : s' = s := by simpa using hk
      rfl
    | succ k =>
      refine (ih (by simpa using hk) (m.step p s').machine).trans ?_
      rw [machine_step, ← after_append]
      rfl

lemma waited_mem_happenings (p : Process) (steps : List Step) :
    .waited p.key ∈ steps.flatMap (Step.happenings p) ↔ .reap ∈ steps := by
  induction steps with
  | nil => simp
  | cons s steps ih => cases s <;> simp [Step.happenings, ih]

/-! ### The signals of a sweep -/

/-- The machine with a record of the signals that were sent: the number each was for, and what came
of it. -/
abbrev Recorded := Machine × List (Nat × Except Errno Unit)

def sendRecorded (pid : Nat) (s : Recorded) : Except Errno Unit × Recorded :=
  let r := s.1.kill pid
  (r.1, r.2, s.2 ++ [(pid, r.1)])

/-- The machine as a host that keeps this record. -/
def recording : Host Recorded where
  spawn i s := ((s.1.spawn i).1, (s.1.spawn i).2, s.2)
  id p s := host.id p s.1
  terminate := signalling sendRecorded

lemma terminate_recording (p : Process) (s : Recorded) :
    recording.terminate p s = ⟨(s.1.terminate p).result, (s.1.terminate p).lines,
      (s.1.terminate p).host, s.2 ++ [(p.key, (s.1.kill p.key).1)]⟩ := by
  simp only [recording, terminate_eq, signalling, sendRecorded]
  split <;> rfl

lemma mirrors_recording : Mirrors host recording id fun m s => s.1 = m where
  name _ := rfl
  spawn := by
    rintro m s i rfl
    refine ⟨?_, rfl⟩
    cases h : (s.1.spawn i).1 <;> simp [recording, host, h, Except.map]
  number := by
    rintro m s p rfl
    rfl
  terminate := by
    rintro m s p rfl
    rw [id, terminate_recording]
    exact ⟨rfl, rfl, rfl⟩

variable {ps : List Process} {q : Process → Prop} [DecidablePred q]

lemma signals_killEach (hps : ∀ p ∈ ps, m.Has p.key (q p))
    (sent : List (Nat × Except Errno Unit)) :
    (Group.killEach recording ps (m, sent)).host.2 =
      sent ++ ps.map fun p => (p.key, if q p then .error .ESRCH else .ok ()) := by
  induction ps generalizing m sent with
  | nil => simp
  | cons p ps ih =>
    have hrest : ∀ p' ∈ ps, (m.terminate p).host.Has p'.key (q p') := fun p' hp' =>
      (hps p' (List.mem_cons_of_mem _ hp')).asked p
    have hp := (hps p List.mem_cons_self).kill
    rw [Group.killEach_cons, Outcome.host_after, Group.kill, terminate_recording, ih hrest, hp]
    simp

/-- What is logged of a process in a sweep, if the children of `q` were reaped. -/
def passage (q : Process → Prop) [DecidablePred q] (p : Process) : List Line :=
  .killing p.name (some p.key) :: farewell p (q p)

lemma level_of_mem_passage {p : Process} {l : Line} (hl : l ∈ passage q p) : l.level ≠ .warn := by
  by_cases hp : q p <;> simp [passage, farewell, hp] at hl
  · rcases hl with rfl | rfl <;> simp [Line.level]
  · simp [hl, Line.level]

lemma gone_mem_passage {p : Process} {name : String} {pid : Nat} :
    .gone name pid ∈ passage q p ↔ p = ⟨pid, name⟩ ∧ q p := by
  obtain ⟨key, own⟩ := p
  by_cases hp : q ⟨key, own⟩ <;> simp [passage, farewell, hp, and_comm, eq_comm]

/-- What is logged of each process: the announcement, and whether its child was reaped. -/
lemma lines_killEach (hps : ∀ p ∈ ps, m.Has p.key (q p)) :
    (Group.killEach host ps m).trace.lines = ps.flatMap (passage q) := by
  induction ps generalizing m with
  | nil => rfl
  | cons p ps ih =>
    have hrest : ∀ p' ∈ ps, (m.terminate p).host.Has p'.key (q p') := fun p' hp' =>
      (hps p' (List.mem_cons_of_mem _ hp')).asked p
    obtain ⟨hres, hlines⟩ := (hps p List.mem_cons_self).terminate
    have hkill : (Group.kill host p m).trace.lines = passage q p := by
      simp [Group.kill, host, hres, hlines, Group.warning, passage]
    rw [Group.killEach_cons, Outcome.trace_after, Trace.lines_append, hkill, List.flatMap_cons]
    exact congrArg _ (ih hrest)

lemma terminateEach_eq_after (ps : List Process) (m : Machine) :
    host.terminateEach ps m = m.after (ps.map .asked) := by
  rw [after, List.foldl_map]
  rfl

lemma child?_terminateEach (ps : List Process) (m : Machine) (pid : Nat) :
    (host.terminateEach ps m).child? pid =
      (m.child? pid).map fun c => if c.pid ∈ ps.map Process.key then c.kill else c := by
  induction ps generalizing m with
  | nil => simp [Host.terminateEach]
  | cons p ps ih =>
    refine (ih (m.terminate p).host).trans ?_
    rw [host_terminate, child?_kill, Option.map_map]
    refine congrArg (Option.map · _) (funext fun c => ?_)
    by_cases hp : c.pid = p.key <;> simp [hp, Child.kill_kill]

/-! ### A sweep behind a launch -/

/-- A group was launched on `m`, which left `t`, and is swept after some things have happened. -/
structure Undisturbed (m : Machine) (is : List Invocation) (g : Group) (t : Machine)
    (hs : List Happening) : Prop where
  /-- each member stands for a child that was started for its invocation -/
  started : ∃ cs : List Child, t.children = m.children ++ cs ∧
    cs.map Child.pid = g.members.map Process.key ∧
    List.Forall₂ (fun i (x : Process × Child) => Started i x.1 x.2) is (g.members.zip cs)
  /-- and no two children share a number -/
  own : (t.children.map Child.pid).Nodup
  /-- one signal for each child, in launch order, which fails for the reaped ones only -/
  signals : (g.terminateAll recording (t.after hs, [])).host.2 = g.members.map fun p =>
    (p.key, if .waited p.key ∈ hs then .error .ESRCH else .ok ())
  /-- the signals are those of the sweep itself -/
  recorded : (g.terminateAll recording (t.after hs, [])).trace =
      (g.terminateAll host (t.after hs)).trace ∧
    (g.terminateAll recording (t.after hs, [])).host.1 = (g.terminateAll host (t.after hs)).host
  lines : (g.terminateAll host (t.after hs)).trace.lines =
    .terminating g.size :: g.members.flatMap (passage (.waited ·.key ∈ hs))
  unwarned : ∀ l ∈ (g.terminateAll host (t.after hs)).trace.lines, l.level ≠ .warn
  /-- who is told to be gone was reaped, and no other one -/
  gone : ∀ name pid, .gone name pid ∈ (g.terminateAll host (t.after hs)).trace.lines ↔
    ⟨pid, name⟩ ∈ g.members ∧ .waited pid ∈ hs
  /-- no child of the group is left running -/
  stopped : ∀ p ∈ g.members, ∃ c, (g.terminateAll host (t.after hs)).host.child? p.key = some c ∧
    c.status ≠ .running ∧ (c.status = .reaped ↔ .waited p.key ∈ hs)
  /-- and no other child is touched -/
  others : ∀ pid ∉ g.members.map Process.key,
    (g.terminateAll host (t.after hs)).host.child? pid = (t.after hs).child? pid
  /-- no child at all is left running where the group has the machine to itself -/
  alone : m.children = [] → (∀ i, .called i ∉ hs) →
    (g.terminateAll host (t.after hs)).host.allGone = true

/-- What has happened to a machine that was swept is what had happened, and the requests. -/
lemma swept_eq_after (ps : List Process) (hs : List Happening) :
    (Group.terminateAll host ⟨ps⟩ (m.after hs)).host = m.after (hs ++ ps.map .asked) := by
  rw [Group.host_terminateAll, terminateEach_eq_after, after_append]

section Spawns

variable {t : Machine} {is : List Invocation} (hm : m.Numbered) (hc : host.Spawns m is ps t)

include hm hc

lemma has_after_spawns (hs : List Happening) :
    ∀ p ∈ ps, (t.after hs).Has p.key (.waited p.key ∈ hs) := fun _ hp =>
  ((has_spawns hm hc hp).after hs).congr (by simp)

lemma stopped_of_spawns (hs : List Happening) {p : Process} (hp : p ∈ ps) :
    ∃ c, (Group.terminateAll host ⟨ps⟩ (t.after hs)).host.child? p.key = some c ∧
      c.status ≠ .running ∧ (c.status = .reaped ↔ .waited p.key ∈ hs) := by
  obtain ⟨c, hchild, hr⟩ := has_after_spawns hm hc hs p hp
  have hpid : c.pid ∈ ps.map Process.key := (mem_of_child? hchild).2 ▸ List.mem_map_of_mem hp
  refine ⟨c.kill, ?_, Child.kill_ne_running c, (Child.kill_reaped c).trans hr⟩
  rw [Group.host_terminateAll, child?_terminateEach, hchild, Option.map_some, if_pos hpid]

lemma allGone_of_spawns {hs : List Happening} (hnone : m.children = [])
    (hcalls : ∀ i, .called i ∉ hs) :
    (Group.terminateAll host ⟨ps⟩ (t.after hs)).host.allGone = true := by
  obtain ⟨cs, hcs, -, hcpids⟩ := children_of_spawns hc
  -- every child that is left has the number of a member
  have hpids : (t.after (hs ++ ps.map .asked)).children.map Child.pid = ps.map Process.key := by
    rw [pids_after (by simpa using hcalls), hcs, hnone, List.nil_append, hcpids]
  have hnum := (hm.spawns hc).after (hs ++ ps.map .asked)
  rw [allGone, List.all_eq_true]
  intro c hcmem
  rw [swept_eq_after] at hcmem
  obtain ⟨p, hp, hpc⟩ := List.mem_map.mp (hpids ▸ List.mem_map_of_mem hcmem)
  obtain ⟨d, hd, hrun, -⟩ := stopped_of_spawns hm hc hs hp
  rw [swept_eq_after, hpc, hnum.child?_of_mem hcmem] at hd
  obtain rfl : c = d := Option.some.inj hd
  simpa using hrun

lemma undisturbed (hs : List Happening) : Undisturbed m is ⟨ps⟩ t hs := by
  have hhas := has_after_spawns hm hc hs
  have hlines : (Group.terminateAll host ⟨ps⟩ (t.after hs)).trace.lines =
      .terminating ps.length :: ps.flatMap (passage (.waited ·.key ∈ hs)) := by
    simp [Group.terminateAll, Group.size, lines_killEach hhas]
  have hrecord := mirrors_recording.terminateAll ⟨ps⟩ (t := (t.after hs, [])) rfl
  rw [Group.rename_id, id] at hrecord
  obtain ⟨cs, hcs, hstarted, hpids⟩ := children_of_spawns hc
  refine
    { started := ⟨cs, hcs, hpids, hstarted⟩
      own := (hm.spawns hc).nodup
      signals := ?_
      recorded := ⟨by rw [hrecord.trace, Trace.rename_id], hrecord.host⟩
      lines := hlines
      unwarned := fun l hl => ?_
      gone := fun name pid => ?_
      stopped := fun p hp => stopped_of_spawns hm hc hs hp
      others := fun pid hpid => ?_
      alone := allGone_of_spawns hm hc }
  · rw [Group.terminateAll, Outcome.host_after, signals_killEach hhas, List.nil_append]
  · rw [hlines, List.mem_cons, List.mem_flatMap] at hl
    rcases hl with rfl | ⟨p, -, hp⟩
    · simp [Line.level]
    · exact level_of_mem_passage hp
  · rw [hlines, List.mem_cons, List.mem_flatMap]
    simp [gone_mem_passage]
  · rw [Group.host_terminateAll, child?_terminateEach]
    cases hq : (t.after hs).child? pid with
    | none => rfl
    | some c =>
      have hnot : c.pid ∉ ps.map Process.key := (mem_of_child? hq).2 ▸ hpid
      rw [Option.map_some, if_neg hnot]

end Spawns

/-! ### Termination -/

/-- **Children that are gone disturb no termination.** A machine has started with no children, and
anything has happened on it.

A process that is started then stands for a child, and whatever happens between, every request to
stop it succeeds, and tells that its child is gone exactly if somebody has waited for the child
before, be it in the course of a trial of the process or ahead of it. And a group that is launched
then is swept undisturbed, whatever happens between. -/
theorem termination_undisturbed (disk : Disk) (path : List Octets) (before : List Happening) :
    let m := (⟨disk, path, []⟩ : Machine).after before
    (∀ i p t, m.spawn i = (.ok p, t) → ∀ hs,
      host.id p (t.after hs) = some p.key ∧ ((t.after hs).terminate p).result = .ok () ∧
        ((t.after hs).terminate p).lines = farewell p (.waited p.key ∈ hs) ∧
        ∀ steps k, steps[k]? = some .terminate → ∃ a,
          ((t.after hs).play p steps).1[k]? = some a ∧ a.reply = .done ∧
            a.lines = farewell p (.waited p.key ∈ hs ∨ .reap ∈ steps.take k)) ∧
      ∀ is g, (Group.launch host is m).value = .ok g → ∀ hs,
        Undisturbed m is g (Group.launch host is m).host hs := by
  intro m
  have hm : m.Numbered := numbered_after disk path before
  refine ⟨fun i p t hspawn hs => ?_, fun is g hg hs => ?_⟩
  · have hhas : ∀ hs, (t.after hs).Has p.key (.waited p.key ∈ hs) := fun hs =>
      ((has_spawn hm hspawn).after hs).congr (by simp)
    obtain ⟨hres, hlines⟩ := (hhas hs).terminate
    refine ⟨rfl, hres, hlines, fun steps k hk => ?_⟩
    have hplay := getElem?_play (p := p) hk (t.after hs)
    rw [← after_append] at hplay
    obtain ⟨hres, hlines⟩ := (hhas (hs ++ (steps.take k).flatMap (Step.happenings p))).terminate
    refine ⟨_, hplay, ?_, ?_⟩
    · simp only [step, hres]
    · simp only [step, hres, hlines, List.mem_append, waited_mem_happenings]
  · exact undisturbed hm (Group.spawns_of_launch hg) hs

/-- Of two children of one name the second has ended and was waited for: it is told to be gone, each
gets one signal, and none is left. A child alone is asked to stop, waited for and asked again. -/
theorem termination_undisturbed_twins :
    let m := withCargo (some (.program (.constant 0), Disk.runRights))
    let i : Invocation := ⟨"web", Utf8.encode "cargo", []⟩
    let p : Process := ⟨1000, "web"⟩
    let g : Group := ⟨[p, ⟨1001, "web"⟩]⟩
    let steps : List Step := [.terminate, .reap, .terminate]
    let o := Group.launch host [i, i] m
    let hs : List Happening := [.ended 1001 (.exit 3) [], .waited 1001]
    (m.spawn i).1 = .ok p ∧ steps[2]? = some .terminate ∧ o.value = .ok g ∧
      (∃ a, ((m.spawn i).2.play p steps).1[2]? = some a ∧ a.reply = .done ∧
        a.lines = [.gone "web" 1000]) ∧
      (g.terminateAll recording (o.host.after hs, [])).host.2 =
        [(1000, .ok ()), (1001, .error .ESRCH)] ∧
      (g.terminateAll host (o.host.after hs)).trace.lines = [.terminating 2,
        .killing "web" (some 1000), .killing "web" (some 1001), .gone "web" 1001] ∧
      (g.terminateAll host (o.host.after hs)).host.allGone = true := by
  intro m i p g steps o hs
  have hp : (m.spawn i).1 = .ok p := by decide +kernel
  have hk : steps[2]? = some .terminate := rfl
  have hg : o.value = .ok g := by decide +kernel
  obtain ⟨hone, hmany⟩ := termination_undisturbed m.disk m.searchPath []
  obtain ⟨-, -, -, hsteps⟩ := hone i p (m.spawn i).2 (Prod.ext hp rfl) []
  have hsweep : Undisturbed m [i, i] g o.host hs := hmany [i, i] g hg hs
  refine ⟨hp, hk, hg, hsteps steps 2 hk, ?_, ?_, hsweep.alone rfl (by simp [hs])⟩
  · rw [hsweep.signals]
    rfl
  · rw [hsweep.lines]
    rfl

end ServiceStack.Machine
