import Mathlib.Data.List.Nodup
import Mathlib.Tactic.Lemma
import ServiceStack.Machine.Trial
import ServiceStack.Proofs.Group.Launch

/-!
What happens to the children of a machine.

Children are numbered in turn, so a number stands for one child for good. Whatever happens on the
machine, a child is reaped from the moment on when somebody waits for it, and by nothing else.
-/

namespace ServiceStack

namespace Child

@[simp] lemma pid_finish (job : Child → Job) (c : Child) : (c.finish job).pid = c.pid := by
  unfold finish
  split <;> rfl

@[simp] lemma pid_kill (c : Child) : c.kill.pid = c.pid := by
  unfold kill
  split <;> rfl

lemma finish_ne_running (job : Child → Job) (c : Child) : (c.finish job).status ≠ .running := by
  rcases h : c.status <;> simp [finish, h]

lemma kill_ne_running (c : Child) : c.kill.status ≠ .running := by
  rcases h : c.status <;> simp [kill, h]

lemma finish_reaped (job : Child → Job) (c : Child) :
    (c.finish job).status = .reaped ↔ c.status = .reaped := by
  rcases h : c.status <;> simp [finish, h]

lemma kill_reaped (c : Child) : c.kill.status = .reaped ↔ c.status = .reaped := by
  rcases h : c.status <;> simp [kill, h]

lemma kill_of_reaped {c : Child} (h : c.status = .reaped) : c.kill = c := by
  simp [kill, h]

lemma kill_kill (c : Child) : c.kill.kill = c.kill := by
  rcases h : c.status <;> simp [kill, h]

/-- The child after somebody has waited for it. -/
def reap (c : Child) : Child := { c with status := .reaped }

@[simp] lemma pid_reap (c : Child) : c.reap.pid = c.pid := rfl

end Child

namespace Machine

variable {m : Machine} {pid : Nat}

/-! ### Numbers -/

/-- The children are numbered in turn. -/
def Numbered (m : Machine) : Prop :=
  m.children.map Child.pid = List.range' 1000 m.children.length

lemma Numbered.nodup (hm : m.Numbered) : (m.children.map Child.pid).Nodup := by
  rw [hm]
  exact List.nodup_range'

/-- Whether the children are numbered in turn is a matter of their numbers. -/
lemma Numbered.of_pids (hm : m.Numbered) {t : Machine}
    (ht : t.children.map Child.pid = m.children.map Child.pid) : t.Numbered := by
  have hlength : t.children.length = m.children.length := by
    simpa using congrArg List.length ht
  rw [Numbered, ht, hlength]
  exact hm

lemma pids_modify {f : Child → Child} (hf : ∀ c, (f c).pid = c.pid) :
    (m.modify pid f).children.map Child.pid = m.children.map Child.pid := by
  have hpid : (Child.pid ∘ fun c => if c.pid = pid then f c else c) = Child.pid := by
    funext c
    simp only [Function.comp_apply]
    split
    · exact hf c
    · rfl
  rw [Machine.modify, List.map_map, hpid]

lemma mem_of_child? {c : Child} (h : m.child? pid = some c) : c ∈ m.children ∧ c.pid = pid :=
  ⟨List.mem_of_find?_eq_some h, by simpa using List.find?_some h⟩

/-- A number stands for one child. -/
lemma Numbered.child?_of_mem (hm : m.Numbered) {c : Child} (hc : c ∈ m.children) :
    m.child? c.pid = some c := by
  cases h : m.child? c.pid with
  | none => simpa using List.find?_eq_none.mp h c hc
  | some d =>
    obtain ⟨hd, hpid⟩ := mem_of_child? h
    rw [List.inj_on_of_nodup_map hm.nodup hd hc hpid]

lemma child?_modify {f : Child → Child} (hf : ∀ c, (f c).pid = c.pid) (q : Nat) :
    (m.modify pid f).child? q = (m.child? q).map fun c => if c.pid = pid then f c else c := by
  have hpid : ((fun c : Child => decide (c.pid = q)) ∘ fun c => if c.pid = pid then f c else c) =
      fun c => decide (c.pid = q) := by
    funext c
    simp only [Function.comp_apply]
    split
    · rw [hf]
    · rfl
  rw [child?, Machine.modify, List.find?_map, hpid]
  rfl

/-! ### What may happen -/

inductive Happening where
  /-- a process is asked to stop -/
  | asked (p : Process)
  /-- the child of some number ends by itself, in any way -/
  | ended (pid : Nat) (ending : Ending) (output : Raw)
  /-- somebody waits for the child of some number -/
  | waited (pid : Nat)
  /-- another child is started -/
  | called (i : Invocation)
deriving DecidableEq

def happen (m : Machine) : Happening → Machine
  | .asked p => (m.terminate p).host
  | .ended pid ending output => m.modify pid (Child.finish fun _ => ⟨output, ending⟩)
  | .waited pid => (m.reap pid).2
  | .called i => (m.spawn i).2

/-- The machine after some things have happened, one after the other. -/
def after (m : Machine) (hs : List Happening) : Machine := hs.foldl happen m

lemma host_terminate (p : Process) : (m.terminate p).host = (m.kill p.key).2 := by
  rw [terminate]
  split <;> rfl

lemma kill_cases (pid : Nat) : (m.kill pid).2 = m ∨ (m.kill pid).2 = m.modify pid Child.kill := by
  unfold kill
  split
  · exact .inl rfl
  · split
    · exact .inl rfl
    · exact .inr rfl

lemma reap_cases (pid : Nat) :
    (m.reap pid).2 = m.finish pid ∨ (m.reap pid).2 = (m.finish pid).modify pid Child.reap := by
  unfold reap
  dsimp only
  split
  · exact .inr rfl
  · exact .inl rfl

lemma reap_zombie {c : Child} {ending : Ending} (hc : (m.finish pid).child? pid = some c)
    (hs : c.status = .zombie ending) : (m.reap pid).2 = (m.finish pid).modify pid Child.reap := by
  simp only [reap, hc, Option.map_some, hs]
  rfl

/-- Only a call adds a child. -/
lemma pids_happen {e : Happening} (he : ∀ i, e ≠ .called i) :
    (m.happen e).children.map Child.pid = m.children.map Child.pid := by
  cases e with
  | asked p =>
    rw [happen, host_terminate]
    rcases kill_cases (m := m) p.key with h | h <;> rw [h]
    exact pids_modify Child.pid_kill
  | ended pid ending output => exact pids_modify (Child.pid_finish _)
  | waited pid =>
    have hf : (m.finish pid).children.map Child.pid = m.children.map Child.pid :=
      pids_modify (Child.pid_finish _)
    rw [happen]
    rcases reap_cases (m := m) pid with h | h <;> rw [h]
    · exact hf
    · exact (pids_modify Child.pid_reap).trans hf
  | called i => exact absurd rfl (he i)

lemma pids_after {hs : List Happening} (hcalls : ∀ i, .called i ∉ hs) :
    (m.after hs).children.map Child.pid = m.children.map Child.pid := by
  induction hs generalizing m with
  | nil => rfl
  | cons e hs ih =>
    have he : ∀ i, e ≠ .called i := by
      rintro i rfl
      exact hcalls i List.mem_cons_self
    exact (ih fun i hi => hcalls i (List.mem_cons_of_mem _ hi)).trans (pids_happen he)

lemma Numbered.spawn (hm : m.Numbered) (i : Invocation) : (m.spawn i).2.Numbered := by
  unfold Machine.spawn
  split
  · exact hm
  · rw [Numbered, List.map_append, hm, List.length_append, List.length_singleton,
      List.range'_1_concat]
    rfl

lemma Numbered.happen (hm : m.Numbered) (e : Happening) : (m.happen e).Numbered := by
  cases e with
  | called i => exact hm.spawn i
  | asked | ended | waited => exact hm.of_pids (pids_happen (by simp))

lemma Numbered.after (hm : m.Numbered) (hs : List Happening) : (m.after hs).Numbered := by
  induction hs generalizing m with
  | nil => exact hm
  | cons e hs ih => exact ih (hm.happen e)

/-- Every machine that begins without children is numbered. -/
lemma numbered_after (disk : Disk) (path : List Octets) (hs : List Happening) :
    ((⟨disk, path, []⟩ : Machine).after hs).Numbered :=
  Numbered.after (m := ⟨disk, path, []⟩) rfl hs

/-! ### Who is reaped -/

/-- There is a child of some number, and it is reaped exactly if `r`. -/
def Has (m : Machine) (pid : Nat) (r : Prop) : Prop :=
  ∃ c, m.child? pid = some c ∧ (c.status = .reaped ↔ r)

namespace Has

variable {r : Prop}

lemma congr {r' : Prop} (h : m.Has pid r) (hr : r ↔ r') : m.Has pid r' := by
  obtain ⟨c, hc, hs⟩ := h
  exact ⟨c, hc, hs.trans hr⟩

/-- A change that reaps nobody. -/
lemma modify (h : m.Has pid r) (q : Nat) {f : Child → Child} (hf : ∀ c, (f c).pid = c.pid)
    (hs : ∀ c, (f c).status = .reaped ↔ c.status = .reaped) : (m.modify q f).Has pid r := by
  obtain ⟨c, hc, hr⟩ := h
  refine ⟨_, by rw [child?_modify hf, hc, Option.map_some], ?_⟩
  split
  · rw [hs, hr]
  · exact hr

/-- A change of another child. -/
lemma modify_ne (h : m.Has pid r) {q : Nat} (hq : pid ≠ q) {f : Child → Child}
    (hf : ∀ c, (f c).pid = c.pid) : (m.modify q f).Has pid r := by
  obtain ⟨c, hc, hr⟩ := h
  refine ⟨c, ?_, hr⟩
  have hpid : c.pid ≠ q := (mem_of_child? hc).2 ▸ hq
  rw [child?_modify hf, hc, Option.map_some, if_neg hpid]

lemma asked (h : m.Has pid r) (p : Process) : (m.terminate p).host.Has pid r := by
  rw [host_terminate]
  rcases kill_cases (m := m) p.key with hk | hk <;> rw [hk]
  · exact h
  · exact h.modify _ Child.pid_kill Child.kill_reaped

/-- Whoever waits for a child reaps it, and no other one. -/
lemma waited (h : m.Has pid r) (q : Nat) : (m.reap q).2.Has pid (r ∨ q = pid) := by
  have hfin : (m.finish q).Has pid r := h.modify _ (Child.pid_finish _) (Child.finish_reaped _)
  by_cases hq : pid = q
  · -- a child that is waited for ends first, so it is a zombie by then, or was reaped before
    subst hq
    obtain ⟨c, hc, -⟩ := h
    have hc' : (m.finish pid).child? pid = some (c.finish m.job) := by
      rw [Machine.finish, child?_modify (Child.pid_finish _), hc, Option.map_some,
        if_pos (mem_of_child? hc).2]
    cases hs : (c.finish m.job).status with
    | running => exact absurd hs (Child.finish_ne_running _ c)
    | zombie ending =>
      refine ⟨(c.finish m.job).reap, ?_, by simp [Child.reap]⟩
      rw [reap_zombie hc' hs, child?_modify Child.pid_reap, hc', Option.map_some,
        if_pos (mem_of_child? hc').2]
    | reaped =>
      refine ⟨c.finish m.job, ?_, by simp [hs]⟩
      simp only [reap, hc', Option.map_some, hs]
  · have hreap : (m.reap q).2.Has pid r := by
      rcases reap_cases (m := m) q with hk | hk <;> rw [hk]
      · exact hfin
      · exact hfin.modify_ne hq Child.pid_reap
    exact hreap.congr (by simp [Ne.symm hq])

lemma called (h : m.Has pid r) (i : Invocation) : (m.spawn i).2.Has pid r := by
  obtain ⟨c, hc, hr⟩ := h
  refine ⟨c, ?_, hr⟩
  unfold Machine.spawn
  split
  · exact hc
  · rw [child?, List.find?_append, ← child?, hc]
    rfl

lemma happen (h : m.Has pid r) (e : Happening) : (m.happen e).Has pid (r ∨ e = .waited pid) := by
  cases e with
  | asked p => exact (h.asked p).congr (by simp)
  | ended q ending output =>
    exact (h.modify q (Child.pid_finish _) (Child.finish_reaped _)).congr (by simp)
  | waited q => exact (h.waited q).congr (by simp)
  | called i => exact (h.called i).congr (by simp)

/-- **A child is reaped** from the moment on when somebody waits for it. -/
lemma after (h : m.Has pid r) (hs : List Happening) :
    (m.after hs).Has pid (r ∨ .waited pid ∈ hs) := by
  induction hs generalizing m r with
  | nil => exact h.congr (by simp)
  | cons e hs ih => exact (ih (h.happen e)).congr (by simp [or_assoc, eq_comm])

end Has

/-! ### Who is started -/

/-- A process stands for a child that was started for an invocation. -/
structure Started (i : Invocation) (p : Process) (c : Child) : Prop where
  pid : c.pid = p.key
  name : p.name = i.service
  program : c.program = i.program
  args : c.args = i.args
  running : c.status = .running

lemma spawn_ok {i : Invocation} {p : Process} {t : Machine} (h : m.spawn i = (.ok p, t)) :
    ∃ c, t = { m with children := m.children ++ [c] } ∧ Started i p c := by
  unfold Machine.spawn at h
  split at h
  · cases h
  · cases h
    exact ⟨_, rfl, rfl, rfl, rfl, rfl, rfl⟩

/-- Calls that succeed add a child for each process, in order. -/
lemma children_of_spawns {t : Machine} {is : List Invocation} {ps : List Process}
    (h : host.Spawns m is ps t) :
    ∃ cs : List Child, t.children = m.children ++ cs ∧
      List.Forall₂ (fun i (x : Process × Child) => Started i x.1 x.2) is (ps.zip cs) ∧
      cs.map Child.pid = ps.map Process.key := by
  induction h with
  | nil s => exact ⟨[], by simp, .nil, rfl⟩
  | @cons s t u i is p ps call _ ih =>
    obtain ⟨c, rfl, hc⟩ := spawn_ok call
    obtain ⟨cs, hcs, hall, hpid⟩ := ih
    exact ⟨c :: cs, by simp [hcs], .cons hc hall, by simp [hpid, hc.pid]⟩

/-- Calls that succeed are a history of calls. -/
lemma after_of_spawns {t : Machine} {is : List Invocation} {ps : List Process}
    (h : host.Spawns m is ps t) : t = m.after (is.map .called) := by
  induction h with
  | nil s => rfl
  | @cons s t u i is p ps call _ ih =>
    have ht : t = (s.spawn i).2 := (congrArg Prod.snd call).symm
    rw [ih, ht]
    rfl

lemma Numbered.spawns {t : Machine} {is : List Invocation} {ps : List Process} (hm : m.Numbered)
    (h : host.Spawns m is ps t) : t.Numbered :=
  after_of_spawns h ▸ hm.after _

lemma Numbered.called {i : Invocation} {p : Process} {t : Machine} (hm : m.Numbered)
    (h : m.spawn i = (.ok p, t)) : t.Numbered := by
  have ht := hm.spawn i
  rwa [h] at ht

/-- The child that is started has its number to itself. -/
lemma has_spawn {i : Invocation} {p : Process} {t : Machine} (hm : m.Numbered)
    (h : m.spawn i = (.ok p, t)) : t.Has p.key False := by
  obtain ⟨c, ht, hc⟩ := spawn_ok h
  refine ⟨c, ?_, by simp [hc.running]⟩
  rw [← hc.pid]
  exact (hm.called h).child?_of_mem (by simp [ht])

lemma has_spawns {t : Machine} {is : List Invocation} {ps : List Process} (hm : m.Numbered)
    (h : host.Spawns m is ps t) {p : Process} (hp : p ∈ ps) : t.Has p.key False := by
  induction h with
  | nil s => cases hp
  | @cons s t u i is q ps call rest ih =>
    rcases List.mem_cons.mp hp with rfl | hp
    · rw [after_of_spawns rest]
      exact ((has_spawn hm call).after _).congr (by simp)
    · exact ih (hm.called call) hp

end Machine

end ServiceStack
