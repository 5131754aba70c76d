import Mathlib.Tactic.Lemma
import ServiceStack.Machine.Basic
import ServiceStack.Script.Stage
import ServiceStack.Supervisor.Basic

/-!
What a launch comes to.

The calls to a host are described apart from the launch. In `Spawns` all of them succeed, in
`Refuses` one fails after some that succeed, and there is no third case. A launch follows them:
it ends in a group of all processes, or it asks each process to stop that was started and returns
the failure of the call.
-/

namespace ServiceStack

variable {σ : Type}

namespace Host

variable (h : Host σ)

/-- The calls for some invocations, one after the other, give processes and leave a host. -/
inductive Spawns : σ → List Invocation → List Process → σ → Prop
  | nil (s : σ) : Spawns s [] [] s
  | cons {s t u : σ} {i : Invocation} {is : List Invocation} {p : Process} {ps : List Process}
    (call : h.spawn i s = (.ok p, t)) (rest : Spawns t is ps u) : Spawns s (i :: is) (p :: ps) u

/-- The calls for some invocations give processes up to some place, and the call there fails. -/
inductive Refuses : σ → List Invocation → Nat → List Process → Failure → σ → Prop
  | here {s t : σ} {i : Invocation} {is : List Invocation} {e : Failure}
    (call : h.spawn i s = (.error e, t)) : Refuses s (i :: is) 0 [] e t
  | later {s t u : σ} {i : Invocation} {is : List Invocation} {j : Nat} {p : Process}
    {ps : List Process} {e : Failure}
    (call : h.spawn i s = (.ok p, t)) (rest : Refuses t is j ps e u) :
    Refuses s (i :: is) (j + 1) (p :: ps) e u

/-- The host after each of some processes was asked to stop, once and in order. -/
def terminateEach (ps : List Process) (s : σ) : σ :=
  ps.foldl (fun s p => (h.terminate p s).host) s

/-- A call that fails names the service it was made for. -/
def NamesService : Prop :=
  ∀ i s e, (h.spawn i s).1 = .error e → ∃ f, e = .ofSpawn i.service f

variable {h}

lemma Spawns.length_eq {s t : σ} {is : List Invocation} {ps : List Process}
    (hc : h.Spawns s is ps t) : ps.length = is.length := by
  induction hc with
  | nil => rfl
  | cons _ _ ih => simp [ih]

lemma Refuses.length_eq {s t : σ} {is : List Invocation} {j : Nat} {ps : List Process} {e : Failure}
    (hc : h.Refuses s is j ps e t) : ps.length = j := by
  induction hc with
  | here => rfl
  | later _ _ ih => simp [ih]

lemma Refuses.length_take {s t : σ} {is : List Invocation} {j : Nat} {ps : List Process}
    {e : Failure} (hc : h.Refuses s is j ps e t) : ps.length = (is.take j).length := by
  induction hc with
  | here => rfl
  | later _ _ ih => simp [ih]

/-- The place of the refusal holds an invocation, and a host that names services names its. -/
lemma Refuses.place {s t : σ} {is : List Invocation} {j : Nat} {ps : List Process} {e : Failure}
    (hc : h.Refuses s is j ps e t) :
    ∃ i, is[j]? = some i ∧ (h.NamesService → e.failedService? = some i.service) := by
  induction hc with
  | @here s t i is e call =>
    refine ⟨i, rfl, fun hn => ?_⟩
    obtain ⟨f, rfl⟩ := hn i s e (by rw [call])
    rfl
  | later _ _ ih => simpa using ih

lemma spawns_or_refuses (h : Host σ) (is : List Invocation) (s : σ) :
    (∃ ps t, h.Spawns s is ps t) ∨ ∃ j ps e t, h.Refuses s is j ps e t := by
  induction is generalizing s with
  | nil => exact .inl ⟨[], s, .nil s⟩
  | cons i is ih =>
    rcases hi : h.spawn i s with ⟨e | p, t⟩
    · exact .inr ⟨0, [], e, t, .here hi⟩
    · rcases ih t with ⟨ps, u, hc⟩ | ⟨j, ps, e, u, hc⟩
      · exact .inl ⟨p :: ps, u, .cons hi hc⟩
      · exact .inr ⟨j + 1, p :: ps, e, u, .later hi hc⟩

end Host

namespace Group

variable {h : Host σ}

lemma launchOnto_ok {s t : σ} {i : Invocation} {p : Process} (call : h.spawn i s = (.ok p, t))
    (started : List Process) (is : List Invocation) :
    launchOnto h started (i :: is) s = (launchOnto h (started ++ [p]) is t).after
      [.line (.starting i), .event (.spawned i p), .line (.started p.name (h.id p t))] := by
  simp [launchOnto, call]

lemma launchOnto_error {s t : σ} {i : Invocation} {e : Failure}
    (call : h.spawn i s = (.error e, t)) (started : List Process) (is : List Invocation) :
    launchOnto h started (i :: is) s = ⟨.error e, (terminateAll h ⟨started⟩ t).host,
      [.line (.starting i), .event (.refused i), .line (.startFailed i.service e)] ++
        (terminateAll h ⟨started⟩ t).trace⟩ := by
  simp [launchOnto, call]

@[simp] lemma host_killEach (ps : List Process) (s : σ) :
    (killEach h ps s).host = h.terminateEach ps s := by
  induction ps generalizing s with
  | nil => rfl
  | cons p ps ih => simpa [Host.terminateEach, kill] using ih _

@[simp] lemma host_terminateAll (g : Group) (s : σ) :
    (g.terminateAll h s).host = h.terminateEach g.members s := by
  simp [terminateAll]

lemma launchOnto_spawns {s t : σ} {is : List Invocation} {ps : List Process}
    (hc : h.Spawns s is ps t) (started : List Process) :
    let o := launchOnto h started is s
    o.value = .ok ⟨started ++ ps⟩ ∧ o.host = t ∧
      o.trace.events = List.zipWith .spawned is ps := by
  induction hc generalizing started with
  | nil => simp [launchOnto]
  | @cons s t u i is p ps call _ ih =>
    obtain ⟨hv, hh, he⟩ := ih (started ++ [p])
    simp only [launchOnto_ok call]
    exact ⟨by simpa using hv, by simpa using hh, by simp [he]⟩

lemma launchOnto_refuses {s t : σ} {is : List Invocation} {j : Nat} {ps : List Process}
    {e : Failure} (hc : h.Refuses s is j ps e t) (started : List Process) :
    let o := launchOnto h started is s
    o.value = .error e ∧ o.host = h.terminateEach (started ++ ps) t ∧
      ∃ i, is[j]? = some i ∧ o.trace.events =
        List.zipWith .spawned (is.take j) ps ++ .refused i :: (started ++ ps).map .killed := by
  induction hc generalizing started with
  | @here s t i is e call => simp [launchOnto_error call]
  | @later s t u i is j p ps e call _ ih =>
    obtain ⟨hv, hh, k, hk, he⟩ := ih (started ++ [p])
    simp only [launchOnto_ok call]
    exact ⟨by simpa using hv, by simpa using hh, k, by simpa using hk, by simp [he]⟩

lemma launch_spawns {s t : σ} {is : List Invocation} {ps : List Process}
    (hc : h.Spawns s is ps t) :
    (launch h is s).value = .ok ⟨ps⟩ ∧ (launch h is s).host = t ∧
      (launch h is s).trace.events = List.zipWith .spawned is ps := by
  simpa [launch] using launchOnto_spawns hc []

lemma launch_refuses {s t : σ} {is : List Invocation} {j : Nat} {ps : List Process} {e : Failure}
    (hc : h.Refuses s is j ps e t) :
    (launch h is s).value = .error e ∧ (launch h is s).host = h.terminateEach ps t ∧
      ∃ i, is[j]? = some i ∧ (launch h is s).trace.events =
        List.zipWith .spawned (is.take j) ps ++ .refused i :: ps.map .killed := by
  simpa [launch] using launchOnto_refuses hc []

lemma spawns_of_launch {s : σ} {is : List Invocation} {g : Group}
    (hg : (launch h is s).value = .ok g) : h.Spawns s is g.members (launch h is s).host := by
  rcases h.spawns_or_refuses is s with ⟨ps, t, hc⟩ | ⟨j, ps, e, t, hc⟩
  · obtain ⟨hv, rfl, -⟩ := launch_spawns hc
    obtain rfl : ⟨ps⟩ = g := Except.ok.inj (hv.symm.trans hg)
    exact hc
  · obtain ⟨hv, -⟩ := launch_refuses hc
    cases hv.symm.trans hg

end Group

/-! ### All or nothing -/

/-- What the start of several processes promises: a group of all of them, or the failure of a call
with a request to stop for each process that was started before it. -/
structure AllOrNothing {α : Type} (h : Host σ) (is : List Invocation) (s : σ) (group : α → Group)
    (o : Outcome σ (Except Failure α)) : Prop where
  decided : (∃ ps t, h.Spawns s is ps t) ∨ ∃ j ps e t, h.Refuses s is j ps e t
  all : ∀ ps t, h.Spawns s is ps t → ∃ a, o.value = .ok a ∧ (group a).members = ps ∧
    (group a).names = ps.map Process.name ∧ (group a).size = is.length ∧
    ((group a).isEmpty = true ↔ is = []) ∧ o.host = t ∧
    o.trace.events = List.zipWith .spawned is ps
  nothing : ∀ j ps e t, h.Refuses s is j ps e t → ∃ i, is[j]? = some i ∧ ps.length = j ∧
    o.value = .error e ∧ o.host = h.terminateEach ps t ∧
    o.trace.events = List.zipWith .spawned (is.take j) ps ++ .refused i :: ps.map .killed ∧
    (h.NamesService → e.failedService? = some i.service)

lemma allOrNothing_launch (h : Host σ) (is : List Invocation) (s : σ) :
    AllOrNothing h is s id (Group.launch h is s) where
  decided := h.spawns_or_refuses is s
  all ps t hc := by
    obtain ⟨hv, hh, he⟩ := Group.launch_spawns hc
    have hl := hc.length_eq
    refine ⟨⟨ps⟩, hv, rfl, rfl, hl, ?_, hh, he⟩
    rw [← List.length_eq_zero_iff, ← hl]
    simp [Group.isEmpty]
  nothing j ps e t hc := by
    obtain ⟨hv, hh, i, hi, he⟩ := Group.launch_refuses hc
    obtain ⟨k, hk, hn⟩ := hc.place
    obtain rfl : i = k := by simpa [hi] using hk
    exact ⟨i, hi, hc.length_eq, hv, hh, he, hn⟩

/-- Lines in front and a change of the value that keeps the group take nothing away. -/
lemma AllOrNothing.map {α β : Type} {h : Host σ} {is : List Invocation} {s : σ}
    {group : α → Group} {o : Outcome σ (Except Failure α)} (ho : AllOrNothing h is s group o)
    (f : α → β) (group' : β → Group) (hg : ∀ a, group' (f a) = group a) (ls : List Line) :
    AllOrNothing h is s group'
      { o.after (Trace.ofLines ls) with value := (o.after (Trace.ofLines ls)).value.map f } where
  decided := ho.decided
  all ps t hc := by
    obtain ⟨a, hv, hm⟩ := ho.all ps t hc
    exact ⟨f a, by simp [hv, Except.map], by simpa [hg] using hm⟩
  nothing j ps e t hc := by
    obtain ⟨i, hi, hl, hv, hm⟩ := ho.nothing j ps e t hc
    exact ⟨i, hi, hl, by simp [hv, Except.map], by simpa using hm⟩

lemma allOrNothing_start (h : Host σ) (settings : Settings) (s : σ) :
    AllOrNothing h settings.invocations s Supervisor.group (Supervisor.start h settings s) :=
  (allOrNothing_launch h settings.invocations s).map
    (fun g => (⟨settings, g, .running⟩ : Supervisor)) Supervisor.group (fun _ => rfl)
    [.launching settings.invocations.length settings.mode]

lemma Machine.namesService_host : Machine.host.NamesService := by
  intro i m e he
  simp only [host, spawn] at he
  split at he
  · exact ⟨_, by simpa using he.symm⟩
  · simp at he

/-- **A launch is all or nothing**, on every host and for all invocations, and so is the start of
a supervisor. The last part is the premise of the named service, on the machine. -/
theorem launch_all_or_nothing (h : Host σ) :
    (∀ is s, AllOrNothing h is s id (Group.launch h is s)) ∧
      (∀ settings s, AllOrNothing h settings.invocations s Supervisor.group
        (Supervisor.start h settings s)) ∧
      Machine.host.NamesService :=
  ⟨allOrNothing_launch h, allOrNothing_start h, Machine.namesService_host⟩

/-- The third of four equal calls fails, and of the two processes that are up neither can be asked
to stop: both are asked, and the failure of the call is the one returned. -/
theorem launch_all_or_nothing_third :
    let script := Script.ofList [{ killFailure := some (.ofText "busy") },
      { killFailure := some (.ofText "away") }, { failure := some (.ofSpawn "web" (.os 2)) }]
    let i : Invocation := ⟨"web", [], []⟩
    let ps : List Process := [⟨0, "web"⟩, ⟨1, "web"⟩]
    let o := Group.launch Stage.host [i, i, i, i] ⟨script, 0⟩
    Stage.host.Refuses ⟨script, 0⟩ [i, i, i, i] 2 ps (.ofSpawn "web" (.os 2)) ⟨script, 3⟩ ∧
      o.value = .error (.ofSpawn "web" (.os 2)) ∧
      o.trace.events = [.spawned i ⟨0, "web"⟩, .spawned i ⟨1, "web"⟩, .refused i,
        .killed ⟨0, "web"⟩, .killed ⟨1, "web"⟩] := by
  intro script i ps o
  have hc : Stage.host.Refuses ⟨script, 0⟩ [i, i, i, i] 2 ps (.ofSpawn "web" (.os 2))
      ⟨script, 3⟩ := .later rfl (.later rfl (.here rfl))
  obtain ⟨k, hk, -, hv, -, he, -⟩ := ((launch_all_or_nothing Stage.host).1 _ _).nothing _ _ _ _ hc
  obtain rfl : i = k := by simpa using hk
  exact ⟨hc, hv, he⟩

end ServiceStack
