import Mathlib.Data.List.Nodup
import ServiceStack.Proofs.Host.Notes
import ServiceStack.Proofs.Script.Ledger

/-!
No process of a session is lost or asked to stop twice.

The invariant `Kept` ties the ledger of a session to its trace: the processes of the batches are
those that were started, and those of the batches that were asked to stop are, up to their order,
those that were asked. One step keeps it, whatever the step and whatever the script, so it holds
after any steps; that keys are never given twice turns it into a count. What is traced is what the
stage itself notes, so the count is one of the requests that a process received.
-/

namespace ServiceStack

namespace Session

/-- All that some steps trace. -/
def trace (s : Session) (sts : List Step) : Trace := (s.play sts).flatMap Answer.trace

/-- The ledger after some steps. -/
def ledger (s : Session) (l : Ledger) : List Step → Ledger
  | [] => l
  | st :: sts => (s.step st).session.ledger (l.record st (s.step st)) sts

@[simp] lemma trace_nil (s : Session) : s.trace [] = [] := rfl

@[simp] lemma trace_cons (s : Session) (st : Step) (sts : List Step) :
    s.trace (st :: sts) = (s.step st).trace ++ (s.step st).session.trace sts := by
  simp [trace, play]

/-- The account that the stage itself keeps of some steps. -/
def account (s : Session) (sts : List Step) : List Deed :=
  s.holding.account Stage.host (sts.map Step.order)

lemma events_account (s : Session) (sts : List Step) :
    (s.trace sts).events = (s.account sts).map Deed.event := by
  have hrs := congrArg (List.flatMap Prod.snd) (s.play_eq_follow sts)
  rw [List.flatMap_map, List.flatMap_map] at hrs
  rw [account, ← Holding.events_account]
  exact congrArg Trace.events hrs

/-- A session before its first step. -/
def fresh (script : Script) : Session := { stage := { script := script } }

variable {s : Session}

lemma step_launch_ok {is : List Invocation} {ps : List Process} {u : Stage}
    (hc : Stage.host.Spawns s.stage is ps u) :
    s.step (.launch is) =
      ⟨.done, (Group.launch Stage.host is s.stage).trace, ⟨u, some ⟨ps⟩⟩⟩ := by
  obtain ⟨hv, hh, -⟩ := Group.launch_spawns hc
  simp [step, hv, hh]

lemma step_launch_error {is : List Invocation} {j : Nat} {ps : List Process} {e : Failure}
    {u : Stage} (hc : Stage.host.Refuses s.stage is j ps e u) :
    s.step (.launch is) =
      ⟨.failed e, (Group.launch Stage.host is s.stage).trace, ⟨u, s.group⟩⟩ := by
  obtain ⟨hv, hh, -⟩ := Group.launch_refuses hc
  simp [step, hv, hh, Stage.terminateEach_eq]

lemma step_terminateAll_none (hg : s.group = none) : s.step .terminateAll = ⟨.noGroup, [], s⟩ := by
  simp [step, hg]

lemma step_terminateAll (s : Session) :
    (s.step .terminateAll).trace.spawned = [] ∧
      (s.step .terminateAll).trace.killed = s.group.elim [] Group.members ∧
      (s.step .terminateAll).trace.calls = [] ∧
      (s.step .terminateAll).session = { s with group := none } := by
  rcases s with ⟨st, _ | g⟩
  · exact ⟨rfl, rfl, rfl, rfl⟩
  · obtain ⟨hs, hd, hcalls⟩ := Trace.views_killed (Group.events_terminateAll Stage.host g st)
    exact ⟨hs, hd, hcalls, by simp [step, Stage.terminateEach_eq]⟩

end Session

/-! ### What requests come to -/

/-- What a request to stop the process of a call comes to. -/
def Script.answer (script : Script) (call : Nat) : Except Failure Unit :=
  match (script call).killFailure with
  | some e => .error e
  | none => .ok ()

namespace Stage

lemma result_terminate (p : Process) (st : Stage) :
    (Stage.host.terminate p st).result = st.script.answer p.key := by
  rcases hk : (st.script p.key).killFailure with _ | e <;>
    simp only [host, terminate, Script.answer, hk]

lemma script_spawn (i : Invocation) (st : Stage) : (Stage.host.spawn i st).2.script = st.script := by
  simp only [host, spawn]
  split <;> rfl

lemma answer_setId (call : Nat) (id : Option Nat) (st : Stage) :
    (st.setId call id).script.answer = st.script.answer := by
  funext k
  have hk : ((st.setId call id).script k).killFailure = (st.script k).killFailure := by
    simp only [setId]
    split <;> rfl
  simp only [Script.answer, hk]

end Stage

/-- The requests that a stage noted came to what a script has for them, and so will the next. -/
structure Answered (script : Script) (s : Stage × List Deed) : Prop where
  noted : ∀ r, .asked r ∈ s.2 → r.result = script.answer r.process.key
  next : s.1.script.answer = script.answer

namespace Answered

variable {script : Script} {s : Stage × List Deed}

lemma spawn (ha : Answered script s) (i : Invocation) :
    Answered script (Stage.host.noting.spawn i s).2 where
  noted r hr := by
    rcases List.mem_append.mp hr with hr | hr
    · exact ha.noted r hr
    · -- a call is noted as a call
      rcases hc : (Stage.host.spawn i s.1).1 with e | p <;> simp [hc] at hr
  next := (congrArg Script.answer (Stage.script_spawn i s.1)).trans ha.next

lemma terminate (ha : Answered script s) (p : Process) :
    Answered script (Stage.host.noting.terminate p s).host where
  noted r hr := by
    rcases List.mem_append.mp hr with hr | hr
    · exact ha.noted r hr
    · obtain rfl := Deed.asked.inj (List.mem_singleton.mp hr)
      exact (Stage.result_terminate p s.1).trans (congrFun ha.next p.key)
  next := (congrArg (·.script.answer) (Stage.host_terminate p s.1)).trans ha.next

lemma setId (ha : Answered script s) (call : Nat) (id : Option Nat) :
    Answered script (s.1.setId call id, s.2) :=
  ⟨ha.noted, (Stage.answer_setId call id s.1).trans ha.next⟩

end Answered

namespace Session

lemma Step.mirrored_order (script : Script) (st : Step) :
    st.order.Mirrored (fun s (t : Stage × List Deed) => t.1 = s ∧ Answered script t)
      st.order.noted := by
  cases st with
  | launch is => exact .launch 0 is
  | info => exact .info 0
  | terminateAll => exact .terminateAll 0
  | drop => exact .drop 0
  | setId call id =>
    exact .meanwhile fun h => ⟨congrArg (Stage.setId call id) h.1, h.2.setId call id⟩

lemma result_account (script : Script) (sts : List Step) {r : Asking}
    (hr : .asked r ∈ (fresh script).account sts) : r.result = script.answer r.process.key := by
  have hm := (Mirrors.noting Stage.host).keeping (P := Answered script)
    (fun i ha => ha.spawn i) (fun p ha => ha.terminate p)
  have ho : List.Forall₂ (Order.Mirrored fun s (t : Stage × List Deed) =>
      t.1 = s ∧ Answered script t) (sts.map Step.order) ((sts.map Step.order).map Order.noted) := by
    rw [List.map_map, List.forall₂_map_left_iff, List.forall₂_map_right_iff, List.forall₂_same]
    exact fun st _ => st.mirrored_order script
  have ha : Answered script ((fresh script).stage, []) :=
    ⟨fun r hr => absurd hr List.not_mem_nil, rfl⟩
  have hk : (fresh script).holding.Mirrored (fun s (t : Stage × List Deed) =>
      t.1 = s ∧ Answered script t) ((fresh script).holding.noted []) := ⟨⟨rfl, ha⟩, rfl⟩
  exact (hm.follow ho hk).2.host.2.noted r hr

end Session

/-! ### The invariant -/

/-- What holds of the ledger and the trace of a session at any time. -/
structure Kept (l : Ledger) (t : Trace) (s : Session) : Prop where
  spawned : t.spawned = l.flatMap Batch.members
  killed : t.killed.Perm (l.members Fate.asked)
  held : (l.filter (·.fate = .held)).map Batch.members = s.group.toList.map Group.members
  keyed : Keyed 0 t.calls
  calls : t.calls.length = s.stage.calls

namespace Kept

variable {l : Ledger} {t : Trace} {s : Session}

lemma fresh (script : Script) : Kept [] [] (.fresh script) where
  spawned := rfl
  killed := .refl _
  held := rfl
  keyed := keyed_nil 0
  calls := rfl

lemma members_held (hk : Kept l t s) : l.members (· = .held) = (s.group.elim [] Group.members) := by
  rw [Ledger.members_held, hk.held]
  cases s.group <;> simp

lemma launch_ok (hk : Kept l t s) {is : List Invocation} {ps : List Process} {u : Stage}
    (hc : Stage.host.Spawns s.stage is ps u) :
    Kept (l.record (.launch is) (s.step (.launch is))) (t ++ (s.step (.launch is)).trace)
      (s.step (.launch is)).session := by
  obtain ⟨hs, hd, hcalls⟩ := Trace.views_spawned hc.length_eq (Group.launch_spawns hc).2.2
  obtain ⟨hkey, hn⟩ := Stage.keyed_spawns hc
  rw [Session.step_launch_ok hc]
  -- the group before it is let go without a request, and the new one is held
  refine ⟨?_, ?_, ?_, ?_, ?_⟩
  · simp [Ledger.record, hs, hk.spawned, Ledger.members_leave]
  · simpa [Ledger.record, hd, Ledger.leave_released_asked, Fate.asked] using hk.killed
  · simp [Ledger.record, hs, Ledger.held_leave]
  · rw [Trace.calls_append, hcalls]
    exact hk.keyed.append (by rwa [hk.calls, Nat.zero_add])
  · simp [hcalls, hk.calls, hn, hc.length_eq]

lemma launch_error (hk : Kept l t s) {is : List Invocation} {j : Nat} {ps : List Process}
    {e : Failure} {u : Stage} (hc : Stage.host.Refuses s.stage is j ps e u) :
    Kept (l.record (.launch is) (s.step (.launch is))) (t ++ (s.step (.launch is)).trace)
      (s.step (.launch is)).session := by
  obtain ⟨i, hi, he⟩ := (Group.launch_refuses hc).2.2
  obtain ⟨hs, hd, hcalls⟩ := Trace.views_refused hc.length_take he
  obtain ⟨hkey, hn⟩ := Stage.keyed_refuses hc i
  rw [Session.step_launch_error hc]
  -- those it started were asked by itself, and the group before it stays
  refine ⟨?_, ?_, ?_, ?_, ?_⟩
  · simp [Ledger.record, hs, hk.spawned]
  · simpa [Ledger.record, hd, hs, Fate.asked] using hk.killed.append_right ps
  · simpa [Ledger.record] using hk.held
  · rw [Trace.calls_append, hcalls]
    exact hk.keyed.append (by rwa [hk.calls, Nat.zero_add])
  · have hl := hc.length_take
    rw [List.length_take, hc.length_eq] at hl
    simp [hcalls, hk.calls, hn, hc.length_eq]
    omega

lemma terminateAll (hk : Kept l t s) :
    Kept (l.record .terminateAll (s.step .terminateAll)) (t ++ (s.step .terminateAll).trace)
      (s.step .terminateAll).session := by
  obtain ⟨hs, hd, hcalls, hses⟩ := s.step_terminateAll
  refine ⟨?_, ?_, ?_, ?_, ?_⟩
  · simp [Ledger.record, hs, hk.spawned, Ledger.members_leave]
  · refine .trans ?_ (Ledger.perm_leave_swept l).symm
    rw [Trace.killed_append, hd, hk.members_held]
    exact hk.killed.append_right _
  · simp [Ledger.record, Ledger.held_leave, hses]
  · simpa [hcalls] using hk.keyed
  · simpa [hcalls, hses] using hk.calls

lemma drop (hk : Kept l t s) :
    Kept (l.record .drop (s.step .drop)) (t ++ (s.step .drop).trace) (s.step .drop).session where
  spawned := by simp [Ledger.record, Session.step, hk.spawned, Ledger.members_leave]
  killed := by simpa [Ledger.record, Session.step, Ledger.leave_released_asked] using hk.killed
  held := by simp [Ledger.record, Session.step, Ledger.held_leave]
  keyed := by simpa [Session.step] using hk.keyed
  calls := by simpa [Session.step] using hk.calls

/-- **One step**, of whatever kind, keeps the invariant. -/
lemma step (hk : Kept l t s) (st : Session.Step) :
    Kept (l.record st (s.step st)) (t ++ (s.step st).trace) (s.step st).session := by
  cases st with
  | launch is =>
    rcases Stage.host.spawns_or_refuses is s.stage with ⟨ps, u, hc⟩ | ⟨j, ps, e, u, hc⟩
    · exact hk.launch_ok hc
    · exact hk.launch_error hc
  | info =>
    have hs : (s.step .info).trace = [] ∧ (s.step .info).session = s := by
      rcases hg : s.group <;> simp [Session.step, hg]
    simpa [Ledger.record, hs.1, hs.2] using hk
  | terminateAll => exact hk.terminateAll
  | drop => exact hk.drop
  | setId call id =>
    obtain ⟨hs, hd, hh, hkey, hn⟩ := hk
    refine ⟨?_, ?_, hh, ?_, ?_⟩
    · simpa [Ledger.record, Session.step] using hs
    · simpa [Ledger.record, Session.step] using hd
    · simpa [Session.step] using hkey
    · simpa [Session.step, Stage.setId] using hn

/-- **Any steps** keep the invariant. -/
lemma run (hk : Kept l t s) (sts : List Session.Step) :
    Kept (s.ledger l sts) (t ++ s.trace sts) (s.last sts) := by
  induction sts generalizing l t s with
  | nil => simpa [Session.ledger, Session.last] using hk
  | cons st sts ih => simpa [Session.ledger, Session.last] using ih (hk.step st)

/-! ### Counting by keys -/

lemma nodup_spawned (hk : Kept l t s) : (t.spawned.map Process.key).Nodup := by
  have hp := hk.keyed.pairwise.1
  have hcs : t.calls.filterMap Event.spawned? = t.spawned := by
    rw [Trace.calls, Trace.spawned, List.filterMap_filter]
    congr 1
    funext e
    cases e <;> rfl
  rw [hcs] at hp
  exact List.pairwise_map.mpr (hp.imp fun h => Nat.ne_of_lt h)

lemma nodup_places (hk : Kept l t s) :
    (((l.members Fate.asked) ++ (l.members (· = .held) ++ l.members (· = .released))).map
      Process.key).Nodup := by
  have := hk.nodup_spawned
  rw [hk.spawned] at this
  exact (l.perm_members.map Process.key).nodup_iff.mp this

lemma mem_spawned (hk : Kept l t s) {p : Process} (hp : p ∈ t.killed) : p ∈ t.spawned := by
  obtain ⟨b, hb, -, hpb⟩ := Ledger.mem_members.mp (hk.killed.mem_iff.mp hp)
  rw [hk.spawned]
  exact List.mem_flatMap.mpr ⟨b, hb, hpb⟩

lemma count_eq (hk : Kept l t s) (k : Nat) :
    (t.killed.map Process.key).count k = ((l.members Fate.asked).map Process.key).count k :=
  (hk.killed.map Process.key).count_eq k

lemma count_le_one (hk : Kept l t s) (k : Nat) : (t.killed.map Process.key).count k ≤ 1 := by
  have hn := hk.nodup_places
  rw [List.map_append] at hn
  rw [hk.count_eq]
  exact List.nodup_iff_count_le_one.mp hn.of_append_left k

/-- What became of a process tells how often it was asked to stop. -/
lemma count_of_mem (hk : Kept l t s) {b : Batch} (hb : b ∈ l) {p : Process}
    (hp : p ∈ b.members) :
    (t.killed.map Process.key).count p.key = if b.fate.asked then 1 else 0 := by
  have hn := hk.nodup_places
  rw [List.map_append] at hn
  rw [hk.count_eq]
  by_cases ha : b.fate.asked = true
  · rw [if_pos ha]
    refine List.count_eq_one_of_mem hn.of_append_left (List.mem_map_of_mem ?_)
    exact Ledger.mem_members.mpr ⟨b, hb, ha, hp⟩
  · rw [if_neg ha, List.count_eq_zero]
    intro hm
    refine List.disjoint_of_nodup_append hn hm (List.mem_map_of_mem (List.mem_append.mpr ?_))
    rcases b with ⟨ps, _ | _ | _ | _⟩
    · exact absurd rfl ha
    · exact .inl (Ledger.mem_members.mpr ⟨_, hb, rfl, hp⟩)
    · exact absurd rfl ha
    · exact .inr (Ledger.mem_members.mpr ⟨_, hb, rfl, hp⟩)

lemma mem_ledger {b : Batch} (hb : b ∈ l) (hf : b.fate ≠ .held) (s : Session)
    (sts : List Session.Step) : b ∈ s.ledger l sts := by
  induction sts generalizing l s with
  | nil => exact hb
  | cons st sts ih => exact ih (Ledger.mem_record hb hf st (s.step st)) _

lemma not_asked_later (hk : Kept l t s) {b : Batch} (hb : b ∈ l) (hf : b.fate ≠ .held)
    {p : Process} (hp : p ∈ b.members) (later : List Session.Step) :
    p.key ∉ (s.trace later).killed.map Process.key := by
  have hnow := hk.count_of_mem hb hp
  have hthen := (hk.run later).count_of_mem (mem_ledger hb hf s later) hp
  rw [Trace.killed_append, List.map_append, List.count_append, hnow] at hthen
  rw [← List.count_eq_zero]
  omega

lemma length_spawned (hk : Kept l t s) :
    t.spawned.length =
      t.killed.length + (s.group.elim 0 Group.size) + (l.members (· = .released)).length := by
  have hg : (s.group.elim [] Group.members).length = s.group.elim 0 Group.size := by
    cases s.group <;> rfl
  rw [hk.spawned, l.perm_members.length_eq, List.length_append, List.length_append,
    hk.members_held, hg, hk.killed.length_eq]
  omega

end Kept

namespace Session

/-- What became of the processes of a session on a script: `t` is what it traced, `ds` the account
that the stage kept meanwhile, `l` the ledger and `now` the session as it stands. -/
structure Custody (script : Script) (t : Trace) (ds : List Deed) (l : Ledger) (now : Session) :
    Prop where
  /-- processes are told by the calls that gave them -/
  keyed : ∀ (k : Nat) i p, t.calls[k]? = some (.spawned i p) → p.key = k
  started : t.spawned = l.flatMap Batch.members
  distinct : (t.spawned.map Process.key).Nodup
  /-- what is traced is what the stage was asked -/
  events : t.events = ds.map Deed.event
  /-- nobody is asked who was not started -/
  known : ∀ r ∈ Deed.requests ds, r.process ∈ t.spawned
  once : ∀ k, (Deed.received ds k).length ≤ 1
  /-- a process received a request if its launch failed later on or its group was swept, and the
  request came to what the script has for it -/
  fates : ∀ b ∈ l, ∀ p ∈ b.members, Deed.received ds p.key =
    if b.fate = .undone ∨ b.fate = .swept then [script.answer p.key] else []
  /-- who is held is in the current group, in launch order -/
  held : (l.filter (·.fate = .held)).map Batch.members = now.group.toList.map Group.members
  /-- who is not held receives nothing later -/
  settled : ∀ b ∈ l, b.fate ≠ .held → ∀ later, b ∈ now.ledger l later ∧
    ∀ p ∈ b.members, Deed.received (now.account later) p.key = []
  conserved : t.spawned.length = (Deed.requests ds).length + now.group.elim 0 Group.size +
    (l.members (· = .released)).length
  /-- behind a sweep there is no group, and a second sweep asks nobody -/
  swept :
    let after := (now.step .terminateAll).session
    after.group = none ∧ after.step .terminateAll = ⟨.noGroup, [], after⟩ ∧
      after.account [.terminateAll] = []

lemma sweep_twice (s : Session) :
    let after := (s.step .terminateAll).session
    after.group = none ∧ after.step .terminateAll = ⟨.noGroup, [], after⟩ ∧
      after.account [.terminateAll] = [] := by
  intro after
  have hnone : after.group = none := congrArg Session.group s.step_terminateAll.2.2.2
  have hstep := step_terminateAll_none hnone
  refine ⟨hnone, hstep, ?_⟩
  have hev := after.events_account [.terminateAll]
  rw [trace_cons, hstep] at hev
  exact List.map_eq_nil_iff.mp hev.symm

/-- **No process is lost or asked to stop twice**, whatever the script and whatever the steps. What a
process received is read off the account that the stage itself keeps, and to keep it changes no
answer. -/
theorem process_accounted (script : Script) (sts : List Step) :
    let s := fresh script
    Custody script (s.trace sts) (s.account sts) (s.ledger [] sts) (s.last sts) ∧
      ((s.holding.noted []).follow Stage.host.noting ((sts.map Step.order).map Order.noted)).map
        (fun r => (r.reply, r.trace)) = (s.play sts).map fun a => (a.reply, a.trace) := by
  intro s
  have hk : Kept (s.ledger [] sts) (s.trace sts) (s.last sts) := by
    simpa using (Kept.fresh script).run sts
  have hev := s.events_account sts
  have hkilled := Deed.killed_eq hev
  -- every process has an answer of its own, so what it received is told by a count
  have hreceived : ∀ k, Deed.received (s.account sts) k =
      List.replicate (((s.trace sts).killed.map Process.key).count k) (script.answer k) := by
    intro k
    rw [Deed.received_eq fun r hr => result_account script sts hr, hkilled, List.map_map]
    rfl
  refine ⟨?_, ?_⟩
  · exact {
      keyed := fun k i p h => by simpa using hk.keyed k i p h
      started := hk.spawned
      distinct := hk.nodup_spawned
      events := hev
      known := fun r hr => hk.mem_spawned (hkilled ▸ List.mem_map_of_mem hr)
      once := fun k => by
        rw [hreceived, List.length_replicate]
        exact hk.count_le_one k
      fates := fun b hb p hp => by
        rw [hreceived, hk.count_of_mem hb hp]
        cases hf : b.fate <;> simp [Fate.asked]
      held := hk.held
      settled := fun b hb hf later => ⟨Kept.mem_ledger hb hf _ later, fun p hp =>
        Deed.received_eq_nil ((s.last sts).events_account later)
          (hk.not_asked_later hb hf hp later)⟩
      conserved := by
        rw [hk.length_spawned, hkilled, List.length_map]
      swept := (s.last sts).sweep_twice }
  · rw [s.holding.follow_noting, s.play_eq_follow]

/-- A launch fails behind a process that cannot be asked to stop, the next one takes the place of
the group before it, and a sweep follows: whoever was let go is not asked, then or later. -/
theorem process_accounted_replaced :
    let script := Script.ofList [{}, { killFailure := some (.ofText "busy") },
      { failure := some (.ofSpawn "web" (.os 2)) }]
    let i : Invocation := ⟨"web", [], []⟩
    let sts : List Step :=
      [.launch [i], .launch [i, i], .setId 0 (some 7), .launch [i], .terminateAll]
    let s := fresh script
    s.ledger [] sts = [⟨[⟨0, "web"⟩], .released⟩, ⟨[⟨1, "web"⟩], .undone⟩,
        ⟨[⟨3, "web"⟩], .swept⟩] ∧
      Deed.received (s.account sts) 1 = [.error (.ofText "busy")] ∧
      Deed.received (s.account sts) 3 = [.ok ()] ∧
      ∀ later, Deed.received ((s.last sts).account later) 0 = [] := by
  intro script i sts s
  have hl : s.ledger [] sts = [⟨[⟨0, "web"⟩], .released⟩, ⟨[⟨1, "web"⟩], .undone⟩,
      ⟨[⟨3, "web"⟩], .swept⟩] := by decide
  have hmem : ∀ {k f}, ⟨[⟨k, "web"⟩], f⟩ ∈ [(⟨[⟨0, "web"⟩], .released⟩ : Batch),
      ⟨[⟨1, "web"⟩], .undone⟩, ⟨[⟨3, "web"⟩], .swept⟩] → ⟨[⟨k, "web"⟩], f⟩ ∈ s.ledger [] sts :=
    fun hb => hl ▸ hb
  obtain ⟨hc, -⟩ := process_accounted script sts
  refine ⟨hl, ?_, ?_, fun later => ?_⟩
  · exact hc.fates _ (hmem (f := .undone) (by simp)) ⟨1, "web"⟩ (List.mem_singleton.mpr rfl)
  · exact hc.fates _ (hmem (f := .swept) (by simp)) ⟨3, "web"⟩ (List.mem_singleton.mpr rfl)
  · exact (hc.settled _ (hmem (f := .released) (by simp)) (by decide) later).2 ⟨0, "web"⟩
      (List.mem_singleton.mpr rfl)

end Session

end ServiceStack
