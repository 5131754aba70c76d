import ServiceStack.Proofs.Program.Ending

/-!
A request to stop that arrives at any place of a run.

The program takes a request as its interrupt only once it listens for one; until then a request ends
it on the spot. It begins to listen when all calls are over, so a request during the launch leaves
running what was started, and every later one stops all of it.
-/

namespace ServiceStack

namespace Trace

def upTo (t : Trace) (n : Nat) : Trace := t.take n

/-- What a run comes to when a request arrives behind the first `n` entries of its trace. Once the
run listens the request is its interrupt, and a trace does not tell when that came; before, the
request ends the run on the spot. -/
def requested (t : Trace) (n : Nat) : Trace :=
  if .listening ∈ (t.upTo n).events then t else t.upTo n

/-- Whether the request stops each process that is up by then. -/
def Honours (t : Trace) (n : Nat) : Prop :=
  ∀ p ∈ (t.upTo n).spawned, p ∈ (t.requested n).killed

instance (t : Trace) (n : Nat) : Decidable (t.Honours n) :=
  inferInstanceAs (Decidable (∀ p ∈ (t.upTo n).spawned, p ∈ (t.requested n).killed))

variable {t : Trace} {n : Nat}

lemma events_upTo (t : Trace) (n : Nat) : (t.upTo n).events <+: t.events :=
  ⟨events (t.drop n), by rw [← events_append, upTo, List.take_append_drop]⟩

lemma spawned_upTo (t : Trace) (n : Nat) : (t.upTo n).spawned <+: t.spawned :=
  (events_upTo t n).filterMap _

lemma honours_of_listening (hl : .listening ∈ (t.upTo n).events) (hk : t.killed = t.spawned) :
    t.Honours n := by
  intro p hp
  rw [requested, if_pos hl, hk]
  exact (spawned_upTo t n).subset hp

lemma not_honours (hl : .listening ∉ (t.upTo n).events) (hs : (t.upTo n).spawned ≠ [])
    (hk : (t.upTo n).killed = []) : ¬ t.Honours n := by
  intro hh
  obtain ⟨p, hp⟩ := List.exists_mem_of_ne_nil _ hs
  have hno := hh p hp
  rw [requested, if_neg hl, hk] at hno
  exact List.not_mem_nil hno

lemma spawned_of_listening {es ds : List Event} (ht : t.events = es ++ .listening :: ds)
    (hes : .listening ∉ es) (hds : ds.filterMap Event.spawned? = [])
    (hl : .listening ∈ (t.upTo n).events) : (t.upTo n).spawned = t.spawned := by
  have hp : (t.upTo n).events <+: es ++ .listening :: ds := ht ▸ events_upTo t n
  -- the listening is in the part, so all that comes before it is
  have hall : es <+: (t.upTo n).events := by
    rcases List.prefix_or_prefix_of_prefix hp (List.prefix_append es _) with h | h
    · exact absurd (h.subset hl) hes
    · exact h
  have hspawned : t.spawned = es.filterMap Event.spawned? := by
    rw [spawned, ht, List.filterMap_append, ← List.singleton_append, List.filterMap_append, hds]
    simp [Event.spawned?]
  exact (spawned_upTo t n).eq_of_length_le
    (hspawned ▸ (hall.filterMap Event.spawned?).length_le)

end Trace

namespace Program

variable {σ : Type} {h : Host σ}

lemma trace_supervise (h : Host σ) (settings : Settings) {wakes : List Wake}
    (hi : Interrupts wakes) (s : σ) :
    let t := (supervise h settings wakes s).trace
    t.killed = t.spawned ∧ (.listening ∉ t.events ∨ ∃ es ds, t.events = es ++ .listening :: ds ∧
      .listening ∉ es ∧ ds.filterMap Event.spawned? = []) := by
  rcases h.spawns_or_refuses settings.invocations s with ⟨ps, u, hc⟩ | ⟨j, ps, e, u, hc⟩
  · -- all calls succeed, so the run listens behind them
    rcases ticks_or_interrupts wakes with ⟨hn, -⟩ | ⟨-, looks, result, later, rfl⟩
    · exact absurd hi hn
    · obtain ⟨-, -, he⟩ := supervise_interrupted hc looks result later
      obtain ⟨hs, hk⟩ := Trace.views_interrupted hc.length_eq he
      refine ⟨hk.trans hs.symm, .inr ⟨_, _, he, Event.listening_notMem_zipWith _ _, ?_⟩⟩
      exact Event.filterMap_spawned?_killed ps
  · -- a call fails, so the run never comes to listen
    obtain ⟨-, -, i, -, he⟩ := supervise_refuses hc wakes
    obtain ⟨hs, hk, -⟩ := Trace.views_refused hc.length_take he
    refine ⟨hk.trans hs.symm, .inl ?_⟩
    rw [he]
    simp [Event.listening_notMem_zipWith]

/-- **When a request is honoured**: at any place behind the first process and before the sweep,
exactly if the program listens by then. In that case no call is still to come and each process is
asked to stop; otherwise none is. -/
theorem honours_iff_listening (h : Host σ) (settings : Settings) {wakes : List Wake}
    (hi : Interrupts wakes) (s : σ) (n : Nat) :
    let t := (supervise h settings wakes s).trace
    (t.upTo n).spawned ≠ [] → (t.upTo n).killed = [] →
      (t.Honours n ↔ .listening ∈ (t.upTo n).events) ∧
        (.listening ∈ (t.upTo n).events →
          (t.upTo n).spawned = t.spawned ∧ (t.requested n).killed = t.spawned) ∧
        (.listening ∉ (t.upTo n).events → (t.requested n).killed = []) := by
  intro t hs hk
  obtain ⟨hall, horder⟩ := trace_supervise h settings hi s
  refine ⟨⟨fun hh => ?_, fun hl => Trace.honours_of_listening hl hall⟩, fun hl => ⟨?_, ?_⟩,
    fun hl => ?_⟩
  · by_contra hl
    exact Trace.not_honours hl hs hk hh
  · rcases horder with hnot | ⟨es, ds, he, hes, hds⟩
    · exact absurd ((Trace.events_upTo t n).subset hl) hnot
    · exact Trace.spawned_of_listening he hes hds hl
  · rw [Trace.requested, if_pos hl, hall]
  · rw [Trace.requested, if_neg hl, hk]

theorem honours_iff_listening_idle :
    let st : Stage := ⟨Script.ofList [{}, { killFailure := some (.ofText "busy") }], 0⟩
    let t := (supervise Stage.host .standard [.tick true, .interrupted (.ok ())] st).trace
    (t.upTo 12).spawned ≠ [] ∧ (t.upTo 12).killed = [] ∧ t.Honours 12 := by
  intro st t
  have hs : (t.upTo 12).spawned ≠ [] := by decide
  have hk : (t.upTo 12).killed = [] := by decide
  have hi : Interrupts [.tick true, .interrupted (.ok ())] := ⟨_, .tail _ (.head _)⟩
  exact ⟨hs, hk, (honours_iff_listening Stage.host .standard hi st 12 hs hk).1.mpr (by decide)⟩

/-- A request behind the first process is lost: the program does not listen yet, and leaves the
process running. -/
theorem request_lost_behind_frontend :
    let st : Stage := ⟨Script.ofList [], 0⟩
    let t := (supervise Stage.host .standard [.interrupted (.ok ())] st).trace
    (t.upTo 3).spawned = [⟨0, "frontend"⟩] ∧ (t.upTo 3).killed = [] ∧
      .listening ∉ (t.upTo 3).events ∧ (t.requested 3).killed = [] ∧ ¬ t.Honours 3 := by
  decide

end Program

end ServiceStack
