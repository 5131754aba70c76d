import ServiceStack.Proofs.Group.Launch
import ServiceStack.Proofs.Phase.History
import ServiceStack.Proofs.Trace
import ServiceStack.Script.Stage

/-!
A supervisor from its start to its end.

The loop keeps one invariant: while it waits, the phase is `running`, the interrupt is unanswered,
and what it has traced together with what the next look at the interrupt will add is always the
same. So the interrupt is asked for once, in whichever turn that happens, and neither the number
of turns nor their kind shows in the trace.
-/

namespace ServiceStack

variable {σ : Type} {h : Host σ}

namespace Idling

/-- The loop goes on and the interrupt is still open. -/
structure Waiting (i : Idling) : Prop where
  running : i.phase = .running
  unanswered : i.watch ≠ .answered

/-- What the loop has yet to trace of the wait for the interrupt. -/
def owed (i : Idling) : Trace := i.watch.look.2

lemma look_look (w : Watch) : w.look.2 ++ w.look.1.look.2 = w.look.2 := by
  cases w <;> rfl

/-- A tick changes nothing but who has asked: what is traced is no longer owed. -/
lemma turn_tick {i : Idling} (hi : i.Waiting) (looked : Bool) :
    (i.turn (.tick looked)).1.Waiting ∧
      (i.turn (.tick looked)).2 ++ (i.turn (.tick looked)).1.owed = i.owed := by
  obtain ⟨hr, ho⟩ := hi
  cases looked with
  | false => exact ⟨⟨hr, ho⟩, rfl⟩
  | true =>
    refine ⟨⟨hr, ?_⟩, look_look i.watch⟩
    cases hw : i.watch <;> simp_all [turn, Watch.look]

lemma turn_interrupted {i : Idling} (hi : i.Waiting) (result : Except Failure Unit) :
    i.turn (.interrupted result) = (⟨.shuttingDown, .answered⟩, i.owed ++ .event .interrupted ::
      Trace.ofLines (warning result ++ [.moved .running .shuttingDown])) := by
  obtain ⟨hr, ho⟩ := hi
  simp [turn, ho, hr, owed, Phase.interrupt, Phase.moveTo]

lemma loop_cons {i : Idling} (hi : i.Waiting) (w : Wake) (ws : List Wake) :
    i.loop (w :: ws) =
      (((i.turn w).1.loop ws).1, (i.turn w).2 ++ ((i.turn w).1.loop ws).2) := by
  obtain ⟨hr, -⟩ := hi
  simp [loop, hr]

/-- The loop ends with the interrupt, and its trace shows no turn before it. -/
lemma loop_interrupted {i : Idling} (hi : i.Waiting) (looks : List Bool)
    (result : Except Failure Unit) (later : List Wake) :
    i.loop (looks.map .tick ++ .interrupted result :: later) =
      (⟨.shuttingDown, .answered⟩, i.owed ++ .event .interrupted ::
        Trace.ofLines (warning result ++ [.moved .running .shuttingDown])) := by
  induction looks generalizing i with
  | nil =>
    have hend : (⟨.shuttingDown, .answered⟩ : Idling).loop later =
        (⟨.shuttingDown, .answered⟩, []) := by
      cases later <;> simp [loop]
    rw [List.map_nil, List.nil_append, loop_cons hi, turn_interrupted hi, hend, List.append_nil]
  | cons b looks ih =>
    obtain ⟨hw, ho⟩ := turn_tick hi b
    rw [List.map_cons, List.cons_append, loop_cons hi, ih hw, ← List.append_assoc, ho]

lemma loop_ticks {i : Idling} (hi : i.Waiting) (looks : List Bool) :
    (i.loop (looks.map .tick)).1.Waiting ∧
      (i.loop (looks.map .tick)).2 ++ (i.loop (looks.map .tick)).1.owed = i.owed := by
  induction looks generalizing i with
  | nil => exact ⟨hi, rfl⟩
  | cons b looks ih =>
    obtain ⟨hw, ho⟩ := turn_tick hi b
    obtain ⟨hws, hos⟩ := ih hw
    rw [List.map_cons, loop_cons hi]
    exact ⟨hws, by rw [List.append_assoc, hos, ho]⟩

end Idling

/-! ### The changes of phase of a sweep and a launch -/

namespace Group

/-- The lines that processes log by themselves while each of them is asked to stop. -/
def told (h : Host σ) : List Process → σ → List Line
  | [], _ => []
  | p :: ps, s => (h.terminate p s).lines ++ told h ps (h.terminate p s).host

lemma changes_warning (name : String) (r : Except Failure Unit) :
    changes (warning name r) = [] := by
  rcases r with e | - <;> rfl

lemma changes_kill (p : Process) (s : σ) :
    changes (kill h p s).trace.lines = changes (h.terminate p s).lines := by
  simp [kill, changes_warning, Line.change?]

lemma changes_killEach (ps : List Process) (s : σ) :
    changes (killEach h ps s).trace.lines = changes (told h ps s) := by
  induction ps generalizing s with
  | nil => rfl
  | cons p ps ih =>
    rw [killEach_cons, Outcome.trace_after, Trace.lines_append, changes_append, changes_kill, ih,
      told, changes_append]
    rfl

lemma changes_terminateAll (g : Group) (s : σ) :
    changes (g.terminateAll h s).trace.lines = changes (told h g.members s) := by
  simp [terminateAll, changes_killEach, Line.change?]

lemma changes_launch {s t : σ} {is : List Invocation} {ps : List Process}
    (hc : h.Spawns s is ps t) : changes (launch h is s).trace.lines = [] := by
  suffices ∀ started, changes (launchOnto h started is s).trace.lines = [] from this []
  induction hc with
  | nil => intro started; rfl
  | cons call _ ih => intro started; simp [launchOnto_ok call, ih, Line.change?]

end Group

/-! ### Start and run -/

namespace Supervisor

lemma start_spawns {settings : Settings} {s t : σ} {ps : List Process}
    (hc : h.Spawns s settings.invocations ps t) :
    (start h settings s).value = .ok ⟨settings, ⟨ps⟩, .running⟩ ∧ (start h settings s).host = t ∧
      (start h settings s).trace.events = List.zipWith .spawned settings.invocations ps := by
  obtain ⟨hv, hh, he⟩ := Group.launch_spawns hc
  exact ⟨by simp [start, hv, Except.map], by simpa [start] using hh, by simpa [start] using he⟩

lemma start_refuses {settings : Settings} {s t : σ} {j : Nat} {ps : List Process} {e : Failure}
    (hc : h.Refuses s settings.invocations j ps e t) :
    (start h settings s).value = .error e ∧
      (start h settings s).host = h.terminateEach ps t ∧
      ∃ i, settings.invocations[j]? = some i ∧ (start h settings s).trace.events =
        List.zipWith .spawned (settings.invocations.take j) ps ++
          .refused i :: ps.map .killed := by
  obtain ⟨hv, hh, i, hi, he⟩ := Group.launch_refuses hc
  exact ⟨by simp [start, hv, Except.map], by simpa [start] using hh, i, hi,
    by simpa [start] using he⟩

lemma start_ok {settings : Settings} {s : σ} {sup : Supervisor}
    (hs : (start h settings s).value = .ok sup) :
    sup = ⟨settings, sup.group, .running⟩ ∧
      h.Spawns s settings.invocations sup.group.members (start h settings s).host ∧
      (start h settings s).trace.events =
        List.zipWith .spawned settings.invocations sup.group.members ∧
      changes (start h settings s).trace.lines = [] := by
  rcases h.spawns_or_refuses settings.invocations s with ⟨ps, t, hc⟩ | ⟨j, ps, e, t, hc⟩
  · obtain ⟨hv, hh, he⟩ := start_spawns hc
    obtain rfl : ⟨settings, ⟨ps⟩, .running⟩ = sup := Except.ok.inj (hv.symm.trans hs)
    exact ⟨rfl, hh ▸ hc, he, by simpa [start, Line.change?] using Group.changes_launch hc⟩
  · rw [(start_refuses hc).1] at hs
    cases hs

lemma run_interrupted {sup : Supervisor} (hp : sup.phase = .running) (looks : List Bool)
    (result : Except Failure Unit) (later : List Wake) (s : σ) :
    sup.run h (looks.map .tick ++ .interrupted result :: later) s =
      ⟨some .terminated, h.terminateEach sup.group.members s,
        [.line (.running sup.group.names), .event .listening, .event .interrupted] ++
          Trace.ofLines (Idling.warning result ++ [.moved .running .shuttingDown]) ++
          (sup.group.terminateAll h s).trace ++ [.line (.moved .shuttingDown .terminated)]⟩ := by
  have hw : Idling.Waiting { phase := .running } := ⟨rfl, by simp⟩
  simp only [run, hp, Idling.loop_interrupted hw looks result later]
  simp [Phase.finish, Phase.moveTo, Idling.owed, Watch.look, Trace.ofLines]

lemma run_ticks {sup : Supervisor} (hp : sup.phase = .running) (looks : List Bool) (s : σ) :
    let o := sup.run h (looks.map .tick) s
    o.value = none ∧ o.host = s ∧ o.trace.events <+: [.listening] := by
  have hw : Idling.Waiting { phase := .running } := ⟨rfl, by simp⟩
  obtain ⟨⟨hr, -⟩, ho⟩ := Idling.loop_ticks hw looks
  simp only [run, hp, hr]
  refine ⟨trivial, trivial, ?_⟩
  have he := congrArg Trace.events ho
  rw [Trace.events_append] at he
  exact ⟨_, he⟩

lemma wakes_eq (i : Interrupt) (pollMs : Nat) :
    i.wakes pollMs =
      (List.replicate (i.atMs / pollMs) true).map .tick ++ [.interrupted i.result] := by
  simp [Interrupt.wakes]

lemma start_poll {settings : Settings} {s : σ} {sup : Supervisor}
    (hs : (start h settings s).value = .ok sup) (pollMs : Nat) :
    start h { settings with pollMs := pollMs } s =
      { start h settings s with
        value := .ok ⟨{ settings with pollMs := pollMs }, sup.group, .running⟩ } := by
  rcases hl : Group.launch h settings.invocations s with ⟨e | g, t, trace⟩
  · simp [start, hl, Except.map] at hs
  · obtain rfl : ⟨settings, g, .running⟩ = sup := by simpa [start, hl, Except.map] using hs
    have hi : Settings.invocations { settings with pollMs := pollMs } = settings.invocations := rfl
    simp [start, hi, hl, Except.map]

lemma count_listening (is : List Invocation) (ps qs : List Process) :
    (List.zipWith Event.spawned is ps ++ [Event.listening, Event.interrupted] ++
      qs.map Event.killed).count Event.listening = 1 := by
  have hk : Event.listening ∉ qs.map Event.killed := by simp
  rw [List.count_append, List.count_append, List.count_eq_zero_of_not_mem hk,
    List.count_eq_zero_of_not_mem (Event.listening_notMem_zipWith is ps)]
  rfl

/-- What a supervisor does that is up and is interrupted: `up` is its start in `s`, `down` its run
from there to an interrupt that came as `result`. -/
structure Lifetime (h : Host σ) (settings : Settings) (s : σ) (sup : Supervisor)
    (result : Except Failure Unit) (up : Outcome σ (Except Failure Supervisor))
    (down : Outcome σ (Option Phase)) : Prop where
  calls : h.Spawns s settings.invocations sup.group.members up.host
  /-- one process for each service of the run -/
  members : sup.group.members.length = (Service.selected settings.withAlice).length
  events : (up.trace ++ down.trace).events =
    List.zipWith .spawned settings.invocations sup.group.members ++ [.listening, .interrupted] ++
      sup.group.members.map .killed
  names : (up.trace ++ down.trace).killed.map Process.name = (sup.group.info h up.host).names
  /-- the interrupt is asked for once -/
  listens : (up.trace ++ down.trace).events.count .listening = 1
  /-- each request to stop reaches the host -/
  host : down.host = h.terminateEach sup.group.members up.host
  value : down.value = some .terminated
  trace : down.trace =
    [.line (.running sup.group.names), .event .listening, .event .interrupted] ++
      Trace.ofLines (Idling.warning result ++ [.moved .running .shuttingDown]) ++
      (sup.group.terminateAll h up.host).trace ++ [.line (.moved .shuttingDown .terminated)]
  /-- one change of phase in front of the sweep and one behind it -/
  phases : changes (up.trace ++ down.trace).lines =
    (.running, .shuttingDown) :: changes (Group.told h sup.group.members up.host) ++
      [(.shuttingDown, .terminated)]
  /-- neither the poll interval nor the ticks nor the moment of the interrupt can be seen -/
  unseen : ∀ (pollMs : Nat) (looks : List Bool) (later : List Wake) (i : Interrupt),
    i.result = result →
      ∃ sup', start h { settings with pollMs := pollMs } s = { up with value := .ok sup' } ∧
        sup'.run h (looks.map .tick ++ .interrupted result :: later) up.host = down ∧
        sup'.run h (i.wakes pollMs) up.host = down

/-- **A supervisor from its start to its end.** Once it is up and the interrupt comes, after any
ticks, it asks each of its processes to stop, in launch order, and no more; the ticks, the poll
interval and the moment of the interrupt leave no trace. -/
theorem run_after_start {settings : Settings} {s : σ} {sup : Supervisor}
    (hs : (start h settings s).value = .ok sup) (looks : List Bool)
    (result : Except Failure Unit) (later : List Wake) :
    let up := start h settings s
    let down := sup.run h (looks.map .tick ++ .interrupted result :: later) up.host
    Lifetime h settings s sup result up down := by
  intro up down
  obtain ⟨hsup, hc, hev, hch⟩ := start_ok hs
  have hp : sup.phase = .running := by rw [hsup]
  have hdown : down = _ := run_interrupted hp looks result later up.host
  have hevents : (up.trace ++ down.trace).events =
      List.zipWith .spawned settings.invocations sup.group.members ++ [.listening, .interrupted] ++
        sup.group.members.map .killed := by
    rw [Trace.events_append, hdown]
    simp [up, hev]
  exact {
    calls := hc
    members := by
      rw [hc.length_eq]
      simp [Settings.invocations, Invocation.forRun]
    events := hevents
    names := by
      rw [Trace.killed, hevents, List.filterMap_append, List.filterMap_append,
        Event.filterMap_killed?_zipWith, Event.filterMap_killed?_killed]
      rfl
    listens := by
      rw [hevents]
      exact count_listening settings.invocations sup.group.members sup.group.members
    host := by rw [hdown]
    value := by rw [hdown]
    trace := by rw [hdown]
    phases := by
      have hup : changes up.trace.lines = [] := hch
      rw [Trace.lines_append, changes_append, hup, hdown]
      rcases result with e | - <;>
        simp [Idling.warning, Group.changes_terminateAll, Line.change?]
    unseen := by
      intro pollMs looks' later' i hi
      refine ⟨_, start_poll hs pollMs, ?_, ?_⟩
      · exact (run_interrupted rfl looks' result later' up.host).trans hdown.symm
      · rw [wakes_eq, hi]
        exact (run_interrupted rfl _ result [] up.host).trans hdown.symm }

/-- Two processes share a name, one of them refuses to stop, and the interrupt is a failure. -/
theorem run_after_start_twins :
    let script := Script.ofList [{ name := some "twin", killFailure := some (.ofText "busy") },
      { name := some "twin", id := some 7 }]
    let ps : List Process := [⟨0, "twin"⟩, ⟨1, "twin"⟩, ⟨2, "webgraph"⟩]
    let up := start Stage.host .standard ⟨script, 0⟩
    let down := run Stage.host ⟨.standard, ⟨ps⟩, .running⟩
      [.tick false, .tick true, .interrupted (.error (.ofText "closed"))] up.host
    up.value = .ok ⟨.standard, ⟨ps⟩, .running⟩ ∧
      (up.trace ++ down.trace).events =
        List.zipWith .spawned Settings.standard.invocations ps ++ [.listening, .interrupted] ++
          ps.map .killed := by
  intro script ps up down
  have hs : up.value = .ok ⟨.standard, ⟨ps⟩, .running⟩ := rfl
  exact ⟨hs, (run_after_start hs [false, true] (.error (.ofText "closed")) []).events⟩

end Supervisor

end ServiceStack
