import ServiceStack.Program
import ServiceStack.Proofs.Group.Orders
import ServiceStack.Proofs.Log.Level
import ServiceStack.Proofs.Supervisor.Sharing

/-!
The verbosity of a run.

No activity reads it: a run goes as it would at any other verbosity, only its log is kept at another
level. So the recording of a run is what is left of the recording at a higher verbosity.
-/

namespace ServiceStack

/-! ### Settings at some verbosity -/

namespace Settings

/-- The settings at another verbosity. -/
def withVerbosity (settings : Settings) (n : Nat) : Settings := { settings with verbosity := n }

variable (settings : Settings)

lemma admits_logLevel {v v' : Nat} (hv : v ≤ v') :
    (settings.withVerbosity v').logLevel.admits (settings.withVerbosity v).logLevel = true := by
  match v, v' with
  | 0, 0 | 0, 1 | 0, _ + 2 => rfl
  | 1, 1 | 1, _ + 2 => rfl
  | _ + 2, _ + 2 => rfl

lemma admits_info : settings.logLevel.admits .info = true :=
  settings.admits_logLevel (Nat.zero_le settings.verbosity)

lemma admits_debug (hv : 1 ≤ settings.verbosity) : settings.logLevel.admits .debug = true :=
  settings.admits_logLevel hv

end Settings

def Supervisor.withVerbosity (sup : Supervisor) (n : Nat) : Supervisor :=
  { sup with settings := sup.settings.withVerbosity n }

def Plan.withVerbosity (p : Plan) (n : Nat) : Plan :=
  { p with settings := p.settings.withVerbosity n }

namespace Report

def withVerbosity (n : Nat) : Report → Report
  | .failed t e => .failed t e
  | .dropped t sup info => .dropped t (sup.withVerbosity n) info
  | .ran t sup info final run => .ran t (sup.withVerbosity n) info final run

@[simp] lemma trace_withVerbosity (n : Nat) (r : Report) : (r.withVerbosity n).trace = r.trace := by
  cases r <;> rfl

@[simp] lemma withVerbosity_withVerbosity (m n : Nat) (r : Report) :
    (r.withVerbosity m).withVerbosity n = r.withVerbosity n := by
  cases r <;> rfl

end Report

variable {σ : Type} (h : Host σ)

/-- A start goes the same way at any verbosity. -/
lemma Supervisor.start_withVerbosity (settings : Settings) (n : Nat) (s : σ) :
    Supervisor.start h (settings.withVerbosity n) s =
      { Supervisor.start h settings s with
        value := (Supervisor.start h settings s).value.map (·.withVerbosity n) } := by
  have hi : (settings.withVerbosity n).invocations = settings.invocations := rfl
  rcases hl : (Group.launch h settings.invocations s).value with e | g <;>
    simp only [Supervisor.start, hi, Outcome.value_after, hl, Except.map] <;> rfl

lemma Plan.play_withVerbosity (p : Plan) (n : Nat) (s : σ) :
    (p.withVerbosity n).play h s = ((p.play h s).1.withVerbosity n, (p.play h s).2) := by
  have hs := Supervisor.start_withVerbosity h p.settings n s
  rcases hv : (Supervisor.start h p.settings s).value with e | sup <;> rw [hv] at hs
  · simp only [Plan.play, Plan.withVerbosity, hs, hv, Except.map, Report.withVerbosity]
  · rcases hw : p.wakes with _ | wakes <;>
      simp only [Plan.play, Plan.withVerbosity, hs, hv, hw, Except.map, Report.withVerbosity] <;> rfl

lemma Program.supervise_withVerbosity (settings : Settings) (n : Nat) (wakes : List Wake) (s : σ) :
    Program.supervise h (settings.withVerbosity n) wakes s =
      Program.supervise h settings wakes s := by
  have hs := Supervisor.start_withVerbosity h settings n s
  rcases hv : (Supervisor.start h settings s).value with e | sup <;> rw [hv] at hs
  · simp only [Program.supervise, hs, hv, Except.map]
  · simp only [Program.supervise, hs, hv, Except.map]
    rfl

/-! ### Recordings -/

namespace Report

def keep (kept : Level) : Report → Report
  | .failed t e => .failed (t.keep kept) e
  | .dropped t sup info => .dropped (t.keep kept) sup info
  | .ran t sup info final run => .ran (t.keep kept) sup info final (run.keep kept)

variable {kept lower higher : Level}

@[simp] lemma trace_keep (r : Report) : (r.keep kept).trace = r.trace.keep kept := by
  cases r with
  | ran t sup info final run => exact (Trace.keep_append t run).symm
  | _ => rfl

lemma keep_keep (hh : higher.admits lower = true) (r : Report) :
    (r.keep higher).keep lower = r.keep lower := by
  cases r <;> simp only [keep, Trace.keep_keep hh]

lemma keep_withVerbosity (n : Nat) (r : Report) :
    (r.withVerbosity n).keep kept = (r.keep kept).withVerbosity n := by
  cases r <;> rfl

end Report

/-- A run as it is recorded at the level of its settings. -/
def Plan.record (p : Plan) (s : σ) : Report × σ :=
  ((p.play h s).1.keep p.settings.logLevel, (p.play h s).2)

def Response.keep (kept : Level) (r : Response σ) : Response σ :=
  { r with trace := r.trace.keep kept }

/-- The responses to some orders as they are recorded at a level. -/
def Holding.record (kept : Level) (k : Holding σ) (os : List (Order σ)) : List (Response σ) :=
  (k.follow h os).map (Response.keep kept)

def Change.keep (kept : Level) (c : Change) : Change := { c with lines := kept.filter c.lines }

variable {lower higher : Level}

lemma Response.keep_keep (hh : higher.admits lower = true) (r : Response σ) :
    (r.keep higher).keep lower = r.keep lower := by
  simp only [keep, Trace.keep_keep hh]

lemma Holding.trace_record (kept : Level) (k : Holding σ) (os : List (Order σ)) :
    (k.record h kept os).flatMap Response.trace = (k.trace h os).keep kept := by
  rw [record, trace, List.flatMap_map, Trace.keep, List.filter_flatMap]
  rfl

namespace Plan

variable (p : Plan)

lemma trace_record (n : Nat) (s : σ) : ((p.withVerbosity n).record h s).1.trace =
    (p.play h s).1.trace.keep (p.settings.withVerbosity n).logLevel := by
  rw [record, play_withVerbosity, Report.trace_keep, Report.trace_withVerbosity]
  rfl

/-- The recording of a run, told from the one at a higher verbosity. -/
lemma record_withVerbosity {v v' : Nat} (hv : v ≤ v') (s : σ) :
    let high := (p.withVerbosity v').record h s
    (p.withVerbosity v).record h s =
      ((high.1.keep (p.settings.withVerbosity v).logLevel).withVerbosity v, high.2) := by
  have hl := p.settings.admits_logLevel hv
  have hsettings : ∀ n, (p.withVerbosity n).settings = p.settings.withVerbosity n := fun _ => rfl
  simp only [record, play_withVerbosity, hsettings, Report.keep_keep hl, Report.keep_withVerbosity,
    Report.withVerbosity_withVerbosity]

end Plan

/-- **Verbosity changes the log and nothing else.** Between two verbosities a run makes the same
calls and requests and comes to the same; what is recorded at the lower one is left of what is
recorded at the higher one, and neither misses a line at `info` or above. From the first `-v` on all
logs are the same. So it is with the program, and with any two levels of the log for any orders to
groups and any history of the phases. -/
theorem Settings.verbosity_narrows (settings : Settings) {v v' : Nat} (hv : v ≤ v') :
    let low := settings.withVerbosity v
    let high := settings.withVerbosity v'
    low.logLevel.admits .info = true ∧ (1 ≤ v → low.logLevel.admits .debug = true) ∧
      (∀ wakes s,
        let run : Plan := ⟨low, wakes⟩
        let run' : Plan := ⟨high, wakes⟩
        let recorded := run.record h s
        let recorded' := run'.record h s
        run'.play h s = ((run.play h s).1.withVerbosity v', (run.play h s).2) ∧
          recorded = ((recorded'.1.keep low.logLevel).withVerbosity v, recorded'.2) ∧
          recorded.1.trace.events = (run'.play h s).1.trace.events ∧
          Narrowed low.logLevel (run.play h s).1.trace.lines recorded.1.trace.lines
            recorded'.1.trace.lines) ∧
      (∀ {argv argv'}, CommandLine.parse argv = .ok low → CommandLine.parse argv' = .ok high →
        ∀ wakes s,
          let o := Program.run h argv wakes s
          Program.run h argv' wakes s = o ∧
            Narrowed low.logLevel o.trace.lines (Program.log argv o.trace)
              (Program.log argv' o.trace)) ∧
      ∀ {lower higher : Level}, higher.admits lower = true →
        (∀ (k : Holding σ) os,
          k.record h lower os = (k.record h higher os).map (Response.keep lower) ∧
            Narrowed lower (k.trace h os).lines
              (Trace.lines ((k.record h lower os).flatMap Response.trace))
              (Trace.lines ((k.record h higher os).flatMap Response.trace))) ∧
        ∀ (p : Phase) cs,
          (p.after cs).keep lower = ((p.after cs).keep higher).keep lower ∧
            Narrowed lower (p.after cs).lines ((p.after cs).keep lower).lines
              ((p.after cs).keep higher).lines := by
  intro low high
  have hl : high.logLevel.admits low.logLevel = true := settings.admits_logLevel hv
  refine ⟨low.admits_info, low.admits_debug, ?runs, ?program, ?levels⟩
  case runs =>
    intro wakes s run run' recorded recorded'
    have hplay : run'.play h s = ((run.play h s).1.withVerbosity v', (run.play h s).2) :=
      run.play_withVerbosity h v' s
    have htrace : recorded.1.trace = (run.play h s).1.trace.keep low.logLevel :=
      run.trace_record h v s
    have htrace' : recorded'.1.trace = (run.play h s).1.trace.keep high.logLevel :=
      run.trace_record h v' s
    refine ⟨hplay, Plan.record_withVerbosity h ⟨settings, wakes⟩ hv s, ?_, ?_⟩
    · rw [htrace, hplay, Trace.events_keep, Report.trace_withVerbosity]
    · rw [htrace, htrace', Trace.lines_keep, Trace.lines_keep]
      exact narrowed_filter hl _
  case program =>
    intro argv argv' hp hp' wakes s o
    have ho : Program.run h argv' wakes s = o := by
      simp only [o, Program.run, hp, hp', low, high, Program.supervise_withVerbosity]
    refine ⟨ho, ?_⟩
    simp only [Program.log, hp, hp']
    exact narrowed_filter hl _
  case levels =>
    intro lower higher hh
    refine ⟨fun k os => ⟨?_, ?_⟩, fun p cs => ⟨?_, narrowed_filter hh _⟩⟩
    · simp only [Holding.record, List.map_map, Function.comp_def, Response.keep_keep hh]
    · rw [Holding.trace_record, Holding.trace_record, Trace.lines_keep, Trace.lines_keep]
      exact narrowed_filter hh _
    · simp only [Change.keep, Level.filter_filter hh]

/-- The second of three services is refused: what is recorded with `-vv` has the number of the first
service besides, and its announcement at the sweep. Of two interrupts the second is told at `debug`
only. -/
theorem Settings.verbosity_narrows_refused :
    let st : Stage := ⟨Script.ofList [{ id := some 3 }, { failure := some (.ofText "no") }], 0⟩
    let argv := ["stack"].map Utf8.encode
    let argv' := ["stack", "-vv"].map Utf8.encode
    let t := (Program.run Stage.host argv [] st).trace
    let twice := Phase.running.after [.interrupt, .interrupt]
    0 ≤ 2 ∧ CommandLine.parse argv = .ok Settings.standard ∧
      CommandLine.parse argv' = .ok (Settings.standard.withVerbosity 2) ∧
      Program.log argv' t ≠ Program.log argv t ∧
      (Program.log argv' t).filter (fun l => l.level = .debug) =
        [.started "frontend" (some 3), .killing "frontend" (some 3)] ∧
      Narrowed .info t.lines (Program.log argv t) (Program.log argv' t) ∧
      Level.debug.admits .info = true ∧ (twice.keep .debug).lines ≠ (twice.keep .info).lines ∧
      (twice.keep .debug).keep .info = ⟨.shuttingDown, [.moved .running .shuttingDown]⟩ := by
  intro st argv argv' t twice
  have hp : CommandLine.parse argv = .ok Settings.standard := rfl
  have hp' : CommandLine.parse argv' = .ok (Settings.standard.withVerbosity 2) := rfl
  have hlevel : Level.debug.admits .info = true := rfl
  obtain ⟨-, -, -, hprogram, hlevels⟩ :=
    Settings.verbosity_narrows Stage.host Settings.standard (Nat.zero_le 2)
  obtain ⟨-, hphases⟩ := hlevels hlevel
  obtain ⟨-, hlog⟩ := hprogram hp hp' [] st
  have hdebug : (Program.log argv' t).filter (fun l => l.level = .debug) =
      [.started "frontend" (some 3), .killing "frontend" (some 3)] := rfl
  have hinfo : (Program.log argv t).filter (fun l => l.level = .debug) = [] := rfl
  refine ⟨Nat.zero_le 2, hp, hp', fun he => ?_, hdebug, hlog, hlevel, by decide,
    (hphases .running [.interrupt, .interrupt]).1.symm⟩
  rw [he, hinfo] at hdebug
  cases hdebug

end ServiceStack
