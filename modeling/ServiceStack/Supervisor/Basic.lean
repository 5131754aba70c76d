import ServiceStack.Group.Info
import ServiceStack.Phase.Change
import ServiceStack.Settings

/-!
The supervisor of a run. It starts every service of its settings, idles until the interrupt, then
sweeps the group. The children are neither watched nor restarted.

While it idles it is woken turn by turn: by the end of an idle wait, a tick, or by the interrupt.
The interrupt is asked for once, when a turn first looks at it; a tick may come before that. The
wakes are given as a list; a run whose list holds no interrupt is still idling at its end.
-/

namespace ServiceStack

inductive Wake where
  /-- the wait ended, after the turn had looked at the interrupt or before -/
  | tick (looked : Bool)
  | interrupted (result : Except Failure Unit)

/-- When the interrupt comes and with what result. -/
structure Interrupt where
  atMs : Nat := 0
  result : Except Failure Unit := .ok ()

/-- The wakes up to the interrupt, for one poll interval: as many ticks as fit before it. -/
def Interrupt.wakes (i : Interrupt) (pollMs : Nat) : List Wake :=
  List.replicate (i.atMs / pollMs) (.tick true) ++ [.interrupted i.result]

/-- How far the wait for the interrupt is. -/
inductive Watch where
  | unasked
  | asked
  | answered
deriving DecidableEq, Repr

/-- The interrupt is asked for when it is looked at for the first time. -/
def Watch.look : Watch → Watch × Trace
  | unasked => (asked, [.event .listening])
  | w => (w, [])

/-- What the loop carries from turn to turn. -/
structure Idling where
  phase : Phase := .running
  watch : Watch := .unasked
deriving DecidableEq, Repr

namespace Idling

/-- What the log tells of an interrupt that came as a failure. -/
def warning : Except Failure Unit → List Line
  | .ok () => []
  | .error e => [.listenFailed e]

/-- One turn of the loop. An interrupt that was answered is not looked at again. -/
def turn (i : Idling) : Wake → Idling × Trace
  | .tick false => (i, [])
  | .tick true => ({ i with watch := i.watch.look.1 }, i.watch.look.2)
  | .interrupted result =>
    if i.watch = .answered then (i, [])
    else
      let change := i.phase.interrupt
      (⟨change.phase, .answered⟩,
        i.watch.look.2 ++ .event .interrupted :: Trace.ofLines (warning result ++ change.lines))

/-- The loop: it ends as soon as the phase is no longer `running`. -/
def loop (i : Idling) : List Wake → Idling × Trace
  | [] => (i, [])
  | w :: ws =>
    if i.phase = .running then
      let first := i.turn w
      let rest := first.1.loop ws
      (rest.1, first.2 ++ rest.2)
    else (i, [])

end Idling

structure Supervisor where
  settings : Settings
  group : Group
  phase : Phase
deriving DecidableEq, Repr

namespace Supervisor

variable {σ : Type} (h : Host σ)

def start (settings : Settings) (s : σ) : Outcome σ (Except Failure Supervisor) :=
  let is := settings.invocations
  let launched := (Group.launch h is s).after [.line (.launching is.length settings.mode)]
  { launched with value := launched.value.map fun g => ⟨settings, g, .running⟩ }

/-- Idles, then sweeps. The value is the last phase, `none` if the interrupt is still awaited. -/
def run (sup : Supervisor) (wakes : List Wake) (s : σ) : Outcome σ (Option Phase) :=
  let waited := Idling.loop { phase := sup.phase } wakes
  let trace := .line (.running sup.group.names) :: waited.2
  match waited.1.phase with
  | .running => ⟨none, s, trace⟩
  | p =>
    let swept := sup.group.terminateAll h s
    let change := p.finish
    ⟨some change.phase, swept.host, trace ++ swept.trace ++ Trace.ofLines change.lines⟩

end Supervisor

end ServiceStack
