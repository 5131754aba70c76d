import ServiceStack.CommandLine.Parse
import ServiceStack.Supervisor.Basic

/-!
The whole program: it reads its command line, starts the services, idles, and stops them when it
is interrupted. What it prints is the log, then at most one message.
-/

namespace ServiceStack

/-- How the program ends. -/
inductive Exit where
  | refused (r : CommandLine.Refusal)
  | failed (e : Failure)
  | stopped (phase : Phase)
  /-- it has not ended: the interrupt is still awaited -/
  | idling
deriving DecidableEq, Repr

namespace Exit

def code : Exit → Nat
  | refused .help => 0
  | refused .version => 0
  | refused .notText => 101
  | refused _ => 1
  | failed _ => 1
  | stopped _ => 0
  | idling => 0

/-- The text on the standard output that is not part of the log. -/
def answer (name : String) : Exit → Option String
  | refused .help => some (CommandLine.Refusal.help.message name)
  | refused .version => some (CommandLine.Refusal.version.message name)
  | _ => none

/-- The text on the error output. -/
def complaint (name : String) : Exit → Option String
  | refused .help => none
  | refused .version => none
  | refused .notText => none
  | refused r => some (r.message name)
  | failed e => some ("Error: " ++ e.dump)
  | _ => none

end Exit

namespace Program

variable {σ : Type} (h : Host σ)

/-- The program with settings that were read. -/
def supervise (settings : Settings) (wakes : List Wake) (s : σ) : Outcome σ Exit :=
  let started := Supervisor.start h settings s
  match started.value with
  | .error e => { started with value := .failed e }
  | .ok sup =>
    let run := (sup.run h wakes started.host).after started.trace
    match run.value with
    | none => { run with value := .idling }
    | some p => ⟨.stopped p, run.host, run.trace ++ [.line (.stopped p)]⟩

/-- The program for a command line, whose first part is the name it was called by. -/
def run (argv : List Octets) (wakes : List Wake) (s : σ) : Outcome σ Exit :=
  match CommandLine.parse argv with
  | .error r => ⟨.refused r, s, []⟩
  | .ok settings => supervise h settings wakes s

/-- The log on the standard output, kept at the level of the settings. -/
def log (argv : List Octets) (t : Trace) : List Line :=
  match CommandLine.parse argv with
  | .error _ => []
  | .ok settings => t.log settings.logLevel

end Program

/-- A line of the log as it is printed. -/
def Line.printed (l : Line) : String := l.level.name ++ " " ++ l.text

end ServiceStack
