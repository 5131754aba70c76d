import ServiceStack.CommandLine.Refusal
import ServiceStack.Settings

/-!
From a command line to the settings of a run. The scan comes first; how often a flag was given is
looked at only when nothing offended.
-/

namespace ServiceStack

open CommandLine

/-- The settings for the flags that were counted. -/
def Settings.ofFlags (flags : List Flag) : Settings :=
  { Settings.standard with
    mode := Mode.ofRelease (Flag.release ∈ flags)
    withAlice := Flag.alice ∈ flags
    verbosity := flags.count .verbose }

namespace CommandLine

/-- The first flag, in the order of `Flag.all`, that was given too often. Where two were, either may
be told; that it is the first is a choice. -/
def overused? (flags : List Flag) : Option Flag :=
  Flag.all.find? fun f => !f.repeatable && 1 < flags.count f

def Verdict.accept : Verdict → Except Refusal (List Flag)
  | stopped counted o later => .error (o.refusal counted later)
  | complete counted =>
    match overused? counted with
    | some f => .error (.repeated f counted)
    | none => .ok counted

/-- The flags of a command line, whose first part is the name of the program. -/
def flags (argv : List Octets) : Except Refusal (List Flag) := (scan argv.tail).accept

def parse (argv : List Octets) : Except Refusal Settings := (flags argv).map Settings.ofFlags

end CommandLine

end ServiceStack
