import ServiceStack.Invocation
import ServiceStack.Log.Level

/-!
What is decided before the first service is started.
-/

namespace ServiceStack

structure Settings where
  mode : Mode := .development
  withAlice : Bool := false
  program : Octets := Utf8.encode "cargo"
  /-- the length of one idle wait in milliseconds -/
  pollMs : Nat := 1000
  verbosity : Nat := 0
deriving DecidableEq, Repr

namespace Settings

/-- The settings when nothing is asked for. -/
def standard : Settings := {}

/-- The least severe lines that the log takes. -/
def logLevel (s : Settings) : Level :=
  match s.verbosity with
  | 0 => .info
  | 1 => .debug
  | _ => .trace

def invocations (s : Settings) : List Invocation :=
  Invocation.forRun s.program s.mode s.withAlice

end Settings

end ServiceStack
