import ServiceStack.Service
import ServiceStack.Text.Utf8

/-!
The command line of one service, `program run [--release] -- args`. It is shown with its parts
apart by one space each, whatever the parts hold.
-/

namespace ServiceStack

structure Invocation where
  service : String
  program : Octets
  args : List Octets
deriving DecidableEq, Repr

namespace Invocation

/-- The arguments for a service in a mode. -/
def arguments (spec : Service) (mode : Mode) : List String :=
  ["run"] ++ mode.flags ++ ["--"] ++ spec.args

def ofService (program : Octets) (spec : Service) (mode : Mode) : Invocation :=
  ⟨spec.name, program, (arguments spec mode).map Utf8.encode⟩

/-- The program and its arguments, each as lossy text. -/
def shownChars (i : Invocation) : List Char :=
  Utf8.lossyChars i.program ++ i.args.flatMap fun a => ' ' :: Utf8.lossyChars a

def shown (i : Invocation) : String := String.ofList i.shownChars

/-- The command lines of a run, in launch order. -/
def forRun (program : Octets) (mode : Mode) (withAlice : Bool) : List Invocation :=
  (Service.selected withAlice).map fun spec => ofService program spec mode

end Invocation

end ServiceStack
