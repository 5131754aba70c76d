import ServiceStack.Failure.Basic
import ServiceStack.Invocation
import ServiceStack.Log.Level
import ServiceStack.Phase.Basic

/-!
The lines of the log: what each tells, its level and its wording.
-/

namespace ServiceStack

inductive Line where
  | launching (count : Nat) (mode : Mode)
  | starting (invocation : Invocation)
  | started (name : String) (id : Option Nat)
  | startFailed (service : String) (cause : Failure)
  | terminating (count : Nat)
  | killing (name : String) (id : Option Nat)
  | gone (name : String) (pid : Nat)
  | killFailed (name : String) (cause : Failure)
  | running (names : List String)
  | listenFailed (cause : Failure)
  | moved (before after : Phase)
  | ignored (phase : Phase)
  | stopped (phase : Phase)
deriving DecidableEq, Repr

namespace Line

def level : Line → Level
  | startFailed .. => .error
  | killFailed .. | listenFailed .. => .warn
  | started .. | killing .. | gone .. | ignored .. => .debug
  | _ => .info

/-- A process number that may be missing. -/
def idText : Option Nat → String
  | none => "None"
  | some n => "Some(" ++ toString n ++ ")"

def text : Line → String
  | launching n mode => "launching " ++ toString n ++ " services in " ++ mode.name ++ " mode"
  | starting i => "starting " ++ i.service ++ ": " ++ i.shown
  | started name id => "started " ++ name ++ " (" ++ idText id ++ ")"
  | startFailed service e => "failed to start " ++ service ++ ": " ++ e.message
  | terminating n => "terminating " ++ toString n ++ " process(es)"
  | killing name id => "killing " ++ name ++ " (" ++ idText id ++ ")"
  | gone name pid => name ++ " (" ++ toString pid ++ ") no longer exists"
  | killFailed name e => "failed to kill " ++ name ++ ": " ++ e.message
  | running names => "running " ++ ", ".intercalate names ++ ", Ctrl-C to stop"
  | listenFailed e => "failed to listen for interrupt, shutting down: " ++ e.message
  | moved before after => before.name ++ " -> " ++ after.name
  | ignored phase => "ignoring interrupt while " ++ phase.name
  | stopped phase => "stack stopped (" ++ phase.name ++ ")"

end Line

/-- The lines that a log kept at a level takes. -/
def Level.filter (kept : Level) (lines : List Line) : List Line :=
  lines.filter fun l => kept.admits l.level

end ServiceStack
