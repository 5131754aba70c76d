import ServiceStack.Failure.IoKind
import ServiceStack.Text.Quoted

/-!
What can go wrong in a run, as causes. A failure has a one-line message, a dump that tells all of
it, and the messages of what lies below it. Only the failure of a start names a service.
-/

namespace ServiceStack

/-- An io failure: an error number, a bare kind, or a kind with a text of its own. The text of a
`fixed` one belongs to the failing operation, that of a `told` one to whoever reports it. -/
inductive IoFault where
  | os (code : Int)
  | bare (kind : IoKind)
  | told (kind : IoKind) (text : String)
  | fixed (kind : IoKind) (text : String)
deriving DecidableEq, Repr

namespace IoFault

def kind : IoFault → IoKind
  | os n => IoKind.ofCode n
  | bare k => k
  | told k _ => k
  | fixed k _ => k

def message : IoFault → String
  | os n => Errno.textOfCode n ++ " (os error " ++ toString n ++ ")"
  | bare k => k.description
  | told _ t => t
  | fixed _ t => t

def dump : IoFault → String
  | os n => "Os \x7b code: " ++ toString n ++ ", kind: " ++ (IoKind.ofCode n).name ++
      ", message: " ++ Text.quote (Errno.textOfCode n) ++ " \x7d"
  | bare k => "Kind(" ++ k.name ++ ")"
  | told k t => "Custom \x7b kind: " ++ k.name ++ ", error: " ++ Text.quote t ++ " \x7d"
  | fixed k t => "Error \x7b kind: " ++ k.name ++ ", message: " ++ Text.quote t ++ " \x7d"

end IoFault

/-- Why a step failed. -/
inductive Cause where
  | io (fault : IoFault)
  | errno (errno : Errno)
  | spawn (service : String) (source : IoFault)
  | message (text : String)
deriving DecidableEq, Repr

namespace Cause

def ofIo (f : IoFault) : Cause := .io f

def ofErrno (e : Errno) : Cause := .errno e

/-- The variant's name. -/
def label : Cause → String
  | io _ => "IoError"
  | errno _ => "NixError"
  | spawn .. => "SpawnFailure"
  | message _ => "ErrorMsg"

def text : Cause → String
  | io _ => "io error"
  | errno _ => "nix error"
  | spawn service _ => "failed to start " ++ service
  | message t => "an error occured: " ++ t

def dump : Cause → String
  | io f => "IoError(" ++ f.dump ++ ")"
  | errno e => "NixError(" ++ e.name ++ ")"
  | spawn service f =>
      "SpawnFailure \x7b service: " ++ Text.quote service ++ ", source: " ++ f.dump ++ " \x7d"
  | message t => "ErrorMsg(" ++ Text.quote t ++ ")"

/-- The messages of what lies below, the nearest first. -/
def sources : Cause → List String
  | io f => [f.message]
  | errno e => [e.message]
  | spawn _ f => [f.message]
  | message _ => []

end Cause

/-- A failure as the program reports it. -/
structure Failure where
  cause : Cause
deriving DecidableEq, Repr

namespace Failure

def ofIo (f : IoFault) : Failure := ⟨.io f⟩

def ofErrno (e : Errno) : Failure := ⟨.errno e⟩

def ofText (t : String) : Failure := ⟨.message t⟩

def ofSpawn (service : String) (source : IoFault) : Failure := ⟨.spawn service source⟩

def message (e : Failure) : String := e.cause.text

def dump (e : Failure) : String := "Error(" ++ e.cause.dump ++ ")"

def sources (e : Failure) : List String := e.cause.sources

/-- The service that could not be started. -/
def failedService? (e : Failure) : Option String :=
  match e.cause with
  | .spawn service _ => some service
  | _ => none

end Failure

end ServiceStack
