/-!
The levels of the log, from the most severe one. A log kept at a level takes the lines of that
level and of the more severe ones.
-/

namespace ServiceStack

inductive Level where
  | error
  | warn
  | info
  | debug
  | trace
deriving DecidableEq, Repr

namespace Level

def all : List Level := [.error, .warn, .info, .debug, .trace]

def name : Level → String
  | error => "ERROR"
  | warn => "WARN"
  | info => "INFO"
  | debug => "DEBUG"
  | trace => "TRACE"

def ofName? (s : String) : Option Level := all.find? (·.name == s)

def detail : Level → Nat
  | error => 0
  | warn => 1
  | info => 2
  | debug => 3
  | trace => 4

/-- Whether a log kept at `kept` takes a line of level `l`. -/
def admits (kept l : Level) : Bool := l.detail ≤ kept.detail

end Level

end ServiceStack
