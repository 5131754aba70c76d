import ServiceStack.Machine.Scenery
import ServiceStack.Machine.Signal
import ServiceStack.Machine.Tool.Letter
import ServiceStack.Machine.Tool.Quotation

/-!
How a program gives its process to another one, and what it tells if that cannot be.
-/

namespace ServiceStack.Launch

/-- What programs do. -/
abbrev Performer := Tool → Call → Act Nat

variable (perform : Performer) (c : Call)

def self : String := String.ofList c.program

/-- Where programs are looked for if the environment does not say so. -/
def usualPath : Raw := "/bin:/usr/bin".toList

/-- The directories in which an environment lets programs be looked for. -/
def searchPath (env : List (Raw × Raw)) : List Octets :=
  (((env.lookup "PATH".toList).getD usualPath).splitOn ':').map Raw.toOctets

/-- Gives the process to the program of some name. If that cannot be, the reason is told. -/
def exec (env : List (Raw × Raw)) (name : Raw) (args : List Raw) : Act Errno := do
  let scene ← Act.look
  match scene.startWith (searchPath env) name args env with
  | .error e => return e
  | .ok t =>
    let _ ← Act.ask .replace
    Act.exit (← perform t.tool {
      program := t.name.getD name, args := t.front ++ args, environment := env })

def refusalCode (e : Errno) : Nat := if e = .ENOENT then 127 else 126

/-- Runs a command in the place of this program, or tells why it cannot be run. -/
def command (words : String) (env : List (Raw × Raw)) : List Raw → Act Nat
  | [] => return 0
  | name :: args => do
    let e ← exec perform env name args
    Notice.warn ((self c).toList ++ words.toList ++ Quotation.text name ++ ": ".toList ++
      e.text.toList)
    return refusalCode e

def usage (text : String) (code : Nat) : Act Nat :=
  (Letter.usage (self c) text.toList code).act (self c) code

def fault (f : Letter.Fault) (code : Nat) : Act Nat := (f.report (self c) code).act (self c) code

/-- The ending of a child; nothing if it is not there. -/
def awaitChild (child : Nat) : Nat → Act (Option Ending)
  | 0 => return none
  | n + 1 => do
    match ← Act.ask (.await true) with
    | .ok (some (pid, e)) => if pid = child then return some e else awaitChild child n
    | .ok none | .error .EINTR => awaitChild child n
    | .error _ => return none

/-! ### Environments -/

def bindings (stop : Char) (env : List (Raw × Raw)) : Raw :=
  env.flatMap fun v => v.1 ++ '=' :: v.2 ++ [stop]

/-- Sets a variable of an environment. -/
def setVariable (env : List (Raw × Raw)) (x v : Raw) : List (Raw × Raw) :=
  if (env.lookup x).isSome then env.map fun e => if e.1 = x then (x, v) else e
  else env ++ [(x, v)]

end ServiceStack.Launch
