import ServiceStack.Machine.Tool.Launch.Basic
import ServiceStack.Machine.Tool.Size

/-!
Programs that run another one with another rank, in another session, deaf to hang-ups, or with other
buffers.
-/

namespace ServiceStack.Launch

variable (perform : Performer) (c : Call)

/-! ### Rank and sessions -/

/-- A number may stand behind a dash alone. -/
def spelledRank : List Raw → List Raw
  | a :: rest =>
    match a with
    | '-' :: s :: d :: ds =>
      if (s = '-' || s = '+') && d.isDigit then ['-', 'n'] :: (s :: d :: ds) :: spelledRank rest
      else if s.isDigit then ['-', 'n'] :: (s :: d :: ds) :: spelledRank rest
      else a :: rest
    | ['-', d] => if d.isDigit then ['-', 'n'] :: [d] :: spelledRank rest else a :: rest
    | _ => a :: rest
  | [] => []

def nice : Act Nat := do
  let g : Letter.Grammar := { valued := "n", long := [("adjustment", 'n')], strict := true }
  match Letter.split g (spelledRank c.args) with
  | .error f => fault c f 125
  | .ok (os, rest) =>
    let given := Letter.value? 'n' os
    match given, given.bind Numeral.decimal?, rest with
    | some a, none, _ => do
      Notice.warn ((self c).toList ++ ": invalid adjustment ".toList ++ Quotation.text a)
      return 125
    | some _, _, [] => usage c "a command must be given with an adjustment" 125
    | none, _, [] =>
      (Notice.say (Numeral.intText (← Act.self).nice ++ ['\n']) 0).act (self c) 125
    | _, n, rest =>
      let _ ← Act.renice (n.getD 10)
      command perform c ": " c.environment rest

/-- Runs a command that does not hear of a hang-up. -/
def nohup : Act Nat := do
  match Letter.split { strict := true } c.args with
  | .error f => fault c f 125
  | .ok (_, []) => usage c "missing operand" 125
  | .ok (_, rest) =>
    let _ ← Act.action Signal.hangup (some .ignore)
    command perform c ": failed to run command " c.environment rest

/-- Runs a command in a session of its own. Who leads a group starts a process for it. -/
def setsid : Act Nat := do
  let g : Letter.Grammar := {
    plain := "cfw", long := [("ctty", 'c'), ("fork", 'f'), ("wait", 'w')], strict := true }
  match Letter.split g c.args with
  | .error f => fault c f 1
  | .ok (_, []) => usage c "no command specified" 1
  | .ok (os, name :: args) =>
    let me ← Act.self
    let body : Act Nat := do
      let _ ← Act.ask (.lead true)
      let e ← exec perform c.environment name args
      Notice.warn ((self c).toList ++ ": failed to execute ".toList ++ name ++ ": ".toList ++
        e.text.toList)
      return refusalCode e
    if Letter.has 'f' os || me.group = me.pid then
      let _ ← Act.fork body
      if Letter.has 'w' os then
        match ← Act.ask (.await true) with
        | .ok (some (_, .exit code)) => return code
        | .ok (some (_, e)) => return e.status
        | _ => return 1
      else return 0
    else body

/-! ### Buffers -/

/-- How a stream is buffered, as its variable tells it to the command. -/
def buffering? (a : Raw) : Option Raw :=
  if a = ['L'] then some a
  else match Size.read? "EGkKMPTYZRQ0" a with
    | .ok n => some (Numeral.natText 10 n)
    | .error _ => none

/-- Runs a command whose streams are buffered in another way, of which it is told by variables. -/
def stdbuf : Act Nat := do
  let g : Letter.Grammar := {
    valued := "ioe", long := [("input", 'i'), ("output", 'o'), ("error", 'e')], strict := true }
  match Letter.split g c.args with
  | .error f => fault c f 125
  | .ok (os, rest) =>
    if os.any fun o => o.1 = 'i' && o.2 = ['L'] then
      usage c "line buffering stdin is meaningless" 125
    else match os.find? fun o => (buffering? o.2).isNone with
      | some o =>
        Notice.warn ((self c).toList ++ ": invalid mode ".toList ++ Quotation.text o.2)
        return 125
      | none =>
        if rest = [] then usage c "missing operand" 125
        else if os = [] then usage c "you must specify a buffering mode option" 125
        else
          let mark := fun (env : List (Raw × Raw)) (letter : Char) =>
            match Letter.value? letter os with
            | none => env
            | some v => setVariable env ("_STDBUF_".toList ++ [letter.toUpper])
                ((buffering? v).getD v)
          let env := ['i', 'o', 'e'].foldl mark c.environment
          let env := setVariable env "LD_PRELOAD".toList
            "/usr/libexec/coreutils/libstdbuf.so".toList
          command perform c ": failed to run command " env rest

end ServiceStack.Launch
