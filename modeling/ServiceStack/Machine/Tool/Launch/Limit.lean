import ServiceStack.Machine.Tool.Duration
import ServiceStack.Machine.Tool.Launch.Basic

/-!
A command that may take only some time. When the time is over it is sent a signal, and another one
after some further time.
-/

namespace ServiceStack.Launch

variable (perform : Performer) (c : Call)

/-- How a command is watched that may take only some time. -/
structure Watch where
  command : Raw
  child : Nat
  foreground : Bool
  verbose : Bool
  preserves : Bool
  /-- the signal for the command when the time is over -/
  signal : Nat
  /-- after what further time it is killed -/
  killAfter : Nat
  isOver : Bool := false

/-- Sends a signal to the command, and to all of the group unless it is in the foreground. -/
def Watch.send (w : Watch) (self : Raw) (n : Nat) : Act Unit := do
  if w.verbose then
    Notice.warn (self ++ ": sending signal ".toList ++ Signal.toText n ++ " to command ".toList ++
      Quotation.text w.command)
  Act.kill w.child n
  if !w.foreground then
    toGroup n
    if n ≠ Signal.kill && n ≠ Signal.goOn then
      Act.kill w.child Signal.goOn
      toGroup Signal.goOn
where
  toGroup (n : Nat) : Act Unit := do
    let _ ← Act.action n (some .ignore)
    Act.kill 0 n

/-- What is done about a signal that came. -/
def Watch.receive (w : Watch) (self : Raw) (n : Nat) : Act Watch := do
  if n = Signal.child then return w
  let rang := n = Signal.alarm
  let n := if rang then w.signal else n
  let w := { w with isOver := w.isOver || rang }
  if w.killAfter ≠ 0 then
    let now ← Act.time
    let _ ← Act.ask (.alarm (some (now + w.killAfter)))
  let w := if w.killAfter ≠ 0 then { w with signal := Signal.kill, killAfter := 0 } else w
  w.send self n
  return w

def Watch.receiveAll (self : Raw) : Watch → List Nat → Act Watch
  | w, [] => return w
  | w, n :: ns => do
    let w ← w.receive self n
    w.receiveAll self ns

/-- The code that tells that the time was over. -/
def overCode : Nat := 124

/-- Waits for the command. -/
def Watch.wait (self : Raw) : Nat → Watch → Act Nat
  | 0, _ => return overCode
  | n + 1, w => do
    match ← Act.ask (.await false) with
    | .ok (some (pid, e)) =>
      if pid ≠ w.child then Watch.wait self n w
      else
        let preserves := w.preserves || w.isOver && e = .signal Signal.kill
        match e with
        | .exit code => return if w.isOver && !preserves then overCode else code
        | .signal m =>
          if !w.isOver then
            let _ ← Act.action m (some .default)
            Act.kill (← Act.self).pid m
          return if w.isOver && !preserves then overCode else e.status
    | _ =>
      let _ ← Act.ask .pause
      let w ← w.receiveAll self (← Act.poll)
      Watch.wait self n w

def timeoutGrammar : Letter.Grammar where
  plain := "=,v"
  valued := "ks"
  long := [("foreground", '='), ("preserve-status", ','), ("verbose", 'v'), ("kill-after", 'k'),
    ("signal", 's')]
  strict := true

/-- The signals that are passed on to the command. -/
def passedOn : List Nat :=
  [Signal.alarm, Signal.interrupt, Signal.quit, Signal.hangup, Signal.terminate]

def timeout : Act Nat := do
  let help : Act Nat := do
    Notice.warn ("Try '".toList ++ (self c).toList ++ " --help' for more information.".toList)
    return 125
  let bad (text : Raw) : Act Nat := (Letter.usage (self c) text 125).act (self c) 125
  let badTime (a : Raw) : Act Nat := bad ("invalid time interval ".toList ++ Quotation.text a)
  match Letter.split timeoutGrammar c.args with
  | .error f => fault c f 125
  | .ok (os, rest) =>
    let patience := Letter.value? 'k' os
    let name := Letter.value? 's' os
    match patience, patience.bind Duration.read? with
    | some a, none => badTime a
    | _, killAfter =>
      match name, name.bind Signal.ofText? with
      | some a, none => bad (Quotation.text a ++ ": invalid signal".toList)
      | _, signal =>
        match rest with
        | limit :: command :: args =>
          match Duration.read? limit with
          | none => badTime limit
          | some limit =>
            let foreground := Letter.has '=' os
            let signal := signal.getD Signal.terminate
            if !foreground then
              let _ ← Act.ask (.lead false)
            for n in signal :: Signal.child :: passedOn do
              let _ ← Act.action n (some .catch)
            let child ← Act.fork do
              let e ← exec perform c.environment command args
              Notice.warn ((self c).toList ++ ": failed to run command ".toList ++
                Quotation.text command ++ ": ".toList ++ e.text.toList)
              return refusalCode e
            if limit ≠ 0 then
              let now ← Act.time
              let _ ← Act.ask (.alarm (some (now + limit)))
            Watch.wait (self c).toList Act.patience {
              command := command, child := child, foreground := foreground
              verbose := Letter.has 'v' os, preserves := Letter.has ',' os, signal := signal
              killAfter := killAfter.getD 0 }
        | _ => help

end ServiceStack.Launch
