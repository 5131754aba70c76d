import ServiceStack.Machine.Tool.Feed
import ServiceStack.Machine.Tool.Letter
import ServiceStack.Machine.Tool.Quotation

/-!
Programs that pass lines on: each line of some files becomes a text, which may depend on the lines
before it. A line is passed on as soon as it is known, so that the input need not have an end.
-/

namespace ServiceStack

/-- What is made of each line. -/
structure Passing (σ : Type) where
  program : String
  /-- the files; without any it reads its input -/
  names : List Raw
  /-- what ends a line -/
  stop : Char := '\n'
  /-- what is told about a file that cannot be read -/
  complaint : Raw → Errno → Raw := fun name e => Quotation.faultLine program.toList name e
  /-- how the input is called when it is told once more at the end that it cannot be read -/
  closing : Option Raw := some ['-']
  /-- whether complaints come behind what was written so far -/
  inTurn : Bool := true
  /-- what is written of a line, which was ended or not, and what is kept in mind -/
  line : σ → Raw → Bool → σ × Raw
  /-- what is written at the end -/
  finish : σ → Raw := fun _ => []

namespace Passing

variable {σ : Type} (p : Passing σ)

/-- Tells what could not be read, behind what was written so far. -/
def warnAll (k : Sink) : List (Raw × Bool × Errno) → Act Sink
  | [] => return k
  | faults => do
    let k ← if p.inTurn then k.flush else pure k
    for f in faults.reverse do
      Notice.warn (p.complaint f.1 f.2.2)
    return k

/-- Passes on line after line. Tells what could not be read. -/
def run : Nat → σ → Feed → Sink → List (Raw × Bool × Errno) → Act (Sink × List (Raw × Bool × Errno))
  | 0, _, _, k, faults => return (k, faults)
  | n + 1, s, f, k, faults => do
    let (line, f) ← f.line?
    let k ← warnAll p k f.faults
    let faults := f.faults ++ faults
    match line with
    | none => return (← k.put (p.finish s), faults)
    | some (l, ended) =>
      let r := p.line s l ended
      let k ← k.put r.2
      if k.fault.isSome then return (k, faults) else run n r.1 { f with faults := [] } k faults

def act (start : σ) : Act Nat := do
  let names := if p.names = [] then [['-']] else p.names
  let (k, faults) ← run p Act.patience start { names, stop := p.stop } { stream := 1 } []
  let k ← k.flush
  match k.fault with
  | some e =>
    Notice.warn (Notice.faultLine p.program.toList "write error".toList e)
    return 1
  | none =>
    if let some subject := p.closing then
      for f in faults do
        if f.1 = ['-'] && f.2.2 = .EBADF then
          Notice.warn (Notice.faultLine p.program.toList subject .EBADF)
    return if faults = [] then 0 else 1

end Passing

end ServiceStack
