import ServiceStack.Machine.Tool.Letter
import ServiceStack.Machine.Tool.Quotation
import ServiceStack.Text.Numeral

/-!
Times: a number that is not negative, with a unit of one letter or none for seconds. They are
held in nanoseconds.
-/

namespace ServiceStack.Duration

/-- A time that nobody waits for. -/
def forever : Nat := Nat.pow 10 30

/-- The seconds of a unit. -/
def unit? : Raw → Option Nat
  | [] | ['s'] => some 1
  | ['m'] => some 60
  | ['h'] => some 3600
  | ['d'] => some 86400
  | _ => none

def read? (a : Raw) : Option Nat :=
  match Numeral.fraction? a with
  | none => none
  | some (negative, m, rest) =>
    match m, unit? rest with
    | .finite num den, some u =>
      if negative && num ≠ 0 then none else some (num * u * 1000000000 / den)
    | .infinite, some _ => if negative then none else some forever
    | _, _ => none

def badTime (program : String) (a : Raw) : Raw :=
  program.toList ++ ": invalid time interval ".toList ++ Quotation.text a

/-- Waits for the sum of some times. -/
def sleep (self : String) (args : List Raw) : Act Nat :=
  match Letter.split {} args with
  | .error f => (f.report self 1).act self 1
  | .ok (_, []) =>
    if args = [] then (Letter.usage self "missing operand".toList 1).act self 1 else return 0
  | .ok (_, times) =>
    match times.filter fun a => (read? a).isNone with
    | [] => do
      Act.sleep (min ((times.filterMap read?).foldl (· + ·) 0) forever)
      return 0
    | bad => do
      for a in bad do
        Notice.warn (badTime self a)
      Notice.warn ("Try '".toList ++ self.toList ++ " --help' for more information.".toList)
      return 1

end ServiceStack.Duration
