import ServiceStack.Machine.Notice
import ServiceStack.Machine.Signal
import ServiceStack.Machine.Tool.Quotation

/-!
The program that sends signals to processes.
-/

namespace ServiceStack.Sending

/-- The signals that have names of their own here. -/
def known : List (Nat × String) :=
  (Signal.names.filter (·.1 < Signal.lowest)).map fun s => if s.2 = "IO" then (s.1, "POLL") else s

/-- Other names for some of them. -/
def otherNames : List (String × Nat) := [("CLD", 17), ("IO", 29), ("IOT", 6)]

/-- The number of a signal by its name, with or without `SIG`, or by its numeral. -/
def number? (a : Raw) : Option Nat :=
  let name := a.map Char.toUpper
  let name := if "SIG".toList.isPrefixOf name then name.drop 3 else name
  let text := String.ofList name
  match (known.find? (·.2 = text)).map Prod.fst <|> otherNames.lookup text with
  | some n => some n
  | none =>
    let more := name.drop 6
    let base : Option Int := if "RTMIN".toList.isPrefixOf name then some Signal.lowest
      else if "RTMAX".toList.isPrefixOf name then some Signal.highest
      else none
    match base with
    | some b =>
      let moved := if name.length = 5 then some b
        else (Numeral.natural? more).map fun n => if name.getD 5 ' ' = '-' then b - n else b + n
      moved.bind fun n => if Signal.lowest ≤ n ∧ n ≤ Signal.highest then some n.toNat else none
    | none => (Numeral.natural? a).bind fun n => if n < Signal.bound then some n else none

/-- The names of all signals in two rows. -/
def list : Raw :=
  let row := fun (ss : List (Nat × String)) =>
    [' '].intercalate (ss.map fun s => s.2.toList) ++ ['\n']
  row (known.take 16) ++ row (known.drop 16)

/-- The numbers and names of all signals, seven in a row. -/
def table : Raw :=
  (Raw.inGroups 7 known).flatMap fun ss =>
    (ss.zipIdx.flatMap fun (s, k) =>
      let ds := Numeral.natText 10 s.1
      let name := s.2.toList
      List.replicate (2 - ds.length) ' ' ++ ds ++ ' ' :: name ++
        if k = 6 then [] else List.replicate (8 - name.length) ' ') ++ ['\n']

/-- The name of a number, or the number of a name. -/
def converted (self : String) (a : Raw) : Notice :=
  let unknown := Notice.complain (self.toList ++ ": unknown signal name ".toList ++ a) 0
  match Numeral.natural? a with
  | some n =>
    match known.lookup n with
    | some name => .say (name.toList ++ ['\n']) 0
    | none => unknown
  | none =>
    match number? a with
    | some n => .say (Numeral.natText 10 n ++ ['\n']) 0
    | none => unknown

/-- What is asked for. -/
inductive Wish where
  | tell (r : Notice)
  | send (signal : Option Nat) (targets : List Raw)

/-- A word that is a signal behind a dash. -/
def signalWord? : Raw → Option Nat
  | '-' :: name => number? name
  | _ => none

def usage : Wish := .tell (.silent 1)

/-- What the words ask for, with a signal that has been found among them. -/
def wishOf (self : String) (signal : Option Nat) (targets : List Raw) : List Raw → Wish
  | [] => if targets = [] then usage else .send signal targets.reverse
  | a :: rest =>
    let tell := fun (v : Raw) (more : List Raw) => match v, more with
      | [], [] => Wish.tell (.say list 0)
      | [], b :: _ => .tell (converted self b)
      | v, _ => .tell (converted self v)
    let spelled := String.ofList a
    if spelled = "--" then
      if targets = [] && rest = [] then usage else .send signal (targets.reverse ++ rest)
    else if spelled = "-L" || spelled = "--table" then .tell (.say table 0)
    else if spelled = "--list" then tell [] rest
    else if "--list=".toList.isPrefixOf a then tell (a.drop 7) rest
    else if "--signal=".toList.isPrefixOf a then
      wishOf self (some ((number? (a.drop 9)).getD Signal.bound)) targets rest
    else match a with
      | '-' :: 'l' :: v => tell v rest
      | '-' :: 's' :: v :: vs =>
        wishOf self (some ((number? (v :: vs)).getD Signal.bound)) targets rest
      | '-' :: 'q' :: _ :: _ => wishOf self signal targets rest
      | '-' :: c :: _ =>
        if spelled = "-s" || spelled = "--signal" then
          match rest with
          | [] => usage
          | v :: more => wishOf self (some ((number? v).getD Signal.bound)) targets more
        else if spelled = "-q" || spelled = "--queue" then
          match rest with
          | [] => usage
          | _ :: more => wishOf self signal targets more
        else if c.isDigit then .send signal (['-', c] :: rest)
        else .tell (.complain (self.toList ++ ": invalid argument ".toList ++ [c]) 1)
      | _ => wishOf self signal (a :: targets) rest

/-- Sends a signal to targets in turn, up to one that is no number. -/
def sendEach (self : String) (signal : Nat) (code : Nat) : List Raw → Act Nat
  | [] => return code
  | a :: targets => do
    let front := self.toList ++ ": ".toList
    match Numeral.decimal? a with
    | none =>
      Notice.warn (front ++ "failed to parse argument: '".toList ++ a ++ ['\''])
      return 1
    | some n =>
      match ← Act.ask (.kill n signal) with
      | .ok _ => sendEach self signal code targets
      | .error e =>
        Notice.warn (front ++ '(' :: Numeral.intText n ++ "): ".toList ++ e.text.toList)
        sendEach self signal 1 targets

def kill (self : String) (args : List Raw) : Act Nat := do
  let found := args.findIdx? fun a => (signalWord? a).isSome
  let signal := found.bind fun k => (args[k]?).bind signalWord?
  let words := match found with
    | some k => args.eraseIdx k
    | none => args
  match wishOf self signal [] words with
  | .tell r => r.act self 1
  | .send signal targets => sendEach self (signal.getD Signal.terminate) 0 targets

end ServiceStack.Sending
