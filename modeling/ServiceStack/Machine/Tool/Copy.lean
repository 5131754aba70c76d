import ServiceStack.Machine.Signal
import ServiceStack.Machine.Tool.Passing
import ServiceStack.Machine.Tool.Reading
import ServiceStack.Machine.Tool.Regex.Grammar
import ServiceStack.Text.Numeral

/-!
Programs that copy texts: as they are or with all bytes made visible, line by line or byte by byte
from the end, or to several places at once.
-/

namespace ServiceStack.Copy

/-! ### From the start -/

/-- A byte that cannot be seen, in letters that can. -/
def shown (c : Char) : Raw :=
  let low := fun (n : Nat) =>
    if n < 32 then ['^', Char.ofNat (n + 64)] else if n = 127 then ['^', '?'] else [Char.ofNat n]
  if c.toNat < 128 then low c.toNat else ['M', '-'] ++ low (c.toNat - 128)

/-- How lines are shown. -/
structure Style where
  numbers : Bool
  /-- empty lines have no numbers -/
  filled : Bool
  ends : Bool
  tabs : Bool
  all : Bool
  squeezes : Bool

def Style.ofOptions (os : List (Char × Raw)) : Style :=
  let wants := fun (cs : String) => os.any fun o => cs.contains o.1
  { numbers := wants "nb", filled := wants "b", ends := wants "EAe", tabs := wants "TAt"
    all := wants "vAet", squeezes := wants "s" }

/-- A line with its bytes made visible. -/
def Style.visible (y : Style) (ended : Bool) : Raw → Raw
  | [] => []
  | ['\r'] => if y.all || y.ends && ended then ['^', 'M'] else ['\r']
  | c :: cs =>
    (if c = '\t' then (if y.tabs then ['^', 'I'] else [c])
      else if y.all then shown c else [c]) ++ visible y ended cs

/-- What is kept in mind between lines: the next number, whether the last line was empty, and
whether a line begins here. -/
structure Place where
  number : Nat := 1
  gap : Bool := false
  fresh : Bool := true

def Style.line (y : Style) (p : Place) (l : Raw) (ended : Bool) : Place × Raw :=
  let isGap := p.fresh && ended && l = []
  if isGap && p.gap && y.squeezes then (p, [])
  else
    let counts := p.fresh && y.numbers && !(isGap && y.filled)
    let ds := Numeral.natText 10 p.number
    let number := if counts then List.replicate (6 - ds.length) ' ' ++ ds ++ ['\t'] else []
    let tail := if !ended then [] else if y.ends then ['$', '\n'] else ['\n']
    ({ number := if counts then p.number + 1 else p.number, gap := isGap, fresh := ended },
      number ++ y.visible ended l ++ tail)

/-- Copies one stream block by block. The first fault is of reading, the second of writing. -/
def copy (stream : Nat) : Nat → Act (Except (Bool × Errno) Unit)
  | 0 => return .ok ()
  | n + 1 => do
    match ← Act.ask (.read stream Act.blockSize) with
    | .error .EINTR => copy stream n
    | .error e => return .error (false, e)
    | .ok [] => return .ok ()
    | .ok block =>
      match ← Act.write 1 block with
      | .ok () => copy stream n
      | .error e => return .error (true, e)

/-- Copies some files one after another, as soon as anything can be read. -/
def copyEach (self : String) : List Raw → Nat → Act Nat
  | [], code => return code
  | name :: names, code => do
    let opened : Except Errno Nat ← if name = ['-'] then pure (.ok 0) else Act.openToRead name
    match opened with
    | .error e =>
      Notice.warn (Quotation.faultLine self.toList name e)
      copyEach self names 1
    | .ok stream =>
      let r ← copy stream Act.patience
      if stream ≠ 0 then Act.close stream
      match r with
      | .ok () => copyEach self names code
      | .error (false, e) =>
        Notice.warn (Quotation.faultLine self.toList name e)
        let code ← copyEach self names 1
        if name = ['-'] && e = .EBADF then
          Notice.warn (Notice.faultLine self.toList "closing standard input".toList e)
        return code
      | .error (true, e) =>
        Notice.warn (Notice.faultLine self.toList "write error".toList e)
        return 1

def catGrammar : Letter.Grammar where
  plain := "unbsETvAet"
  long := [("show-all", 'A'), ("number-nonblank", 'b'), ("show-ends", 'E'), ("number", 'n'),
    ("squeeze-blank", 's'), ("show-tabs", 'T'), ("show-nonprinting", 'v')]

/-- Whether a stream leads anywhere. -/
def isOpen (stream : Nat) : Act Bool := return ((← Act.look).streams.lookup stream).isSome

def cat (self : String) (args : List Raw) : Act Nat := do
  match Letter.split catGrammar args with
  | .error f => (f.report self 1).act self 1
  | .ok (os, names) =>
    if !(← isOpen 1) then
      Notice.warn (Notice.faultLine self.toList "standard output".toList .EBADF)
      return 1
    else if os.all (·.1 = 'u') then copyEach self (if names = [] then [['-']] else names) 0
    else
      let p : Passing Place := {
        program := self, names, line := (Style.ofOptions os).line
        closing := some "closing standard input".toList }
      p.act {}

/-! ### From the end -/

/-- The records of a text, the last first. A record ends with the mark, or begins with it. -/
def fromEnd (before : Bool) (mark : Raw) : Nat → Raw → Raw → List Raw
  | 0, held, _ => [held]
  | _, held, [] => [held]
  | n + 1, held, c :: cs =>
    if mark.isPrefixOf (c :: cs) then
      let rest := (c :: cs).drop mark.length
      if before then (mark.reverse ++ held) :: fromEnd before mark n [] rest
      else held :: fromEnd before mark n mark.reverse rest
    else fromEnd before mark n (c :: held) cs

/-- The same for marks that match an expression. `ends` are the places still to be looked at. -/
def fromEndMatching (before : Bool) (r : Regex) (text : Raw) (limit stop : Nat) : Nat → List Raw
  | 0 => [text.take stop]
  | start + 1 =>
    let spot : Regex.Spot := {
      before := start, previous := if start = 0 then none else text[start - 1]?
      rest := (text.take limit).drop start, groups := [] }
    match if start < limit then Regex.matchAt {} r spot else none with
    | none => fromEndMatching before r text limit stop start
    | some t =>
      let cut := if before then start else t.before
      (text.take stop).drop cut :: fromEndMatching before r text start cut start

def tacGrammar : Letter.Grammar where
  plain := "br"
  valued := "s"
  long := [("before", 'b'), ("regex", 'r'), ("separator", 's')]

def tac (self : String) (args : List Raw) : Act Nat := do
  match Letter.split tacGrammar args with
  | .error f => (f.report self 1).act self 1
  | .ok (os, names) =>
    let mark := (Letter.value? 's' os).getD ['\n']
    let before := Letter.has 'b' os
    let turn : Option (Raw → Raw) :=
      if Letter.has 'r' os then
        (Regex.ofText? .basic mark).map fun r text =>
          (fromEndMatching before r text text.length text.length text.length).flatten
      else
        let mark := if mark = [] then ['\x00'] else mark
        some fun text => (fromEnd before mark.reverse (text.length + 1) [] text.reverse).flatten
    match turn with
    | none => (Notice.complain (self.toList ++ ": Invalid regular expression".toList) 1).act self 1
    | some turn => Reading.act {
        program := self, names := names
        complaint := fun name e =>
          let shown := if name = ['-'] then "'standard input'".toList else Quotation.name name
          let front := self.toList ++ ": ".toList
          if e = .EISDIR then front ++ shown ++ ": read error: Invalid argument".toList
          else if e = .EBADF then
            front ++ shown ++ ": read error: ".toList ++ e.text.toList ++ ['\n'] ++ front ++
              name ++ ": ".toList ++ e.text.toList
          else front ++ "failed to open ".toList ++ Quotation.always name ++
            " for reading: ".toList ++ e.text.toList
        write := fun sources =>
          (Reading.atEnd sources (sources.flatMap fun s => turn s.text), 0) }

/-- Turns each line around. -/
def rev (self : String) (args : List Raw) : Act Nat := do
  match Letter.split { plain := "0", long := [("zero", '0')] } args with
  | .error f => (f.report self 1).act self 1
  | .ok (os, names) =>
    let stop := if Letter.has '0' os then '\x00' else '\n'
    let p : Passing Unit := {
      program := self, names, stop, closing := none, inTurn := false
      complaint := fun name e =>
        self.toList ++ ": cannot open ".toList ++ name ++ ": ".toList ++ e.text.toList
      line := fun _ l ended => ((), l.reverse ++ if ended then [stop] else []) }
    p.act ()

/-! ### To several places -/

/-- What is done about a place that takes nothing. -/
inductive Care where
  | usual
  | warn (pipes : Bool)
  | exit (pipes : Bool)
deriving DecidableEq, Repr

def cares : List (String × Care) := [
  ("warn", .warn true), ("warn-nopipe", .warn false), ("exit", .exit true),
  ("exit-nopipe", .exit false)]

/-- What the last option about this asks for. -/
def careOf (os : List (Char × Raw)) : Care :=
  match os.reverse.find? fun o => o.1 = 'o' || o.1 = 'p' with
  | none => .usual
  | some o => (Letter.choose? cares o.2).getD (.warn false)

/-- Writes a block to some streams, and keeps those that take it. Tells whether all did, or nothing
if it is to end. -/
def spread (self : String) (care : Care) (block : Raw) :
    List (Nat × Raw) → Act (Option (List (Nat × Raw) × Bool))
  | [] => return some ([], true)
  | (stream, name) :: more => do
    match ← Act.write stream block with
    | .ok () => return (← spread self care block more).map fun r => ((stream, name) :: r.1, r.2)
    | .error e =>
      let counts : Bool := e ≠ .EPIPE || (care matches .warn true | .exit true | .usual)
      if counts then Notice.warn (Notice.faultLine self.toList name e)
      if counts && (care matches .exit _) then return none
      else return (← spread self care block more).map fun r => (r.1, r.2 && !counts)

/-- Copies the input to some streams. -/
def teeBlocks (self : String) (care : Care) : Nat → List (Nat × Raw) → Bool → Act Nat
  | 0, _, good => return if good then 0 else 1
  | n + 1, streams, good => do
    if streams = [] then return if good then 0 else 1
    else match ← Act.ask (.read 0 Act.blockSize) with
      | .error .EINTR => teeBlocks self care n streams good
      | .ok [] => return if good then 0 else 1
      | .error e =>
        Notice.warn (Notice.faultLine self.toList "read error".toList e)
        if e = .EBADF then Notice.warn (Notice.faultLine self.toList "standard input".toList e)
        return 1
      | .ok block =>
        match ← spread self care block streams with
        | none => return 1
        | some r => teeBlocks self care n r.1 (good && r.2)

/-- Opens a file under a number that is none of the first three. -/
def openApart (name : Raw) (access : Access) : Act (Except Errno Nat) := do
  match ← Act.ask (.open name access) with
  | .error e => return .error e
  | .ok stream =>
    if 2 < stream then return .ok stream
    else
      let r ← Act.ask (.keep stream)
      Act.close stream
      return r

/-- Opens the files that are written to. -/
def teeOpen (self : String) (access : Access) : List Raw → Act (List (Nat × Raw) × Bool)
  | [] => return ([], true)
  | name :: names => do
    match ← openApart name access with
    | .ok stream =>
      let rest ← teeOpen self access names
      return ((stream, Quotation.name name) :: rest.1, rest.2)
    | .error e =>
      Notice.warn (Quotation.faultLine self.toList name e)
      let rest ← teeOpen self access names
      return (rest.1, false)

def tee (self : String) (args : List Raw) : Act Nat := do
  let g : Letter.Grammar := {
    plain := "aip", optional := "o"
    long := [("append", 'a'), ("ignore-interrupts", 'i'), ("output-error", 'o')] }
  match Letter.split g args with
  | .error f => (f.report self 1).act self 1
  | .ok (os, names) =>
    let words := (os.filter fun o => o.1 = 'o' && o.2 ≠ []).map Prod.snd
    match words.find? fun w => (Letter.choose? cares w).isNone with
    | some w =>
      let refusal := Letter.refusedChoice "--output-error" w (cares.map Prod.fst)
      (Letter.usage self refusal 1).act self 1
    | none =>
      let care := careOf os
      if Letter.has 'i' os then
        let _ ← Act.action Signal.interrupt (some .ignore)
      if care ≠ Care.usual then
        let _ ← Act.action Signal.pipe (some .ignore)
      let appends := Letter.has 'a' os
      let opened ← teeOpen self
        { writes := true, creates := true, truncates := !appends, appends } names
      teeBlocks self care Act.patience ((1, "'standard output'".toList) :: opened.1) opened.2

end ServiceStack.Copy
