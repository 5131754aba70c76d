import ServiceStack.Machine.Tool.Feed
import ServiceStack.Machine.Tool.Launch.Basic
import ServiceStack.Machine.Tool.Record.Grammar
import ServiceStack.Machine.Tool.Record.Table

/-!
What a running program for records knows: its variables and tables, the record and its fields, and
the files and commands that it reads and writes. A record is cut into fields when one is asked for,
and put together again when it is asked for itself.
-/

namespace ServiceStack.Record

/-- What a name stands for. -/
inductive Slot where
  | value (v : Value)
  | table (n : Nat)
  /-- nothing yet, or perhaps a table -/
  | either (n : Nat)
deriving Inhabited

/-- What ends a record. -/
inductive Divider where
  | byte (c : Char)
  /-- empty lines -/
  | blankLines
  | regex (r : Regex)

/-- A stream that records are read from. -/
structure Source where
  stream : Nat
  text : Raw := []
  ended : Bool := false

/-- A record and its fields. -/
structure Row where
  text : Raw := []
  fields : Array Value := #[]
  /-- how it is cut, as long as it is whole -/
  whole : Option Splitter := some .blanks
  /-- whether the text no longer tells the fields -/
  stale : Bool := false

/-- A file or a command that is open, and the process of that command. -/
structure Opening (α : Type) where
  name : Raw
  isCommand : Bool
  child : Option Nat := none
  channel : α

local instance nameHashing : Hashable Raw := Raw.hashing

structure State where
  vars : Std.HashMap Raw Slot := {}
  own : Array Slot := #[]
  tables : Array Table := #[]
  row : Row := {}
  splitter : Splitter := .blanks
  divider : Divider := .byte '\n'
  out : Sink := { stream := 1 }
  /-- the files and commands that are written to and read from, the latest first -/
  outlets : List (Opening Sink) := []
  sources : List (Opening Source) := []
  /-- the input that is read, and the number of the next operand -/
  input : Option Source := none
  operand : Nat := 1
  /-- whether an operand named a file -/
  named : Bool := false
  /-- the rules whose ranges have begun -/
  ranges : List Nat := []
  /-- children that ended and were not asked for -/
  endings : List (Nat × Ending) := []
  seed : Value := .number 1
  chance : Nat := 1
  code : Nat := 0

/-- How a statement is left before its end. -/
inductive Leave where
  | next
  | nextFile
  | stop
  | goOn
  | result (v : Value)
  | quit

abbrev Work := ExceptT Leave (StateT State Act)

/-- What does not change while a program runs. -/
structure Setting where
  self : Raw
  perform : Launch.Performer
  environment : List (Raw × Raw)
  program : Program

def act {α : Type} (x : Act α) : Work α := fun s k => x fun a => k (.ok a, s)

def ask (r : Request) : Work r.Answer := act (Act.ask r)

/-- Runs a body, whatever makes it leave. -/
def outcome {α : Type} (body : Work α) : Work (Except Leave α) := fun s k =>
  body s fun r => k (.ok r.1, r.2)

variable (g : Setting)

/-! ### Variables -/

def valueOf (x : String) : Work Value := do
  match (← get).vars[x.toList]? with
  | some (.value v) => return v
  | _ => return .unset

def setValue (x : String) (v : Value) : Work Unit :=
  modify fun s => { s with vars := s.vars.insert x.toList (.value v) }

/-- The text of a variable. -/
def textOf (x : String) : Work Raw := do
  match ← valueOf x with
  | .text t | .input t => return t
  | v => return v.toText "%.6g".toList

/-- How numbers become texts. -/
def conversion : Work Raw := textOf "CONVFMT"

def toText (v : Value) : Work Raw := do
  match v with
  | .number _ => return v.toText (← conversion)
  | v => return v.toText []

def countUp (x : String) : Work Unit := do
  setValue x (.number ((← valueOf x).toNumber + 1))

/-! ### Output -/

/-- Where messages say that a program was. -/
def whereabouts : Work Raw := do
  let file ← textOf "FILENAME"
  return "\tFILENAME=\"".toList ++ file ++ "\" FNR=".toList ++ (← textOf "FNR") ++
    " NR=".toList ++ (← textOf "NR") ++ ['\n']

def tell (text : Raw) : Work Unit := do
  let _ ← act (Act.write 2 (g.self ++ ": ".toList ++ text ++ ['\n']))

/-- Ends the program with a complaint. -/
def die {α : Type} (text : Raw) : Work α := do
  tell g text
  modify ({ · with code := 2 })
  let s ← get
  for o in s.outlets do
    let _ ← act o.channel.flush
  let _ ← act s.out.flush
  act (Act.exit 2)

def dieHere {α : Type} (text : Raw) : Work α := do
  die g ("run time error: ".toList ++ text ++ '\n' :: (← whereabouts).dropLast)

def checkSink (k : Sink) : Work Unit := do
  if let some e := k.fault then
    die g ("write failure (".toList ++ e.text.toList ++ [')'])

def put (t : Raw) : Work Unit := do
  let k ← act ((← get).out.put t)
  modify ({ · with out := k })
  checkSink g k

def flushOut : Work Unit := do
  let k ← act (← get).out.flush
  modify ({ · with out := k })
  checkSink g k

def flushOpening (p : Opening Sink) : Work (Opening Sink) := do
  let sink ← act p.channel.flush
  return { p with channel := sink }

def flushAll : Work Unit := do
  flushOut g
  let flushed ← (← get).outlets.mapM flushOpening
  modify ({ · with outlets := flushed })

/-! ### Commands -/

/-- Starts a command for which a stream is made of one end of a pipe. Tells the process and the
other end. -/
def startCommand (command : Raw) (side : Nat) : Work (Option (Nat × Nat)) := do
  flushOut g
  match ← ask .pipe with
  | .error _ => return none
  | .ok (front, back) =>
    let ours := if side = 0 then back else front
    let theirs := if side = 0 then front else back
    let child ← act <| Act.fork do
      Act.close ours
      let _ ← Act.ask (.copy theirs side)
      Act.close theirs
      run
    act (Act.close theirs)
    match ← ask (.keep ours) with
    | .ok kept =>
      act (Act.close ours)
      return some (child, kept)
    | .error _ => return some (child, ours)
where
  run : Act Nat := do
    let _ ← Launch.exec g.perform g.environment "/bin/sh".toList ["-c".toList, command]
    return 127

/-- Waits for a child. -/
def awaitChild (child : Nat) : Work (Option Ending) := do
  match (← get).endings.lookup child with
  | some e => return some e
  | none => go Act.patience
where
  go : Nat → Work (Option Ending)
    | 0 => return none
    | n + 1 => do
      match ← ask (.await true) with
      | .ok (some (pid, e)) =>
        if pid = child then return some e
        else
          modify fun s => { s with endings := (pid, e) :: s.endings }
          go n
      | .ok none | .error .EINTR => go n
      | .error _ => return none

/-- The code of a child that ended. -/
def codeOf : Option Ending → Nat
  | some (.exit code) => code
  | some (.signal n) => 256 + n
  | none => 0

/-- Runs a command until it ends. -/
def system (command : Raw) : Work Nat := do
  flushAll g
  let child ← act (Act.fork (startCommand.run g command))
  return codeOf (← awaitChild child)

/-! ### Files and commands that are written to -/

def outputName : Raw := "/dev/stdout".toList

/-- The errors, which are written at once. -/
def errorsName : Raw := "/dev/stderr".toList

def openOutlet (way : Way) (name : Raw) : Work (Opening Sink) := do
  if way = .command then
    match ← startCommand g name 0 with
    | some (child, stream) =>
      return { name, isCommand := true, child := some child, channel := { stream } }
    | none => die g "cannot make a pipe".toList
  else
    let appends := way = .append
    let access : Access := { writes := true, creates := true, truncates := !appends, appends }
    match ← ask (.open name access) with
    | .ok stream =>
      let kept ← match ← ask (.keep stream) with
        | .ok kept => do
          act (Act.close stream)
          pure kept
        | .error _ => pure stream
      return { name, isCommand := false, channel := { stream := kept } }
    | .error e =>
      die g ("cannot open \"".toList ++ name ++ "\" for output (".toList ++ e.text.toList ++ [')'])

/-- Writes a text where an outlet leads. -/
def putTo (way : Way) (name text : Raw) : Work Unit := do
  if way ≠ .command && name = outputName then put g text
  else if way ≠ .command && name = errorsName then
    let _ ← act (Act.write 2 text)
  else
    let isCommand := way = .command
    let old := (← get).outlets.find? fun p => p.name = name && p.isCommand = isCommand
    let p ← match old with
      | some p => pure p
      | none => openOutlet g way name
    let sink ← act (p.channel.put text)
    let others := (← get).outlets.filter fun q => !(q.name = name && q.isCommand = isCommand)
    modify ({ · with outlets := { p with channel := sink } :: others })
    checkSink g sink

/-- Ends an outlet, and waits for its command. -/
def closeOutlet (p : Opening Sink) : Work Nat := do
  let _ ← act p.channel.flush
  act (Act.close p.channel.stream)
  match p.child with
  | some child => return codeOf (← awaitChild child)
  | none => return 0

def closeSource (p : Opening Source) : Work Nat := do
  act (Act.close p.channel.stream)
  match p.child with
  | some child => return codeOf (← awaitChild child)
  | none => return 0

/-- Closes all of a name. -/
def close (name : Raw) : Work Float := do
  let s ← get
  let outlets := s.outlets.filter (·.name = name)
  let sources := s.sources.filter (·.name = name)
  modify fun s => { s with
    outlets := s.outlets.filter (·.name ≠ name), sources := s.sources.filter (·.name ≠ name) }
  let first ← outlets.mapM closeOutlet
  let second ← sources.mapM closeSource
  match first ++ second with
  | [] => return -1
  | codes => return Float.ofNat (codes.getLast?.getD 0)

/-- Writes out what is left, and waits for commands. -/
def closeAll : Work Unit := do
  for p in (← get).outlets do
    let _ ← closeOutlet p
  modify ({ · with outlets := [] })
  flushOut g

/-! ### Records -/

/-- The first record of a text and what follows it, if its end is known. -/
def cutRecord (d : Divider) (ended : Bool) (t : Raw) : Option (Raw × Raw) :=
  match d with
  | .byte c =>
    let front := t.takeWhile (· ≠ c)
    match t.drop front.length with
    | _ :: rest => some (front, rest)
    | [] => if ended && t ≠ [] then some (t, []) else none
  | .blankLines =>
    let t := t.dropWhile (· = '\n')
    let r := paragraph t
    let rest := r.2.dropWhile (· = '\n')
    if t = [] then none
    else if rest ≠ [] then some (r.1, rest)
    else if ended then some (r.1, [])
    else none
  | .regex r =>
    match findSome? r (t.length + 1) (Regex.Spot.start t) with
    | some (a, b) =>
      if ended || b.rest ≠ [] then some (t.take a.before, b.rest) else none
    | none => if ended && t ≠ [] then some (t, []) else none
where
  /-- A text up to two line breaks, or up to one at its end. -/
  paragraph : Raw → Raw × Raw
    | [] => ([], [])
    | ['\n'] => ([], [])
    | '\n' :: '\n' :: rest => ([], rest)
    | c :: rest =>
      let r := paragraph rest
      (c :: r.1, r.2)

/-- How much is read at once. -/
def readSize : Nat := 4096

/-- The next record of a source. -/
def Source.record (d : Divider) : Nat → Source → Act (Except Errno (Option Raw) × Source)
  | 0, s => return (.ok none, s)
  | n + 1, s => do
    match cutRecord d s.ended s.text with
    | some (t, rest) => return (.ok (some t), { s with text := rest })
    | none =>
      if s.ended then return (.ok none, { s with text := [] })
      else match ← Act.ask (.read s.stream readSize) with
        | .error .EINTR => s.record d n
        | .error e => return (.error e, { s with ended := true })
        | .ok [] => Source.record d n { s with ended := true }
        | .ok block => Source.record d n { s with text := s.text ++ block }

/-- Takes a text as the record. -/
def setRow (t : Raw) : Work Unit := modify fun s =>
  { s with row := { text := t, whole := some s.splitter } }

/-- The record, cut into fields. -/
def cutRow : Work Row := do
  let r := (← get).row
  match r.whole with
  | none => return r
  | some y =>
    let r := { r with fields := ((y.split r.text).map Value.input).toArray, whole := none }
    modify ({ · with row := r })
    return r

/-- The record, put together. -/
def wholeRow : Work Raw := do
  let r := (← get).row
  if !r.stale then return r.text
  let stop ← textOf "OFS"
  let parts ← r.fields.toList.mapM toText
  let t := stop.intercalate parts
  modify fun s => { s with row := { s.row with text := t, stale := false } }
  return t

def fieldAt (n : Nat) : Work Value := do
  if n = 0 then return .input (← wholeRow)
  else return ((← cutRow).fields[n - 1]?).getD .unset

/-- Fields with empty ones behind them, up to a number. -/
def filled (fields : Array Value) (n : Nat) : Array Value :=
  fields ++ Array.replicate (n - fields.size) (.input [])

def setField (n : Nat) (v : Value) : Work Unit := do
  if n = 0 then setRow (← toText v)
  else
    let r ← cutRow
    let fields := (filled r.fields n).set! (n - 1) v
    modify ({ · with row := { r with fields, stale := true } })

def setCount (n : Nat) : Work Unit := do
  let r ← cutRow
  modify ({ · with row := { r with fields := (filled r.fields n).take n, stale := true } })

/-- A number that can be that of a field. -/
def fieldNumber (v : Value) : Work Nat := do
  let n := Double.clamped (-2147483648) 2147483647 v.toNumber
  if n < 0 then dieHere g ("negative field index $".toList ++ Numeral.intText n)
  else return n.toNat

/-- Sets what separates fields or records when its variable is set. -/
def follow (x : Raw) (v : Value) : Work Unit := do
  if x = "FS".toList then
    let t ← toText v
    match Splitter.ofText? t with
    | .ok y => modify ({ · with splitter := y })
    | .error _ => dieHere g ("regular expression compile failed\n".toList ++ t)
  else if x = "RS".toList then
    let t ← toText v
    match t with
    | [] => modify ({ · with divider := .blankLines })
    | [c] => modify ({ · with divider := .byte c })
    | _ =>
      match regex? t with
      | .ok r => modify ({ · with divider := .regex r })
      | .error _ => dieHere g ("regular expression compile failed\n".toList ++ t)
  else if x = "OFS".toList then
    let _ ← wholeRow

/-- Gives a value to a variable of the program. -/
def give (x : Raw) (v : Value) : Work Unit := do
  if x = "NF".toList then setCount (← fieldNumber g v)
  else
    follow g x v
    modify fun s => { s with vars := s.vars.insert x (.value v) }

end ServiceStack.Record
