import ServiceStack.Machine.Tool.Record.State

/-!
How programs for records run. An expression finds a value, a statement does something or leaves what
surrounds it: a loop, a function, the rules for a record, or the program.
-/

namespace ServiceStack.Record

variable (g : Setting)

/-- What the parts of a program call that call each other. -/
structure Hooks where
  value : Expr → Work Value
  run : Statement → Work Unit

/-! ### Tables -/

/-- Changes a table, which is taken out of its place meanwhile, so that nothing of it is copied. -/
def onTable {α : Type} (n : Nat) (f : Table → α × Table) : Work α :=
  modifyGet fun s =>
    match s.tables.swapAt! n {} with
    | (t, tables) =>
      match f t with
      | (a, t) => (a, { s with tables := tables.set! n t })

def newTable (t : Table) : Work Nat :=
  modifyGet fun s => (s.tables.size, { s with tables := s.tables.push t })

/-- What a name stands for. -/
def slotOf : Expr → Work Slot
  | .shared x => return ((← get).vars[x]?).getD (.value .unset)
  | .own n => return ((← get).own[n]?).getD (.value .unset)
  | _ => return .value .unset

def setSlot (e : Expr) (t : Slot) : Work Unit :=
  match e with
  | .shared x => modify fun s => { s with vars := s.vars.insert x t }
  | .own n => modify fun s => { s with own := s.own.set! n t }
  | _ => return ()

/-- The table of a name. A name that stood for nothing gets one. -/
def tableOf (e : Expr) : Work Nat := do
  match ← slotOf e with
  | .table n => return n
  | .either n =>
    setSlot e (.table n)
    return n
  | .value .unset =>
    let n ← newTable {}
    setSlot e (.table n)
    return n
  | .value _ => dieHere g "a value is used as a table".toList

/-- A value as a key. -/
def keyOf (v : Value) : Work Key := do
  match v with
  | .number x =>
    match Double.whole? x with
    | some n =>
      if -2147483648 ≤ n && n < 2147483648 then return ⟨Numeral.intText n, some n⟩
      else return ⟨← toText v, none⟩
    | none => return ⟨← toText v, none⟩
  | v => return ⟨v.toText [], none⟩

/-- The key of some expressions; several are put together to one. -/
def keyFor (k : Hooks) (keys : List Expr) : Work Key := do
  match keys with
  | [e] => keyOf (← k.value e)
  | keys =>
    let parts ← keys.mapM fun e => do toText (← k.value e)
    return ⟨(← textOf "SUBSEP").intercalate parts, none⟩

/-! ### Targets -/

/-- Where a value is put. -/
inductive Place where
  | shared (x : Raw)
  | own (n : Nat)
  | count
  | field (n : Nat)
  | item (table : Nat) (key : Key)
  | nowhere

def placeOf (k : Hooks) : Expr → Work Place
  | .shared x => return .shared x
  | .own n => return .own n
  | .count => return .count
  | .field e => return .field (← fieldNumber g (← k.value e))
  | .item table keys => do
    let n ← tableOf g table
    return .item n (← keyFor k keys)
  | _ => return .nowhere

def valueIn (s : Slot) : Work Value :=
  match s with
  | .value v => return v
  | .either _ => return .unset
  | .table _ => dieHere g "a table is used as a value".toList

def valueAt : Place → Work Value
  | .shared x => do valueIn g (← slotOf (.shared x))
  | .own n => do valueIn g (← slotOf (.own n))
  | .count => return .ofNat (← cutRow).fields.size
  | .field n => fieldAt n
  | .item table key => do
    return (← onTable table fun t => t.find key true).getD .unset
  | .nowhere => return .unset

def putAt (v : Value) : Place → Work Unit
  | .shared x => give g x v
  | .own n => setSlot (.own n) (.value v)
  | .count => do setCount (← fieldNumber g v)
  | .field n => setField n v
  | .item table key => onTable table fun t => ((), t.set key v)
  | .nowhere => return ()

/-! ### Records -/

/-- The operand of some number. -/
def operandAt (n : Nat) : Work Raw := do
  match ← slotOf (.shared "ARGV".toList) with
  | .table t =>
    let v ← onTable t fun t => t.find ⟨Numeral.natText 10 n, some n⟩ false
    toText (v.getD .unset)
  | _ => return []

/-- A text with its escapes read. -/
def unescaped (t : Raw) : Raw :=
  match Token.quoted [] (t.length + 2) (t ++ ['"']) with
  | .ok r => r.1
  | .error _ => t

/-- The name and the value of an operand that gives a variable. -/
def assignment? (a : Raw) : Option (Raw × Raw) :=
  let x := a.takeWhile Token.isNamePart
  match a.drop x.length with
  | '=' :: v => if x.head?.any Token.isNameStart then some (x, unescaped v) else none
  | _ => none

/-- Opens the next file of the operands, or the input if none of them is a file. -/
def openNext : Nat → Work (Option Source)
  | 0 => return none
  | k + 1 => do
    let s ← get
    let last := Double.clamped 0 2147483647 (← valueOf "ARGC").toNumber
    if last ≤ s.operand then
      if s.named then return none
      modify ({ · with named := true })
      return some { stream := 0 }
    let a ← operandAt s.operand
    modify ({ · with operand := s.operand + 1 })
    if a = [] then openNext k
    else match assignment? a with
      | some (x, v) =>
        give g x (.input v)
        openNext k
      | none =>
        modify ({ · with named := true })
        setValue "FILENAME" (.text a)
        setValue "FNR" (.number 0)
        if a = ['-'] then return some { stream := 0 }
        match ← act (Act.openToRead a) with
        | .ok stream => return some { stream }
        | .error e =>
          die g ("cannot open \"".toList ++ a ++ "\" (".toList ++ e.text.toList ++ [')'])

def closeInput : Work Unit := do
  if let some i := (← get).input then
    if i.stream ≠ 0 then act (Act.close i.stream)
  modify ({ · with input := none })

/-- The next record of the input. -/
def nextRecord : Nat → Work (Option Raw)
  | 0 => return none
  | k + 1 => do
    match (← get).input with
    | none =>
      match ← openNext g Act.patience with
      | none => return none
      | some i =>
        modify ({ · with input := some i })
        nextRecord k
    | some i =>
      let (r, i) ← act (i.record (← get).divider Act.patience)
      match r with
      | .ok (some t) =>
        modify ({ · with input := some i })
        return some t
      | .ok none =>
        modify ({ · with input := some i })
        closeInput
        nextRecord k
      | .error e => die g ("read error (".toList ++ e.text.toList ++ [')'])

/-- A record of the input, which is counted. -/
def countedRecord : Work (Option Raw) := do
  let t ← nextRecord g Act.patience
  if t.isSome then
    countUp "NR"
    countUp "FNR"
  return t

/-- A record of a file or of a command that is read from: a number that tells how that went. -/
def recordOf (isCommand : Bool) (name : Raw) : Work (Option Raw × Int) := do
  let old := (← get).sources.find? fun p => p.name = name && p.isCommand = isCommand
  let p : Option (Opening Source) ← match old with
    | some p => pure (some p)
    | none => do
      if isCommand then
        match ← startCommand g name 1 with
        | some (child, stream) =>
          pure (some { name, isCommand, child := some child, channel := { stream } })
        | none => pure none
      else if name = ['-'] || name = "/dev/stdin".toList then
        pure (some { name, isCommand, channel := { stream := 0 } })
      else match ← act (Act.openToRead name) with
        | .ok stream => pure (some { name, isCommand, channel := { stream } })
        | .error _ => pure none
  match p with
  | none => return (none, -1)
  | some p =>
    let (r, source) ← act (p.channel.record (← get).divider Act.patience)
    let others := (← get).sources.filter fun q => !(q.name = name && q.isCommand = isCommand)
    modify ({ · with sources := { p with channel := source } :: others })
    match r with
    | .ok (some t) => return (some t, 1)
    | .ok none => return (none, 0)
    | .error _ => return (none, -1)

/-! ### Builtins -/

/-- The expression that stands for texts to be matched. -/
def regexOf (k : Hooks) (e : Expr) : Work Regex := do
  match e with
  | .pattern r => return r
  | e =>
    let t ← toText (← k.value e)
    match regex? t with
    | .ok r => return r
    | .error f =>
      dieHere g ("regular expression compile failed (".toList ++ faultText f ++ ")\n".toList ++ t)

/-- What separates the parts of a text. -/
def splitterOf (k : Hooks) : Option Expr → Work Splitter
  | none => return (← get).splitter
  | some (.pattern r) => return .regex r
  | some e => do
    let t ← toText (← k.value e)
    match Splitter.ofText? t with
    | .ok y => return y
    | .error f =>
      dieHere g ("regular expression compile failed (".toList ++ faultText f ++ ")\n".toList ++ t)

/-- The part of a text from a byte on. What lies before the first byte adds to the length. -/
def substring (t : Raw) (start : Float) (length : Option Float) : Raw :=
  let whole := Double.clamped (-2147483648) 2147483647
  let first := whole start
  let most := length.map fun n => if first < 1 then whole n - first else whole n
  let rest := t.drop (first - 1).toNat
  match most with
  | some n => rest.take n.toNat
  | none => rest

/-- Where a text first stands in another one, counted from one. -/
def indexIn (part : Raw) : Nat → Raw → Nat
  | n, t =>
    if part.isPrefixOf t then n + 1
    else match t with
      | [] => 0
      | _ :: t => indexIn part (n + 1) t

/-- A number from zero up to one, and what the next one is found from. -/
def nextChance (n : Nat) : Nat := (n * 6364136223846793005 + 1442695040888963407) % Numeral.wordSize

/-- What a format makes of values. What could be written goes to `wrote` before a complaint. -/
def formatted (what : String) (wrote : Raw → Work Unit) (f : Raw) (vs : List Value) :
    Work Raw := do
  let r := format (Value.toText (← conversion)) f vs
  let call := what.toList ++ "(\"".toList ++ f ++ "\")".toList
  match r.2 with
  | none => return r.1
  | some .missing => do
    wrote r.1
    dieHere g ("not enough arguments passed to ".toList ++ call)
  | some (.improper n) => do
    wrote r.1
    dieHere g ("improper conversion(number ".toList ++ Numeral.natText 10 n ++ ") in ".toList ++
      call)

/-- Puts texts in the place of matches. -/
def change (k : Hooks) (all : Bool) (pattern replacement : Expr) (target : Option Expr) :
    Work Value := do
  let r ← regexOf g k pattern
  let new ← toText (← k.value replacement)
  let place ← match target with
    | some e => placeOf g k e
    | none => pure (.field 0)
  let t ← toText (← valueAt g place)
  let x := replace r all new t
  if x.2 ≠ 0 then putAt g (.text x.1) place
  return .ofNat x.2

def sizeOf (n : Nat) : Work Nat := onTable n fun t => (t.size, t)

def builtinValue (k : Hooks) (b : Builtin) (args : List Expr) : Work Value := do
  let number (f : Float → Float) : Work Value := do
    match args with
    | [e] => return .number (f (← k.value e).toNumber)
    | _ => return .unset
  let text (f : Raw → Raw) : Work Value := do
    match args with
    | [e] => return .text (f (← toText (← k.value e)))
    | _ => return .unset
  match b, args with
  | .length, [] => return .ofNat (← wholeRow).length
  | .length, e :: _ =>
    match ← slotOf e with
    | .table n => return .ofNat (← sizeOf n)
    | .either n =>
      let size ← sizeOf n
      if size ≠ 0 then return .ofNat size
      return .ofNat (← toText (← k.value e)).length
    | _ => return .ofNat (← toText (← k.value e)).length
  | .substr, e :: start :: more =>
    let t ← toText (← k.value e)
    let start := (← k.value start).toNumber
    match more with
    | [] => return .text (substring t start none)
    | n :: _ => return .text (substring t start (some (← k.value n).toNumber))
  | .index, [a, b] =>
    let t ← toText (← k.value a)
    return .ofNat (indexIn (← toText (← k.value b)) 0 t)
  | .split, e :: table :: more =>
    let t ← toText (← k.value e)
    let y ← splitterOf g k more.head?
    let n ← tableOf g table
    let parts := y.split t
    onTable n fun _ => ((), Table.ofList (parts.map .input))
    return .ofNat parts.length
  | .sub, p :: r :: more => change g k false p r more.head?
  | .gsub, p :: r :: more => change g k true p r more.head?
  | .matchAt, [e, p] =>
    let t ← toText (← k.value e)
    let r ← regexOf g k p
    match find? r t with
    | some (before, length) =>
      setValue "RSTART" (.ofNat (before + 1))
      setValue "RLENGTH" (.ofNat length)
      return .ofNat (before + 1)
    | none =>
      setValue "RSTART" (.number 0)
      setValue "RLENGTH" (.number (-1))
      return .number 0
  | .sprintf, f :: more =>
    let f ← toText (← k.value f)
    return .text (← formatted g "sprintf" (fun _ => return ()) f (← more.mapM k.value))
  | .sin, _ => number Float.sin
  | .cos, _ => number Float.cos
  | .atan2, [a, b] =>
    let y := (← k.value a).toNumber
    return .number (y.atan2 (← k.value b).toNumber)
  | .exp, _ => number Float.exp
  | .log, _ => number Float.log
  | .sqrt, _ => number Float.sqrt
  | .int, _ => number Double.whole
  | .rand, _ =>
    let n := nextChance (← get).chance
    modify ({ · with chance := n })
    return .number (Float.ofNat (n / 2048) / 9007199254740992)
  | .srand, args =>
    let old := (← get).seed
    let seed ← match args with
      | e :: _ => k.value e
      | [] => pure (.ofNat (← act Act.clock).1)
    modify ({ · with seed, chance := seed.toNumber.toBits.toNat })
    return old
  | .tolower, _ => text (·.map Char.toLower)
  | .toupper, _ => text (·.map Char.toUpper)
  | .system, [e] => return .ofNat (← system g (← toText (← k.value e)))
  | .close, [e] => return .number (← close (← toText (← k.value e)))
  | .flush, args =>
    match args with
    | [] =>
      flushAll g
      return .number 0
    | e :: _ =>
      let name ← toText (← k.value e)
      flushAll g
      let isOpen := name = outputName || (← get).outlets.any (·.name = name)
      return .number (if isOpen then 0 else -1)
  | .systime, _ => return .ofNat (← act Act.clock).1
  | _, _ => return .unset

/-! ### Expressions -/

/-- What is handed over for a parameter: a table, a value, or what may become a table. -/
def argument (k : Hooks) (e : Expr) : Work Slot := do
  match e with
  | .shared _ | .own _ =>
    match ← slotOf e with
    | .value .unset =>
      let n ← newTable {}
      setSlot e (.either n)
      return .either n
    | s => return s
  | e => return .value (← k.value e)

def callFunction (k : Hooks) (f : Raw) (args : List Expr) : Work Value := do
  match g.program.functions.find? (·.name = f) with
  | none => return .unset
  | some f =>
    let slots ← args.mapM (argument k)
    let old := (← get).own
    let missing := List.replicate (f.params.length - slots.length) (Slot.value .unset)
    let own := (slots ++ missing).toArray
    modify ({ · with own })
    let r ← outcome (k.run f.body)
    modify ({ · with own := old })
    match r with
    | .ok () => return .unset
    | .error (.result v) => return v
    | .error l => throw l

/-- Where a record is put that is read: to a target, or it is the record itself. -/
def landing (k : Hooks) (target : Option Expr) : Work (Option Place) := do
  match target with
  | some e => return some (← placeOf g k e)
  | none => return none

def receive (place : Option Place) (t : Raw) : Work Unit := do
  match place with
  | some p => putAt g (.input t) p
  | none => setRow t

/-- Whether the record, or a text, matches. -/
def fits (k : Hooks) (a b : Expr) : Work Bool := do
  let t ← toText (← k.value a)
  return (find? (← regexOf g k b) t).isSome

def value (k : Hooks) (e : Expr) : Work Value := do
  match e with
  | .number x => return .number x
  | .text t => return .text t
  | .pattern r => return .ofBool (find? r (← wholeRow)).isSome
  | .shared _ | .own _ => valueIn g (← slotOf e)
  | .count => valueAt g .count
  | .field n => fieldAt (← fieldNumber g (← k.value n))
  | .item .. => valueAt g (← placeOf g k e)
  | .give target op e =>
    let place ← placeOf g k target
    let v ← k.value e
    let new ← match op with
      | none => pure v
      | some op => pure (.number (op.value (← valueAt g place).toNumber v.toNumber))
    putAt g new place
    return new
  | .step target size before =>
    let place ← placeOf g k target
    let old := (← valueAt g place).toNumber
    putAt g (.number (old + size)) place
    return .number (if before then old + size else old)
  | .negative e => return .number (-(← k.value e).toNumber)
  | .positive e => return .number (← k.value e).toNumber
  | .not e => return .ofBool !(← k.value e).isTrue
  | .arithmetic op a b =>
    let x := (← k.value a).toNumber
    return .number (op.value x (← k.value b).toNumber)
  | .comparison op a b =>
    let v ← k.value a
    let w ← k.value b
    return .ofBool (op.holds (v.order (← conversion) w))
  | .fits a b => return .ofBool (← fits g k a b)
  | .both a b =>
    if !(← k.value a).isTrue then return .ofBool false
    return .ofBool (← k.value b).isTrue
  | .either a b =>
    if (← k.value a).isTrue then return .ofBool true
    return .ofBool (← k.value b).isTrue
  | .choice c a b => if (← k.value c).isTrue then k.value a else k.value b
  | .joined a b =>
    let s ← toText (← k.value a)
    return .text (s ++ (← toText (← k.value b)))
  | .holds table keys =>
    let key ← keyFor k keys
    let n ← tableOf g table
    return .ofBool (← onTable n fun t => t.find key false).isSome
  | .call f args => callFunction g k f args
  | .builtin b args => builtinValue g k b args
  | .read target =>
    let place ← landing g k target
    match ← countedRecord g with
    | some t =>
      receive g place t
      return .number 1
    | none => return .number 0
  | .readFile target file =>
    let place ← landing g k target
    readFrom false place (← toText (← k.value file))
  | .readCommand target command =>
    let name ← toText (← k.value command)
    readFrom true (← landing g k target) name
  | .enclosed e => k.value e
where
  readFrom (isCommand : Bool) (place : Option Place) (name : Raw) : Work Value := do
    let (t, n) ← recordOf g isCommand name
    if let some t := t then receive g place t
    return .number (Double.ofInt n)

/-! ### Statements -/

/-- The text of a value that is written. -/
def shownText (v : Value) : Work Raw := do
  match v with
  | .number _ => return v.toText (← textOf "OFMT")
  | v => return v.toText []

def writeTo (k : Hooks) (out : Outlet) (t : Raw) : Work Unit := do
  match out with
  | none => put g t
  | some (way, e) => putTo g way (← toText (← k.value e)) t

/-- Turns of a loop until its condition fails or it is left. -/
def turns (k : Hooks) (c : Option Expr) (next : Option Statement) (body : Statement) :
    Nat → Bool → Work Unit
  | 0, _ => return ()
  | n + 1, free => do
    let goes ← match c, free with
      | some c, false => pure (← k.value c).isTrue
      | _, _ => pure true
    if goes then
      match ← outcome (k.run body) with
      | .ok () | .error .goOn =>
        if let some s := next then k.run s
        turns k c next body n false
      | .error .stop => return ()
      | .error l => throw l

def eachKey (k : Hooks) (target : Expr) (body : Statement) : List Raw → Work Unit
  | [] => return ()
  | x :: xs => do
    putAt g (.text x) (← placeOf g k target)
    match ← outcome (k.run body) with
    | .ok () | .error .goOn => eachKey k target body xs
    | .error .stop => return ()
    | .error l => throw l

def runEach (k : Hooks) : List Statement → Work Unit
  | [] => return ()
  | s :: ss => do
    k.run s
    runEach k ss

def run (k : Hooks) (s : Statement) : Work Unit := do
  match s with
  | .block body => runEach k body
  | .expr e =>
    let _ ← k.value e
  | .print es out =>
    let t ← match es with
      | [] => wholeRow
      | es => do
        let parts ← es.mapM fun e => do shownText (← k.value e)
        pure ((← textOf "OFS").intercalate parts)
    writeTo g k out (t ++ (← textOf "ORS"))
  | .printf es out =>
    match ← es.mapM k.value with
    | [] => return ()
    | f :: vs =>
      let wrote := writeTo g k out
      wrote (← formatted g "printf" wrote (← toText f) vs)
  | .branch c a b =>
    if (← k.value c).isTrue then k.run a
    else if let some b := b then k.run b
  | .loop c next body free => turns k c next body Act.patience free
  | .each target table body =>
    let n ← tableOf g table
    eachKey g k target body (← onTable n Table.keys)
  | .stop => throw .stop
  | .goOn => throw .goOn
  | .next => throw .next
  | .nextFile => throw .nextFile
  | .quit e =>
    if let some e := e then
      let n := Double.clamped (-2147483648) 2147483647 (← k.value e).toNumber
      modify ({ · with code := (n % 256).toNat })
    throw .quit
  | .result e =>
    match e with
    | none => throw (.result .unset)
    | some e => throw (.result (← k.value e))
  | .delete table keys =>
    let n ← tableOf g table
    match keys with
    | none => onTable n fun _ => ((), {})
    | some keys =>
      let key ← keyFor k keys
      onTable n fun t => ((), t.erase key)

/-- Expressions and statements of some depth. -/
def hooks : Nat → Hooks
  | 0 => ⟨fun _ => return .unset, fun _ => return ()⟩
  | n + 1 => ⟨fun e => value g (hooks n) e, fun s => run g (hooks n) s⟩

/-! ### Programs -/

/-- Whether an action is to be done for the record. -/
def applies (k : Hooks) (n : Nat) : Pattern → Work Bool
  | .always => return true
  | .start | .finish => return false
  | .expr e => return (← k.value e).isTrue
  | .range a b => do
    let isOpen := (← get).ranges.contains n
    let begins ← if isOpen then pure true else do return (← k.value a).isTrue
    if begins then
      let ends := (← k.value b).isTrue
      modify fun s =>
        { s with ranges := if ends then s.ranges.filter (· ≠ n) else n :: s.ranges.filter (· ≠ n) }
      return true
    else return false

/-- Without an action the record is written. -/
def actionOf (r : Rule) : Statement := r.action.getD (.print [] none)

def runRules (k : Hooks) : Nat → List Rule → Work Unit
  | _, [] => return ()
  | n, r :: rs => do
    if ← applies k n r.pattern then k.run (actionOf r)
    runRules k (n + 1) rs

def runRecords (k : Hooks) : Nat → Work Unit
  | 0 => return ()
  | n + 1 => do
    match ← countedRecord g with
    | none => return ()
    | some t =>
      setRow t
      match ← outcome (runRules k 0 g.program.rules) with
      | .error .nextFile =>
        closeInput
        runRecords k n
      | .ok () | .error .next => runRecords k n
      | .error l => throw l

/-- Runs actions one after another, and then what follows unless the program was left. -/
def runActions (k : Hooks) (rs : List Rule) (next : Work Unit) : Work Unit := do
  match ← outcome (runEach k (rs.map actionOf)) with
  | .error .quit => return ()
  | _ => next

def depth : Nat := 1000000000

def Pattern.isStart : Pattern → Bool
  | .start => true
  | _ => false

def Pattern.isFinish : Pattern → Bool
  | .finish => true
  | _ => false

/-- Runs a program: what comes first, then its rules for each record, then what comes last. -/
def runProgram : Work Unit := do
  let k := hooks g depth
  let rules := g.program.rules
  let starts := rules.filter (·.pattern.isStart)
  let ends := rules.filter (·.pattern.isFinish)
  runActions k starts do
    if starts.length ≠ rules.length then
      let _ ← outcome (runRecords g k Act.patience)
  runActions k ends (return ())
  closeAll g

end ServiceStack.Record
