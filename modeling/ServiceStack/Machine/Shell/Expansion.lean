import ServiceStack.Machine.Shell.Batch
import ServiceStack.Machine.Shell.Subject

/-!
What words stand for. The parts of a word become a row of items, which is then cut into fields. A
field that is a pattern stands for the files that it names.
-/

namespace ServiceStack.Shell

variable (k : Hooks Item)

/-! ### Parameters -/

def valueItems (quoted : Bool) (name : Raw) (s : State) : List Item :=
  if name = ['@'] || name = ['*'] && !quoted then Item.ofArguments quoted s.args
  else Item.ofValue quoted ((parameter? name s).getD [])

def unset {α : Type} (name : Raw) (colon : Bool) : Sh α :=
  giveUp (name ++ ": parameter not set".toList ++ if colon then " or null".toList else [])

/-- An unset parameter is a mistake under the option `u`. -/
def guardSet (name : Raw) : Sh Unit := do
  let s ← get
  if s.options.contains 'u' && !isSeveral name && (parameter? name s).isNone then
    unset name false

/-- What is made of a parameter in the plain dialect. -/
def expandParameter (splits quoted : Bool) (name : Raw) : Use → Sh (List Item)
  | .value => do
    guardSet name
    return valueItems quoted name (← get)
  | .length => do
    guardSet name
    return Item.ofValue quoted (Numeral.natText 10 ((parameter? name (← get)).getD []).length)
  | .offer sign colon word => do
    let v := parameter? name (← get)
    let isSet := v.any fun v => !colon || v ≠ []
    if sign = '+' then
      if isSet then expandOffer k splits quoted word else return Item.ofValue quoted []
    else if isSet then return valueItems quoted name (← get)
    else if sign = '-' then expandOffer k splits quoted word
    else
      let text ← textOf (← k.expand false (← expandTilde word))
      if sign = '=' then
        if !isName name then giveUp (name ++ ": bad variable name".toList)
        assign name text
        return Item.ofValue quoted text
      else if word = [] then unset name colon
      else giveUp (name ++ ": ".toList ++ text)
  | .trim atEnd longest pattern => do
    guardSet name
    let s ← get
    match parameter? name s with
    | none => return Item.ofValue quoted []
    | some v =>
      let p := Item.flat (between s) (← k.expand false (← expandTilde pattern))
      if splits && isSeveral name && (name = ['@'] || !quoted) then
        return Item.ofArguments quoted (Pattern.trimAll atEnd longest p s.args)
      else return Item.ofValue quoted (Pattern.trim {} atEnd longest p v)
  | _ => giveUp "Bad substitution".toList

/-! ### Commands and sums -/

/-- A text without line breaks at its end. -/
def withoutBreaks (text : Raw) : Raw :=
  ((text.filter (· ≠ '\x00')).reverse.dropWhile (· = '\n')).reverse

/-- The file that a command without words reads, whose text the command stands for. -/
def readFileOf? (c : Command) : Option Word :=
  match c with
  | .simple _ [] [] [⟨0, .input, w⟩] => some w
  | _ => none

/-- The output of a command, without line breaks at its end. -/
def outputOf (c : Command) : Sh Raw := do
  match ← ask .pipe with
  | .error _ => giveUp "Pipe call failed".toList
  | .ok (source, sink) =>
    let slot ← newBatch
    spawn k slot .inner do
      act (Act.close source)
      if sink ≠ 1 then
        let _ ← ask (.copy sink 1)
        act (Act.close sink)
      if (← get).rich then modify fun s => { s with options := s.options.filter (· ≠ 'e') }
      k.command { exits := true } c
    act (Act.close sink)
    let text := match ← act (Act.readAll source) with
      | .ok text => text
      | .error _ => []
    act (Act.close source)
    let code ← waitFor slot
    modify fun s => { s with substituted := code }
    return withoutBreaks text

/-- What a command in a word stands for. -/
def output (c : Command) : Sh Raw := do
  if c matches .skip then return []
  let rich := (← get).rich
  match if rich then readFileOf? c else none with
  | none => outputOf k c
  | some w =>
    let path ← wordText k w
    match ← act (Act.readFile path) with
    | .ok text =>
      modify fun s => { s with substituted := 0 }
      return withoutBreaks text
    | .error e =>
      complain (path ++ ": ".toList ++ e.text.toList)
      modify fun s => { s with substituted := 1 }
      return []

/-- The streams that lead to commands in words, the first of them. -/
def firstProcessStream : Nat := 63

/-- A path that leads to what a command writes, or to what it reads. -/
def processPath (reads : Bool) (c : Command) : Sh Raw := do
  match ← ask .pipe with
  | .error _ => giveUp "Pipe call failed".toList
  | .ok (source, sink) =>
    let (mine, its, stream) := if reads then (source, sink, 1) else (sink, source, 0)
    let slot ← newBatch
    let pid ← fork (conclude k do
      begin .inner false
      act (Act.close mine)
      let _ ← ask (.copy its stream)
      act (Act.close its)
      k.command { exits := true } c)
    enlist slot pid
    act (Act.close its)
    let n := firstProcessStream - (← get).lent.length
    let _ ← ask (.copy mine n)
    act (Act.close mine)
    modify fun s => { s with lent := n :: s.lent, lastBackground := some pid }
    return "/dev/fd/".toList ++ Numeral.natText 10 n

/-- The complaint about a sum that has no value. -/
def sumFault (text : Raw) : Arithmetic.Fault → Raw
  | .badNumber v => "Illegal number: ".toList ++ v
  | .expected what =>
    "arithmetic expression: expecting ".toList ++ what.toList ++ ": \"".toList ++ text ++ ['"']
  | .divisionByZero | .overflow =>
    "arithmetic expression: division by zero: \"".toList ++ text ++ ['"']

def evaluate (w : Word) : Sh Int := do
  let text ← textOf (← k.expand false w)
  let s ← get
  if s.rich then return (← sumOf text)
  let r := Arithmetic.evaluate (fun x => valueOf? x s) text
  for (x, v) in r.2 do
    assign x (Numeral.intText v)
  match r.1 with
  | .ok n => return n
  | .error .overflow =>
    let me ← act Act.self
    let _ ← ask (.kill me.pid Signal.arithmetic)
    return 0
  | .error f => giveUp (sumFault text f)

/-! ### Words -/

def expandPart (splits : Bool) : Part → Sh (List Item)
  | .text quoted s =>
    return if quoted && s = [] then [.mark] else s.map fun c => .glyph c quoted false
  | .parameter quoted name use => do
    if (← get).rich then expandSubject k splits quoted (← subjectOf k name none) use
    else expandParameter k splits quoted name use
  | .element quoted name index use => do
    expandSubject k splits quoted (← subjectOf k name (some index)) use
  | .process reads c => do
    return (← processPath k reads c).map fun c => .glyph c true false
  | .list _ | .given .. => return []
  | .command quoted c => return Item.ofValue quoted (← output k c)
  | .arithmetic quoted w => return Item.ofValue quoted (Numeral.intText (← evaluate k w))

def expandParts (splits : Bool) : Word → Sh (List Item)
  | [] => return []
  | p :: ps => return (← expandPart k splits p) ++ (← expandParts splits ps)

def expandWord (splits : Bool) (w : Word) : Sh (List Item) := do
  expandParts k splits (← expandTilde w)

def globRules (s : State) : Glob.Rules where
  style := patternStyle s
  skipsSelf := s.rich
  dots := s.extras.contains "dotglob"
  drops := s.extras.contains "nullglob"

/-- The texts of a field: the files that it names, or itself. -/
def fieldTexts (gs : List Glyph) : Sh (List Raw) := do
  let y := globRules (← get)
  if Glob.isPattern y gs && !(← hasOption 'f') then return Glob.expand y (← act Act.look) gs
  else return [gs.map Prod.fst]

/-- The fields of a word. -/
def expandFields (w : Word) : Sh (List Raw) := do
  let items ← expandWord k true w
  return (← (Item.fields (separators (← get)) items).mapM fieldTexts).flatten

def expandAllFields (ws : List Word) : Sh (List Raw) := do
  return (← ws.mapM (expandFields k)).flatten

/-- A word as one text. -/
def expandText (w : Word) : Sh Raw := do textOf (← expandWord k false w)

/-- The value of an assignment as one text. -/
def expandValue (w : Word) : Sh Raw := do
  textOf (← expandParts k false (← expandTildes true w))

/-- A word as a pattern. -/
def expandPattern (w : Word) : Sh (List Glyph) := do
  return Item.flat (between (← get)) (← expandWord k false w)

end ServiceStack.Shell
