import ServiceStack.Machine.Shell.Builtin
import ServiceStack.Machine.Shell.Grammar
import ServiceStack.Machine.Shell.Redirection
import ServiceStack.Machine.Shell.Rich

/-!
How commands run. Each stage of a pipeline is a process of its own, and so is what stands in
parentheses or runs in the background; all else runs in the shell itself. The last command of such a
process takes its place if it can. With the option `e` a failure that nothing looks at ends the
shell.
-/

namespace ServiceStack.Shell

variable (k : Hooks Item)

/-! ### Programs -/

/-- Gives the process to a program. -/
def become {α : Type} (t : Start) (name : Raw) (args : List Raw) : Sh α := do
  let s ← get
  let call : Call := {
    program := t.name.getD name, args := t.front ++ args, environment := environment s }
  let _ ← ask .replace
  let code ← act (k.perform t.tool call)
  act (Act.exit code)

/-- Gives the process to the program of some name, which may be called by another one, or ends it
with the reason why that cannot be. -/
def replaceBy {α : Type} (path name : Raw) (args : List Raw) (called : Raw) : Sh α := do
  let scene ← act Act.look
  let s ← get
  match scene.startWith (directories path) name args (environment s) with
  | .ok t =>
    if s.rich then
      let file := (pathOf? scene (directories path) name).getD name
      let outer := (valueOf? "SHLVL".toList s).bind Numeral.natural?
      modify fun s => if s.level = 0 && outer.isSome then
        { s with vars := s.vars.map fun v => if v.1 = "SHLVL".toList then
          (v.1, { v.2 with value := some (Numeral.natText 10 (outer.getD 0 - 1)) }) else v } else s
      modify fun s =>
        let row := fun (v : Raw × Variable) => v.1 ≠ ['_']
        { s with vars := s.vars.filter row ++ [(['_'], { value := some file, exported := true })] }
    become k t called args
  | .error e =>
    let isMissing := e = .ENOENT || e = .ENOTDIR || e = .ELOOP || e = .ENAMETOOLONG
    setStatus (if isMissing then 127 else 126)
    if s.rich && scene.isDirectory name && name.contains '/' then
      modify fun s => { s with running := none }
      complain (name ++ ": Is a directory".toList)
    else if s.rich && s.running.isSome && !name.contains '/' && isMissing then
      complain (name ++ ": not found".toList)
    else
      modify fun s => { s with running := if s.rich then none else s.running }
      complain (name ++ ": ".toList ++ runFault s.rich name e)
    throw .finish

/-- Whether there are actions on signals that a program in the place of the shell could not run. -/
def hasActions (s : State) : Bool := s.traps.any fun t => s.rich || t.2 ≠ []

/-- Runs a program, in the place of the shell if that has nothing more to do. -/
def external (flags : Flags) (path name : Raw) (args : List Raw) : Sh Nat := do
  if flags.exits && !hasActions (← get) then replaceBy k path name args name
  else
    let slot ← newBatch
    enlist slot (← fork do
      modify fun s => { s with level := s.level + 1 }
      let _ ← outcome (replaceBy k path name args name : Sh Unit)
      return (← get).status)
    waitFor slot

/-! ### Builtins that run commands -/

/-- The file of a script that is named: names without slashes are looked for. -/
def scriptFile (name : Raw) : Sh Raw := do
  if name.contains '/' then return name
  let scene ← act Act.look
  match pathOf? scene (directories (pathText (← get))) name with
  | some p => return p
  | none => if (← get).rich then return name else giveUp (name ++ ": not found".toList)

/-- Runs a script as if its lines stood here; it may return. -/
def source (args : List Raw) : Sh Nat := do
  match ← operands args with
  | [] => return 0
  | name :: _ =>
    let file ← scriptFile name
    match ← act (Act.readFile file) with
    | .error .EISDIR => return 0
    | .error e => giveUp (openFault false false file e)
    | .ok text =>
      modify fun s => { s with running := some file }
      match ← outcome (k.script {} text) with
      | .ok code => return code
      | .error (.returned _) => return (← get).status
      | .error f => throw f

/-- The same in the rich dialect, in which the script may have arguments of its own. -/
def sourceRich (args : List Raw) : Sh Nat := do
  match ← pickOptions false "" "" args with
  | (_, []) => misused "filename argument required".toList
  | (_, name :: rest) =>
    let file ← scriptFile name
    match ← act (Act.readFile file) with
    | .error .EISDIR => refuse 1 (name ++ ": is a directory".toList)
    | .error e =>
      modify fun s => { s with running := none }
      refuse 1 (name ++ ": ".toList ++ e.text.toList)
    | .ok text =>
      let old ← get
      set { old with
        running := none, origin := some file, sources := old.sources + 1, reading := []
        args := if rest = [] then old.args else rest }
      let r ← outcome (k.script {} text)
      modify fun s => { s with
        origin := old.origin, sources := old.sources, reading := old.reading
        args := if rest = [] then s.args else old.args }
      match r with
      | .ok code => return code
      | .error (.returned _) => return (← get).status
      | .error f => throw f

/-- Runs a builtin. Its mistake ends the shell only if it is special. -/
def runBuiltin (flags : Flags) (ends : Bool) (name : Raw) (args : List Raw) : Sh Nat := do
  let running := (← get).running
  modify fun s => { s with running := some name }
  let r ← outcome (match String.ofList name with
    | "eval" =>
      if args = [] then return 0
      else k.script { tested := flags.tested } ([' '].intercalate args)
    | "." => source k args
    | "exec" =>
      match args with
      | [] => return 0
      | name :: args => do replaceBy k (pathText (← get)) name args name
    | _ => builtin name args : Sh Nat)
  modify fun s => { s with running := running }
  match r with
  | .error .fault => if ends then throw .fault else return (← get).status
  | r => resume r

/-- The command `exec`, which may give a program another name or no environment. -/
def execRich (args : List Raw) : Sh Nat := do
  let (os, rest) ← pickOptions false "cl" "a" args
  match rest with
  | [] => return 0
  | name :: args =>
    if chosen os 'c' then
      modify fun s => { s with vars := s.vars.map fun v => (v.1, { v.2 with exported := false }) }
    let called := (valueFor os 'a').getD name
    replaceBy k (pathText (← get)) name args (if chosen os 'l' then '-' :: called else called)

/-- Runs a builtin of the rich dialect, whose mistakes end nothing. -/
def runRich (flags : Flags) (tables : List (Raw × Word)) (name : Raw) (args : List Raw) :
    Sh Nat := do
  let running := (← get).running
  modify fun s => { s with running := some name }
  let r ← outcome (match String.ofList name with
    | "eval" => do
      let reading := (← get).reading
      modify fun s => { s with running, reading := "eval".toList, firstLine := s.line }
      let run := k.script { tested := flags.tested } ([' '].intercalate args)
      if args = [] then return 0 else behind (modify fun s => { s with reading }) run
    | "." | "source" => sourceRich k args
    | "exec" => execRich k args
    | _ => Rich.builtin k tables name args : Sh Nat)
  modify fun s => { s with running }
  match r with
  | .error .fault => return (← get).status
  | r => resume r

/-! ### Functions -/

/-- The most functions that run within each other. -/
def callLimit : Nat := 1000

/-- Calls a function: it has its own arguments, and leaves by `return`. -/
def call (flags : Flags) (name : Raw) (body : Command) (args : List Raw) : Sh Nat := do
  let s ← get
  if callLimit ≤ s.calls && !s.rich then
    giveUp ("Maximum function recursion depth (".toList ++ Numeral.natText 10 callLimit ++
      ") reached".toList)
  let loops := if s.rich then s.loops else 0
  set { s with
    args := args, index := 1, offset := none, loops := loops, calls := s.calls + 1
    callers := (name, s.line) :: s.callers
    origin := if s.rich then some (s.origin.getD "environment".toList) else none }
  let r ← outcome (k.command { tested := flags.tested } body)
  let t ← get
  let isNew := t.traps.lookup Rich.returnTrap ≠ s.traps.lookup Rich.returnTrap
  match if isNew && r.toBool then t.traps.lookup Rich.returnTrap else none with
  | some action =>
    let _ ← outcome (k.script {} action)
    setStatus t.status
  | none => pure ()
  modify fun t => { t with
    args := s.args, index := s.index, offset := s.offset, loops := s.loops, calls := s.calls
    callers := s.callers, origin := s.origin }
  match r with
  | .ok () | .error (.returned _) => return (← get).status
  | .error f => throw f

/-! ### Simple commands -/

/-- A command whose words are being expanded. -/
structure Order where
  fields : List Raw := []
  rest : List Word
  /-- how many of the fields only tell how the command is to be looked for -/
  front : Nat := 0
  /-- whether a mistake of the command ends the shell -/
  special : Option Bool := none
  /-- whether values that are given to it are its own -/
  hides : Bool := false
  /-- whether its arguments may give values -/
  givesValues : Bool := false
  /-- whether functions are passed over -/
  plain : Bool := false
  path : Option Raw := none
  /-- tables of values that it is to make -/
  tables : List (Raw × Word) := []

/-- Expands words till there is one field more. -/
def more : List Word → List Raw → Sh (List Raw × List Word)
  | [], fields => return (fields, [])
  | w :: ws, fields => do
    match ← expandFields k w with
    | [] => more ws fields
    | fs => return (fields ++ fs, ws)

/-- Expands words till there is a field of some number. -/
def reach (n : Nat) (o : Order) : Sh (Option Raw × Order) := do
  match o.fields[n]? with
  | some f => return (some f, o)
  | none =>
    let r ← more k o.rest o.fields
    return (r.1[n]?, { o with fields := r.1, rest := r.2 })

/-- The order behind the words of `command` if they only tell how to look for what follows. -/
def passOptions : Nat → Nat → Order → Sh (Order × Bool)
  | 0, _, o => return (o, false)
  | n + 1, i, o => do
    let (f, o) ← reach k i o
    match f with
    | none => return (o, false)
    | some ['-', '-'] =>
      let (f, o) ← reach k (i + 1) o
      return ({ o with front := i + 1 }, f.isSome)
    | some ('-' :: c :: cs) =>
      if (c :: cs).all (· = 'p') then passOptions n (i + 1) { o with path := some usualPath }
      else return (o, false)
    | some _ => return ({ o with front := i }, true)

/-- Finds out of what kind the command is. -/
def settle : Nat → Order → Sh Order
  | 0, o => return o
  | n + 1, o => do
    match o.fields[o.front]? with
    | none => return o
    | some name =>
      let rich := (← get).rich
      let isFunction := !o.plain && ((← get).functions.lookup name).isSome
      if isFunction || !isBuiltin rich name then return { o with hides := true }
      else
        let special := o.special.getD (isSpecial rich name)
        let o := { o with special := some special, hides := o.special.isSome || !special,
                          givesValues := if rich then declares name else givesValues name }
        if rich && name = "builtin".toList then
          let (next, o) ← reach k (o.front + 1) o
          if next.any (isBuiltin true) then settle n { o with front := o.front + 1, plain := true }
          else return o
        else if name ≠ "command".toList then return o
        else match ← passOptions k (n + 1) (o.front + 1) o with
          | (p, true) => settle n { p with plain := true }
          | (p, false) => return { p with front := o.front, path := o.path }

/-- The fields of the words that are left. -/
def remaining (givesValues : Bool) : List Word → Sh (List Raw)
  | [] => return []
  | w :: ws => do
    let given := if (← get).rich then w.givenValue? else w.assignment?
    let fs ← match givesValues, given with
      | true, some (x, v) => givenField k x v
      | _, _ => expandFields k w
    return fs ++ (← remaining givesValues ws)
where
  /-- A value as an argument gives it. Tables of values are given elsewhere. -/
  givenField (k : Hooks Item) (x : Raw) : Word → Sh (List Raw)
    | [.list _] | [.given _ _ [.list _]] => return [x]
    | [.given index adds v] => do
      let place ← if index = [] then pure [] else do
        pure ('[' :: (← expandText k index) ++ [']'])
      return [x ++ place ++ (if adds then ['+', '='] else ['=']) ++ (← expandValue k v)]
    | v => do return [x ++ '=' :: (← expandValue k v)]

def order (words : List Word) : Sh Order := do
  let r ← more k words []
  let o ← settle k (words.length + r.1.length + 1) { fields := r.1, rest := r.2 }
  let tables := o.rest.filterMap fun w => match w.givenValue? with
    | some (x, [.list items]) => some (x, [Part.list items])
    | some (x, [.given i adds [.list items]]) => some (x, [.given i adds [.list items]])
    | _ => none
  return { o with
    fields := o.fields ++ (← remaining k o.givesValues o.rest), rest := [], tables }

/-- Gives values, and returns them as they are traced. -/
def giveValues (hides exports : Bool) : List (Raw × Word) → Sh (List Raw)
  | [] => return []
  | (x, w) :: rest => do
    if (← get).rich then
      if hides then hide (.variable x (variableOf? x (← get)))
      let shown ← match ← outcome (giveRich k x w) with
        | .ok shown => pure [shown]
        | .error .dropped => if hides then pure [] else throw .dropped
        | .error f => throw f
      if hides || exports then
        modify fun s => { s with
          vars := s.vars.map fun v => if v.1 = x then (x, { v.2 with exported := true }) else v }
      return shown ++ (← giveValues hides exports rest)
    let v ← expandValue k w
    if hides then hide (.variable x (variableOf? x (← get)))
    change x fun old => { old with value := some v, exported := old.exported || hides || exports }
    return (x ++ '=' :: v) :: (← giveValues hides exports rest)

/-- What stands before a command that is traced. -/
def traceMark : Sh Raw := do
  let s ← get
  let text := (valueOf? "PS4".toList s).getD []
  match Grammar.textWord? (reader s) text with
  | none => return text
  | some w =>
    set { s with isTracing := true }
    let r ← outcome (k.expand false w)
    modify fun s => { s with isTracing := false }
    match r with
    | .ok items => textOf items
    | .error _ => return text

def trace (words : List Raw) : Sh Unit := do
  let s ← get
  if s.options.contains 'x' && !s.isTracing then
    let mark ← traceMark k
    let mark := if s.rich then List.replicate s.level (mark.headD '+') ++ mark else mark
    let _ ← put s.tracer (mark ++ [' '].intercalate words ++ ['\n'])

/-- Runs a command by its name. -/
def dispatch (flags : Flags) (o : Order) (name : Raw) (args : List Raw) : Sh Nat := do
  let s ← get
  let tend (body : Sh Nat) : Sh Nat := do
    setStatus (← body)
    let _ ← await .never none
    return (← get).status
  match if o.plain then none else s.functions.lookup name with
  | some body => tend (call k flags name body args)
  | none =>
    if isBuiltin s.rich name then
      if s.rich then tend (runRich k flags o.tables name args)
      else tend (runBuiltin k flags (o.special = some true) name args)
    else
      let path := o.path.getD (pathText s)
      if !(← findProgram true path name) then return 127
      external k flags path name args

/-- A word as it is traced in the rich dialect. -/
def shownWord (w : Raw) : Raw := if w = [] then ['\'', '\''] else Spelling.shortest w

/-- Runs a command whose words were expanded, with its values and under its redirections. -/
def perform (flags : Flags) (o : Order) (values : List (Raw × Word)) (rs : List Redirect) :
    Sh Nat := do
  let command := o.fields.drop o.front
  let isExec := command.head? = some "exec".toList && o.special.isSome
  let ds ← direct k rs
  let (kept, failed) ← follow k true [] ds
  let r ← outcome (match failed with
    | .error .fault => do
      if o.special = some true then throw .fault else return (← get).status
    | .error f => throw f
    | .ok () => do
      let given ← giveValues k o.hides (isExec && 1 < command.length) values
      let rich := (← get).rich
      let tracer := (← get).tracer
      modify fun s => { s with tracer := ((kept.lookup 2).join).getD 2 }
      if rich then
        for g in given do
          trace k [g]
        if o.fields ≠ [] then trace k (o.fields.map shownWord)
      else trace k (given ++ o.fields)
      modify fun s => { s with tracer }
      match command with
      | [] => return (← get).substituted
      | name :: args => dispatch k flags o name args : Sh Nat)
  bringBack (isExec && r.toBool) kept
  resume r

/-- Brings back what commands hid that run within the one at some depth. -/
def uncoverTo (depth : Nat) : Nat → Sh Unit
  | 0 => return
  | n + 1 => do
    if depth < (← get).hidden.length then
      uncover
      uncoverTo depth n

/-- Closes the streams that lead to commands in words. -/
def takeBack : Sh Unit := do
  let lent := (← get).lent
  modify fun s => { s with lent := [] }
  for n in lent do
    act (Act.close n)

def simple (flags : Flags) (values : List (Raw × Word)) (words : List Word)
    (rs : List Redirect) : Sh Nat := do
  modify fun s => { s with substituted := 0 }
  let o ← order k words
  let o := { o with hides := o.hides && (o.special.isNone || values ≠ []) }
  let depth := (← get).hidden.length
  if o.hides then modify fun s => { s with hidden := [] :: s.hidden }
  let r ← outcome (perform k flags o values rs)
  modify fun s => { s with lastArg := o.fields.getLast?.getD [] }
  takeBack
  match r with
  | .error .exit | .error .fault | .error .finish => resume r
  | _ =>
    uncoverTo depth ((← get).hidden.length + 1)
    resume r

/-! ### Loops -/

/-- What comes after the body of a loop was left: nothing, or another round. -/
def afterRound (r : Except Flow Unit) (next : Sh Unit) : Sh Unit := do
  match r with
  | .ok () => next
  | .error (.broken n) => if 1 < n then throw (.broken (n - 1))
  | .error (.continued n) => if 1 < n then throw (.continued (n - 1)) else next
  | .error f => throw f

/-- The status of a loop is that of its body, or 0 if the body never ran. -/
def rounds (flags : Flags) (inverted : Bool) (test body : Command) : Nat → Nat → Sh Unit
  | 0, _ => return
  | n + 1, last => do
    match ← outcome (k.command { tested := true } test) with
    | .ok () =>
      if ((← get).status = 0) = inverted then setStatus last
      else
        let r ← outcome (k.command { tested := flags.tested } body)
        let status := (← get).status
        afterRound r (rounds flags inverted test body n status)
    | .error (.broken 1) => setStatus last
    | r => afterRound r (rounds flags inverted test body n last)

def eachRound (flags : Flags) (name : Raw) (body : Command) : List Raw → Sh Unit
  | [] => return
  | w :: ws => do
    assign name w
    let r ← outcome (k.command { tested := flags.tested } body)
    afterRound r (eachRound flags name body ws)

/-- The value of a sum that governs a loop; an empty one is not zero. -/
def loopSum (w : Word) : Sh (Option Int) := do
  let text ← textOf (← k.expand false w)
  if text.all Raw.isBlank then return some 1
  match ← workOut text with
  | .ok n => return some n
  | .error (.unset x) => refuseSum (.unset x)
  | .error f =>
    complain ("((: ".toList ++ f.message)
    return none

/-- A loop that is governed by sums. -/
def countedRounds (flags : Flags) (test next : Word) (body : Command) : Nat → Sh Unit
  | 0 => return
  | n + 1 => do
    match ← loopSum k test with
    | none => setStatus 1
    | some 0 => return
    | some _ =>
      let r ← outcome (k.command { tested := flags.tested } body)
      let after : Sh Unit := do
        match ← loopSum k next with
        | none => setStatus 1
        | some _ => countedRounds flags test next body n
      afterRound r after

def inLoop (body : Sh Unit) : Sh Unit := do
  modify fun s => { s with loops := s.loops + 1 }
  behind (modify fun s => { s with loops := s.loops - 1 }) body

/-! ### Choices -/

def matchesAny (subject : Raw) : List Word → Sh Bool
  | [] => return false
  | p :: ps => do
    let y := patternStyle (← get)
    if Pattern.isMatch y (← expandPattern k p) subject then return true
    else matchesAny subject ps

/-- The commands of the first arm that fits, and of those that follow from it. -/
def chosenArms (subject : Raw) : List (List Word × Command) → Sh (List Command)
  | [] => return []
  | (ps, c) :: arms => do
    if ← matchesAny k subject ps then
      match c with
      | .falls true c => return c :: (← chosenArms subject arms)
      | .falls false c => return c :: straight arms
      | c => return [c]
    else chosenArms subject arms
where
  straight : List (List Word × Command) → List Command
    | [] => []
    | (_, .falls _ c) :: arms => c :: straight arms
    | (_, c) :: _ => [c]

/-! ### Processes -/

/-- Runs a command in parentheses, for which no process is needed at the end of one. -/
def subshell (flags : Flags) (c : Command) (rs : List Redirect) : Sh Nat := do
  let ds ← direct k rs
  let body (flags : Flags) : Sh Unit := do
    resume (← follow k false [] ds).2
    k.command flags c
  if flags.exits && !hasActions (← get) then
    body flags
    throw .finish
  else
    let slot ← newBatch
    spawn k slot .front (body { flags with exits := true })
    waitFor slot

def background (c : Command) (rs : List Redirect) : Sh Nat := do
  let ds ← direct k rs
  let slot ← newBatch
  spawn k slot .back do
    resume (← follow k false [] ds).2
    k.command { exits := true } c
  return 0

/-- Notes where the command of a stage is found. -/
def foresee : Command → Sh Unit
  | .simple _ _ (w :: _) _ => do
    match Word.bare? w with
    | some name =>
      let rich := (← get).rich
      if isName name && !isBuiltin rich name && ((← get).functions.lookup name).isNone then
        let _ ← findProgram false (pathText (← get)) name
    | none => return
  | _ => return

/-- Starts the stages of a pipeline, the first of which reads from some stream. -/
def startStages (flags : Flags) (slot : Nat) (kin : Kin) : Option Nat → List Command → Sh Unit
  | _, [] => return
  | source, c :: cs => do
    foresee c
    let pipe ← if cs.isEmpty then pure none else do
      match ← ask .pipe with
      | .ok p => pure (some p)
      | .error _ => giveUp "Pipe call failed".toList
    spawn k slot kin do
      match pipe with
      | some (next, _) => act (Act.close next)
      | none => pure ()
      redirect source 0
      redirect (pipe.map Prod.snd) 1
      k.command { flags with exits := true } c
    match source with
    | some n => act (Act.close n)
    | none => pure ()
    match pipe with
    | some (_, sink) => act (Act.close sink)
    | none => pure ()
    startStages flags slot kin (pipe.map Prod.fst) cs
where
  redirect (stream : Option Nat) (onto : Nat) : Sh Unit := do
    match stream with
    | some n =>
      if n ≠ onto then
        let _ ← ask (.copy n onto)
        act (Act.close n)
    | none => return

/-- Waits for all stages of a pipeline, and tells how it ended: as its last stage, or under an
option as the last one that failed. -/
def waitForStages (slot : Nat) : Sh Nat := do
  let _ ← await .batch (some slot)
  let members := ((batch? slot (← get)).map Batch.members).getD []
  let codes := members.map fun m => (m.ending.map Ending.status).getD 0
  dropBatch slot
  modify fun s => { s with stages := codes }
  let last := codes.getLast?.getD 0
  if (← get).extras.contains "pipefail" then
    return ((codes.filter (· ≠ 0)).getLast?).getD 0
  else return last

def pipeline (flags : Flags) (stages : List Command) (waits : Bool) : Sh Nat := do
  let slot ← newBatch
  startStages k flags slot (if waits then .front else .back) none stages
  if !waits then return 0
  if (← get).rich then waitForStages slot else waitFor slot

/-! ### All commands -/

/-- Whether a failure that nothing looks at ends the shell now. -/
def isFatal (flags : Flags) : Sh Bool := do
  let s ← get
  return s.options.contains 'e' && !flags.tested && s.status ≠ 0

def atLine (line : Nat) : Sh Unit := modify fun s => { s with line }

/-- Runs an action that is no signal's, and goes on as if it had not been. -/
def runAction (n : Nat) : Sh Unit := do
  let s ← get
  match s.traps.lookup n with
  | none | some [] => return
  | some action =>
    modify fun s => { s with traps := s.traps.filter (·.1 ≠ n) }
    let r ← outcome (k.script {} action)
    modify fun t => { t with
      status := s.status, stages := s.stages
      traps := if (t.traps.lookup n).isSome then t.traps else (n, action) :: t.traps }
    match r with
    | .ok _ => return
    | .error f => throw f

/-- Runs the action that stands before each command. -/
def runDebug : Sh Unit := do
  let s ← get
  if s.rich && s.callers = [] && (s.traps.lookup Rich.debugTrap).isSome then
    runAction k Rich.debugTrap

/-- Runs the action on a failure that nothing looks at. -/
def runFailure (flags : Flags) : Sh Unit := do
  let s ← get
  let heard := s.callers = [] || s.options.contains 'E'
  if s.rich && s.status ≠ 0 && !flags.tested && heard then runAction k Rich.errorTrap

/-- The flags of a part of a command: a rich shell that was started with a script gives its process
only to a simple command at the end of it. -/
def inner (flags : Flags) (c : Command) (s : State) : Flags :=
  if !s.rich || s.level ≠ 0 then flags
  else match c with
    | .simple _ _ _ [] => flags
    | .and _ (.simple ..) | .or _ (.simple ..) | .sequence _ (.simple ..) => flags
    | _ => { flags with exits := false }

/-- One step into a command. Tells whether its failure may end the shell. -/
def step (flags : Flags) : Command → Sh Bool
  | .skip => return false
  | .simple line values words rs => do
    atLine line
    runDebug k
    match ← outcome (simple k flags values words rs) with
    | .ok code =>
      setStatus code
      modify fun s => { s with stages := [code] }
      return true
    | .error (.returned given) =>
      if ← isFatal flags then throw .finish else throw (.returned given)
    | .error f => throw f
  | .pipe stages waits => do
    setStatus (← pipeline k flags stages waits)
    return true
  | .not c => do
    k.command { tested := true } c
    modify fun s => { s with status := if s.status = 0 then 1 else 0 }
    return false
  | .and a b => do
    k.command { tested := true } a
    if (← get).status = 0 then k.command flags b
    return false
  | .or a b => do
    k.command { tested := true } a
    if (← get).status ≠ 0 then k.command flags b
    return false
  | .sequence a b => do
    k.command { tested := flags.tested } a
    k.command flags b
    return false
  | .labelled text c => do
    modify fun s => { s with label := text }
    k.command flags c
    modify fun s => { s with label := [] }
    return false
  | .background line c rs => do
    atLine line
    setStatus (← background k c rs)
    return true
  | .subshell line c rs => do
    atLine line
    setStatus (← subshell k flags c rs)
    return true
  | .choice test yes no => do
    k.command { tested := true } test
    if (← get).status = 0 then k.command flags yes
    else if no matches .skip then setStatus 0
    else k.command flags no
    return false
  | .loop inverted test body => do
    inLoop (rounds k flags inverted test body Act.patience 0)
    return false
  | .each line name words body => do
    atLine line
    let ws ← match words with
      | some ws => expandAllFields k ws
      | none => pure (← get).args
    if ws = [] then setStatus 0 else inLoop (eachRound k flags name body ws)
    return false
  | .cases line subject arms => do
    atLine line
    let text ← expandText k subject
    let found ← chosenArms k text arms
    if found.all (fun c => c matches .skip) then setStatus 0
    for c in found do
      if !(c matches .skip) then k.command flags c
    return false
  | .function _ name body => do
    modify fun s => { s with
      functions := (name, body) :: s.functions.filter (·.1 ≠ name), status := 0 }
    return false
  | .redirected line c rs => do
    atLine line
    let ds ← direct k rs
    let (kept, failed) ← follow k true [] ds
    let r ← outcome (match failed with
      | .error .fault => return ()
      | .error f => throw f
      | .ok () => k.command { tested := flags.tested } c : Sh Unit)
    bringBack false kept
    resume r
    return !failed.toBool
  | .sum line w => do
    atLine line
    let text ← textOf (← k.expand false w)
    trace k ["((".toList, text, "))".toList]
    match ← workOut text with
    | .ok n => setStatus (if n = 0 then 1 else 0)
    | .error (.unset x) => refuseSum (.unset x)
    | .error f => do
      complain ((if f matches .told .. then "((: " else "").toList ++ f.message)
      setStatus 1
    modify fun s => { s with stages := [s.status] }
    return true
  | .trial line t => do
    atLine line
    let code ← tryOut k t
    setStatus code
    modify fun s => { s with stages := [code] }
    return true
  | .counted line first test next body => do
    atLine line
    setStatus 0
    match ← loopSum k first with
    | none => setStatus 1
    | some _ => inLoop (countedRounds k flags test next body Act.patience)
    return false
  | .falls _ c => do
    k.command flags c
    return false
  | .timed c => do
    let start ← act Act.time
    k.command { tested := flags.tested } c
    let taken := (← act Act.time) - start
    let seconds := Numeral.natText 10 (taken / 1000000000)
    let part := Numeral.padZeros 3 (Numeral.natText 10 (taken / 1000000 % 1000))
    let _ ← put 2 ("\nreal\t0m".toList ++ seconds ++ '.' :: part ++
      "s\nuser\t0m0.000s\nsys\t0m0.000s\n".toList)
    return false

/-- Runs a command, unless the option `n` says that commands are only read. -/
def execute (flags : Flags) (c : Command) : Sh Unit := do
  let mayEnd ← if (c matches .skip) || (← hasOption 'n') then pure false else do
    runTraps k
    step k (inner flags c (← get)) c
  runTraps k
  if mayEnd then runFailure k flags
  if mayEnd && (← isFatal flags) then throw .finish
  if flags.exits then throw .finish

/-! ### Scripts -/

/-- Tells why a rich script cannot be read, whose text from some line on is known. -/
def tellFault (line : Nat) (text : Raw) (f : Fault) : Sh Unit := do
  let s ← get
  let origin := if s.reading = [] then [] else s.reading ++ ": ".toList
  let front := s.origin.getD s.name ++ ": ".toList ++ origin ++
    "line ".toList ++ Numeral.natText 10 f.line ++ ": ".toList
  let _ ← put 2 (front ++ f.text ++ ['\n'])
  if f.shows then
    let shown := ((Raw.lines text)[f.line - line]?).getD []
    let _ ← put 2 (front ++ '\x60' :: shown ++ ['\'', '\n'])
  setStatus 2

/-- Runs the lines of a text from one on, and tells the status of the last command. -/
def runLines (flags : Flags) : Nat → Nat → Raw → Nat → Sh Nat
  | 0, _, _, last => return last
  | n + 1, line, text, last => do
    match Grammar.next (reader (← get)) line text with
    | .done => return last
    | .mistake f =>
      atLine f.line
      if (← get).rich then
        tellFault line text f
        return 2
      else giveUp ("Syntax error: ".toList ++ f.text)
    | .command c rest line =>
      match ← outcome (k.command { flags with exits := flags.exits && rest = [] } c) with
      | .ok () =>
        let status := (← get).status
        runLines flags n line rest (if c matches .skip then last else status)
      | .error .dropped =>
        if 0 < (← get).level then throw .dropped else runLines flags n line rest 1
      | .error f => throw f

/-- Runs a script line by line. -/
def runScript (flags : Flags) (text : Raw) : Sh Nat := do
  let first := (← get).firstLine
  modify fun s => { s with firstLine := 1 }
  runLines k flags (text.length + 1) first text 0

end ServiceStack.Shell
