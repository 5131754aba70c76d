import ServiceStack.Machine.Shell.Handling
import ServiceStack.Machine.Shell.Intake
import ServiceStack.Machine.Shell.Naming
import ServiceStack.Machine.Shell.Place
import ServiceStack.Machine.Shell.Trying
import ServiceStack.Machine.Tool.Printf

/-!
The builtins of the rich dialect that run no other commands. A mistake of one never ends the shell,
but too many arguments may end the line.
-/

namespace ServiceStack.Shell.Rich

/-! ### Leaving -/

def numberNeeded (a : Raw) : Raw := a ++ ": numeric argument required".toList

def tooMany {α : Type} : Sh α := dropLine "too many arguments".toList

/-- A status from an argument, of which eight bits count. -/
def statusOf (args : List Raw) : Sh Nat := do
  match args with
  | [] => return (← get).saved.getD (← get).status
  | a :: rest =>
    match Numeral.decimal? a with
    | some n =>
      if rest ≠ [] then tooMany
      return (n % 256).toNat
    | none =>
      complain (numberNeeded a)
      return 2

def exit (args : List Raw) : Sh Nat := do
  let args := if args.head? = some ['-', '-'] then args.tail else args
  let n ← statusOf args
  modify fun s => { s with saved := some n }
  throw .exit

def ret (args : List Raw) : Sh Nat := do
  let args := if args.head? = some ['-', '-'] then args.tail else args
  let n ← statusOf args
  if (← get).callers = [] && (← get).sources = 0 then
    refuse 2 "can only \x60return' from a function or sourced script".toList
  setStatus n
  throw (.returned (args ≠ []))

def leaveLoops (flow : Nat → Flow) (args : List Raw) : Sh Nat := do
  let loops := (← get).loops
  if loops = 0 then
    complain "only meaningful in a \x60for', \x60while', or \x60until' loop".toList
    return 0
  let n ← match args with
    | [] => pure 1
    | a :: rest =>
      match Numeral.decimal? a with
      | some n =>
        if rest ≠ [] then tooMany
        pure n
      | none =>
        complain (numberNeeded a)
        modify fun s => { s with saved := some 128 }
        throw .exit
  if n ≤ 0 then
    complain (args.headD [] ++ ": loop count out of range".toList)
    setStatus 1
    throw (.broken loops)
  setStatus 0
  throw (flow (min n.toNat loops))

def shift (args : List Raw) : Sh Nat := do
  let n ← match args with
    | [] => pure 1
    | a :: rest =>
      match Numeral.decimal? a with
      | some n =>
        if rest ≠ [] then tooMany
        pure n
      | none => refuse 1 (numberNeeded a)
  if n < 0 then refuse 1 (args.headD [] ++ ": shift count out of range".toList)
  let s ← get
  if (s.args.length : Int) < n then return 1
  set { s with args := s.args.drop n.toNat }
  return 0

/-! ### Writing -/

def echo (args : List Raw) : Sh Nat := do
  say (Echo.rich ((← get).extras.contains "xpg_echo") args) 0

/-- How formats are read. -/
def dialect : Printf.Dialect where
  format := .richFormat
  word := .richWord
  admits d := Printf.isNumeric d.conversion || "scbqQ".contains d.conversion
  sizes := "hjlLtz".toList
  needsQuoted := false
  precision := 64
  refusal := 1
  unknown d := ['\x60'] ++ d.drop (d.length - 1) ++ "': invalid format character".toList
  unended d := ['\x60'] ++ d ++ "': missing format character".toList
  doubt d a :=
    let isOctal := a.head? = some '0' && a.all Char.isDigit
    match d with
    | .range => "warning: ".toList ++ a ++ ": Numerical result out of range".toList
    | _ => a ++ (if "0x".toList.isPrefixOf a || "0X".toList.isPrefixOf a then ": invalid hex number"
        else if isOctal then ": invalid octal number"
        else ": invalid number").toList
  excess := none
  quote := Spelling.bare
  forgives := true

/-- Writes a text, or gives it to a variable. Complaints come before the line that is being written.
-/
def printf (args : List Raw) : Sh Nat := do
  let (os, rest) ← pickOptions false "" "v" args
  match rest with
  | [] => misused []
  | format :: args =>
    let target := valueFor os 'v'
    match target with
    | some x => if !isName (giftOf x).name then
        refuse 2 ("\x60".toList ++ x ++ "': not a valid identifier".toList)
    | none => pure ()
    let r := Printf.run dialect format args
    let mut held : Raw := []
    for (n, text) in r.writes do
      if n = 1 then held := held ++ text
      else
        if target.isNone then
          let rest := (held.reverse.takeWhile (· ≠ '\n')).reverse
          let _ ← put 1 (held.take (held.length - rest.length))
          held := rest
        complain text.dropLast
    match target with
    | some x =>
      giveNamed x held
      return r.code
    | none => say held r.code

/-! ### Directories -/

def goneWrong (path : Raw) (e : Errno) : Raw := path ++ ": ".toList ++ e.text.toList

/-- Goes to a directory, or tells why it could not. -/
def goInto (physical : Bool) (path : Raw) : Sh Unit := do
  let place := (← get).place
  let target := if physical || place = [] then path else joinPath place path
  match ← ask (.enter target) with
  | .error e => refuse 1 (goneWrong path e)
  | .ok () => enter (← if physical || place = [] then physicalPlace else pure target)

def cd (args : List Raw) : Sh Nat := do
  let (os, names) ← pickOptions false "LPe@" "" args
  if 1 < names.length then refuse 1 "too many arguments".toList
  let s ← get
  let back := names = [['-']]
  let given (x : String) : Sh Raw := do
    match valueOf? x.toList s with
    | some v => return v
    | none => refuse 1 (x.toList ++ " not set".toList)
  let target ← match names with
    | [] => given "HOME"
    | name :: _ => if back then given "OLDPWD" else pure name
  if target = [] then return 0
  let found ← match isSearched target, valueOf? "CDPATH".toList s with
    | true, some path => do
      pure (searchDirectory (← act Act.look) target (path.splitOn ':'))
    | _, _ => pure none
  let (path, shows) := found.getD (target, false)
  goInto ((os.getLast?.map Picked.letter) = some 'P') path
  if back || shows then say ((← get).place ++ ['\n']) 0 else return 0

def pwd (args : List Raw) : Sh Nat := do
  let (os, _) ← pickOptions false "LP" "" args
  let place := (← get).place
  let physical : Bool := (os.getLast?.map Picked.letter) = some 'P' || place = []
  say ((← if physical then physicalPlace else pure place) ++ ['\n']) 0

/-- A directory as it is told: a tilde stands for the home. -/
def shortPlace (s : State) (p : Raw) : Raw :=
  match valueOf? "HOME".toList s with
  | some home =>
    if p = home then ['~']
    else if (home ++ ['/']).isPrefixOf p then '~' :: p.drop home.length
    else p
  | none => p

/-- Tells the directories to go back to. -/
def dirs (args : List Raw) : Sh Nat := do
  let (os, _) ← pickOptions false "clpv" "" args
  if chosen os 'c' then
    modify fun s => { s with stack := [] }
    return 0
  let s ← get
  let shown := (s.place :: s.stack).map fun p => if chosen os 'l' then p else shortPlace s p
  if chosen os 'v' then
    say (shown.zipIdx.flatMap fun p =>
      let n := Numeral.natText 10 p.2
      List.replicate (2 - n.length) ' ' ++ n ++ "  ".toList ++ p.1 ++ ['\n']) 0
  else if chosen os 'p' then say (shown.flatMap (· ++ ['\n'])) 0
  else say ([' '].intercalate shown ++ ['\n']) 0

def pushd (args : List Raw) : Sh Nat := do
  let s ← get
  match args.filter (· ≠ ['-', 'n']) with
  | [] =>
    match s.stack with
    | [] => refuse 1 "no other directory".toList
    | top :: rest =>
      goInto false top
      modify fun t => { t with stack := s.place :: rest }
  | a :: _ =>
    let turn := match a with
      | '+' :: ds => Numeral.natural? ds
      | _ => none
    match turn with
    | some n =>
      let all := s.place :: s.stack
      if all.length ≤ n then refuse 1 (a ++ ": directory stack index out of range".toList)
      match all.drop n ++ all.take n with
      | top :: rest =>
        goInto false top
        modify fun t => { t with stack := rest }
      | [] => pure ()
    | none =>
      goInto false a
      modify fun t => { t with stack := s.place :: s.stack }
  dirs []

def popd (args : List Raw) : Sh Nat := do
  let s ← get
  match s.stack with
  | [] => refuse 1 "directory stack empty".toList
  | top :: rest =>
    if args = [['-', 'n']] then modify fun t => { t with stack := rest }
    else
      goInto false top
      modify fun t => { t with stack := rest }
    dirs []

def umask (args : List Raw) : Sh Nat := do
  let (os, names) ← pickOptions false "pS" "" args
  let mask ← act (Act.mask none)
  match names with
  | [] =>
    let text := if chosen os 'S' then rightsText (0o777 ^^^ mask)
      else Numeral.padZeros 4 (Numeral.natText 8 mask)
    let front := if !chosen os 'p' then []
      else if chosen os 'S' then "umask -S ".toList else "umask ".toList
    say (front ++ text ++ ['\n']) 0
  | a :: _ =>
    let next ← if a.head?.any Char.isDigit then do
        if !a.all (Numeral.isDigit 8) then refuse 1 (a ++ ": octal number out of range".toList)
        pure (Numeral.ofDigits 8 a % 512)
      else
        match (a.splitOn ',').foldlM applyClause (0o777 ^^^ mask) with
        | some rights => pure (0o777 ^^^ rights)
        | none =>
          refuse 1 ("\x60".toList ++ a.take 1 ++ "': invalid symbolic mode operator".toList)
    let _ ← act (Act.mask (some next))
    return 0

/-! ### Names -/

/-- The kinds of things that a name may be. -/
inductive Meaning where
  | keyword
  | otherName (text : Raw)
  | function
  | builtin
  | file (path : Raw) (kept : Bool)

def Meaning.word : Meaning → String
  | .keyword => "keyword"
  | .otherName _ => "alias"
  | .function => "function"
  | .builtin => "builtin"
  | .file _ _ => "file"

def keywords : List String :=
  Lexer.reserved ++ Lexer.richReserved ++ ["]]", "select", "coproc"]

/-- All that a name means, what is found first in front. -/
def meanings (path : Raw) (name : Raw) : Sh (List Meaning) := do
  let s ← get
  let scene ← act Act.look
  let files := if name.contains '/' then [name]
    else (directories path).map fun d => if d = [] then name else Raw.ofOctets d ++ '/' :: name
  let found := files.filter fun p => (scene.file? p).any FileState.runs && !scene.isDirectory p
  let kept := s.hashed.contains name
  return (if keywords.contains (String.ofList name) then [.keyword] else []) ++
    (match s.aliases.lookup name with
      | some v => if s.extras.contains "expand_aliases" then [Meaning.otherName v] else []
      | none => []) ++
    (if (s.functions.lookup name).isSome then [.function] else []) ++
    (if isBuiltin true name then [.builtin] else []) ++
    found.zipIdx.map fun p => .file p.1 (kept && p.2 = 0)

/-- A meaning in words. -/
def told (name : Raw) : Meaning → Raw
  | .keyword => name ++ " is a shell keyword".toList
  | .otherName v => name ++ " is aliased to \x60".toList ++ v ++ ['\'']
  | .function => name ++ " is a function".toList
  | .builtin => name ++ " is a shell builtin".toList
  | .file p kept =>
    if kept then name ++ " is hashed (".toList ++ p ++ [')'] else name ++ " is ".toList ++ p

def isFile : Meaning → Bool
  | .file _ _ => true
  | _ => false

def type (args : List Raw) : Sh Nat := do
  let (os, names) ← pickOptions false "afptP" "" args
  let mut code := 0
  for name in names do
    let all ← meanings (pathText (← get)) name
    let all := if chosen os 'P' then all.filter isFile else all
    let all := if chosen os 'f' then all.filter (fun m => !m matches .function) else all
    let shown := if chosen os 'a' then all else all.take 1
    if shown = [] then
      code := 1
      if !(chosen os 't' || chosen os 'p' || chosen os 'P') then
        complain (name ++ ": not found".toList)
    for m in shown do
      let text := if chosen os 't' then m.word.toList
        else if chosen os 'p' || chosen os 'P' then
          match m with
          | .file p _ => p
          | _ => []
        else told name m
      if text ≠ [] then
        let _ ← put 1 (text ++ ['\n'])
  return code

/-- Tells what names mean, if asked so. -/
def describeCommand (args : List Raw) : Sh Nat := do
  let (os, names) ← pickOptions false "pvV" "" args
  if !(chosen os 'v' || chosen os 'V') then return 0
  let path := pathText (← get)
  let path := if chosen os 'p' then usualPath else path
  let mut found := false
  for name in names do
    match (← meanings path name).head? with
    | none => if chosen os 'V' then complain (name ++ ": not found".toList)
    | some m =>
      found := true
      let text := if chosen os 'V' then told name m
        else match m with
          | .otherName v => "alias ".toList ++ name ++ '=' :: Spelling.single v
          | .file p _ => p
          | _ => name
      let _ ← put 1 (text ++ ['\n'])
  return if found then 0 else 1

def hash (args : List Raw) : Sh Nat := do
  let (os, names) ← pickOptions false "lrtd" "p" args
  let s ← get
  if chosen os 'r' then
    set { s with hashed := [] }
    return 0
  let scene ← act Act.look
  let pathOf := fun (name : Raw) => pathOf? scene (directories (pathText s)) name
  if names = [] then
    if s.hashed = [] then say "hash: hash table empty\n".toList 0
    else
      let rows := s.hashed.filterMap fun name =>
        (pathOf name).map fun p => "   1\t".toList ++ p ++ ['\n']
      say ("hits\tcommand\n".toList ++ rows.flatten) 0
  else
    let mut code := 0
    for name in names do
      if !isBuiltin true name && (s.functions.lookup name).isNone then
        match pathOf name with
        | some p =>
          remember name
          if chosen os 't' then
            let _ ← put 1 (p ++ ['\n'])
        | none =>
          complain (name ++ ": not found".toList)
          code := 1
    return code

def doAlias (args : List Raw) : Sh Nat := do
  let all := (← get).aliases.mergeSort fun a b => !(b.1 < a.1)
  let (_, names) ← pickOptions false "p" "" args
  let row := fun (a : Raw × Raw) => "alias ".toList ++ a.1 ++ '=' :: Spelling.single a.2 ++ ['\n']
  if names = [] then
    say (all.flatMap row) 0
  else
    let mut code := 0
    for a in names do
      let s ← get
      let name := a.takeWhile (· ≠ '=')
      match a.drop name.length, s.aliases.lookup name with
      | _ :: v, _ => set { s with aliases := (name, v) :: s.aliases.filter (·.1 ≠ name) }
      | [], some v => code := max code (← say (row (name, v)) 0)
      | [], none =>
        complain (name ++ ": not found".toList)
        code := 1
    return code

def unalias (args : List Raw) : Sh Nat := do
  let (os, names) ← pickOptions false "a" "" args
  if chosen os 'a' then
    modify fun s => { s with aliases := [] }
    return 0
  let mut code := 0
  for name in names do
    if ((← get).aliases.lookup name).isNone then
      complain (name ++ ": not found".toList)
      code := 1
    modify fun s => { s with aliases := s.aliases.filter (·.1 ≠ name) }
  return code

/-! ### Signals -/

/-- The actions that are no signals: before a command, behind one that fails, behind a function. -/
def debugTrap : Nat := Signal.bound

def errorTrap : Nat := Signal.bound + 1

def returnTrap : Nat := Signal.bound + 2

def trapName (n : Nat) : Raw :=
  if n = 0 then "EXIT".toList
  else if n = debugTrap then "DEBUG".toList
  else if n = errorTrap then "ERR".toList
  else if n = returnTrap then "RETURN".toList
  else "SIG".toList ++ Signal.toText n

/-- A signal by its number or its name, which may begin with three letters. -/
def signalOf? (a : Raw) : Option Nat :=
  let name := a.map Char.toUpper
  let name := if "SIG".toList.isPrefixOf name then name.drop 3 else name
  match Numeral.natural? a with
  | some n => if n < Signal.bound then some n else none
  | none => if name = "STKFLT".toList then some 16 else Signal.ofText? name

def trapOf? (a : Raw) : Option Nat :=
  match String.ofList (a.map Char.toUpper) with
  | "DEBUG" => some debugTrap
  | "ERR" => some errorTrap
  | "RETURN" => some returnTrap
  | _ => signalOf? a

/-- The table of all signals. -/
def signalTable : Raw :=
  let known := (List.range Signal.bound).filter fun n => n ≠ 0 && n ≠ 32 && n ≠ 33
  let cell := fun (n : Nat) =>
    let d := Numeral.natText 10 n
    let name := if n = 16 then "STKFLT".toList else Signal.toText n
    List.replicate (2 - d.length) ' ' ++ d ++ ") SIG".toList ++ name
  (known.zipIdx.flatMap fun p =>
    cell p.1 ++ [if p.2 % 5 = 4 || p.1 = Signal.highest then '\n' else '\t'])

def setTraps (action : Option Raw) (signals : List Raw) : Sh Nat := do
  let mut code := 0
  for a in signals do
    match trapOf? a with
    | none =>
      complain (a ++ ": invalid signal specification".toList)
      code := 1
    | some n =>
      modify fun s => { s with
        traps := s.traps.filter (·.1 ≠ n) ++ (action.map (n, ·)).toList }
      if n < Signal.bound then arm n
  return code

def trap (args : List Raw) : Sh Nat := do
  let (os, words) ← if args.head? = some ['-'] then pure ([], args) else
    pickOptions false "lp" "" args
  let line := fun (t : Nat × Raw) =>
    "trap -- ".toList ++ Spelling.single t.2 ++ [' '] ++ trapName t.1 ++ ['\n']
  let all := (← get).traps.mergeSort (·.1 ≤ ·.1)
  if chosen os 'l' then say signalTable 0
  else if words = [] then say (all.flatMap line) 0
  else if chosen os 'p' then
    let wanted := words.filterMap trapOf?
    say ((all.filter fun t => wanted.contains t.1).flatMap line) 0
  else
    match words with
    | [a] => if (trapOf? a).isSome then setTraps none [a] else misused []
    | action :: signals =>
      if (Numeral.natural? action).isSome && (trapOf? action).isSome then setTraps none words
      else setTraps (if action = ['-'] then none else some action) signals
    | [] => return 0

/-- Lists signals, or tells the name of a number and the number of a name. -/
def listSignals (names : List Raw) : Sh Nat := do
  if names = [] then return (← say signalTable 0)
  let mut code := 0
  for a in names do
    match Numeral.natural? a with
    | some n =>
      let n := if 128 < n then n - 128 else n
      if 0 < n && n < Signal.bound then
        let _ ← put 1 ((trapName n).drop 3 ++ ['\n'])
      else
        complain (a ++ ": invalid signal specification".toList)
        code := 1
    | none =>
      match signalOf? a with
      | some n =>
        let _ ← put 1 (Numeral.natText 10 n ++ ['\n'])
      | none =>
        complain (a ++ ": invalid signal specification".toList)
        code := 1
  return code

/-- The batch that goes on and is meant by what stands behind a percent sign: a number, a sign for
one of the last two, or the start or a part of its command. -/
def liveBatch? (s : State) (name : Raw) : Option Batch :=
  let live := s.batches.filter (!·.isDone)
  let only := fun (p : Batch → Bool) => match live.filter p with
    | [b] => some b
    | _ => none
  match name with
  | [] | ['%'] | ['+'] => live.head?
  | ['-'] => live[1]? <|> live.head?
  | '?' :: part => only fun b =>
      (List.range (b.text.length + 1)).any fun n => part.isPrefixOf (b.text.drop n)
  | name =>
    match Numeral.natural? name with
    | some n => live.find? (·.slot = n)
    | none => only fun b => name.isPrefixOf b.text

/-- Sends a signal to each target: a process, a group below zero, or a batch. It is enough if one
gets it. -/
def send (n : Nat) (targets : List Raw) : Sh Nat := do
  let mut sent := false
  for a in targets do
    let s ← get
    match a, Numeral.decimal? a with
    | '%' :: name, _ =>
      match liveBatch? s name with
      | some b =>
        for m in b.members do
          let _ ← ask (.kill m.pid n)
        sent := true
      | none => complain (a ++ ": no such job".toList)
    | _, some t =>
      match ← ask (.kill t n) with
      | .ok () => sent := true
      | .error e =>
        complain (['('] ++ a ++ ") - ".toList ++ e.text.toList)
    | _, none => complain (a ++ ": arguments must be process or job IDs".toList)
  return if sent then 0 else 1

def kill (args : List Raw) : Sh Nat := do
  let badSignal (a : Raw) : Sh Nat := refuse 1 (a ++ ": invalid signal specification".toList)
  let go (signal : Raw) (targets : List Raw) : Sh Nat := do
    match signalOf? signal with
    | none => badSignal signal
    | some n => if targets = [] then misused [] else send n targets
  match args with
  | [] => misused []
  | ['-', '-'] :: targets => if targets = [] then misused [] else send Signal.terminate targets
  | ['-', c] :: rest =>
    if c = 'l' || c = 'L' then listSignals rest
    else if c = 's' || c = 'n' then
      match rest with
      | a :: targets => go a targets
      | [] => misused (['-', c] ++ ": option requires an argument".toList)
    else go [c] rest
  | ('-' :: signal) :: rest => go signal (if rest.head? = some ['-', '-'] then rest.tail else rest)
  | targets => send Signal.terminate targets

/-! ### Waiting -/

def waitEach (code : Nat) : List Raw → Sh Nat
  | [] => return code
  | a :: rest => do
    let s ← get
    let unknown (code : Nat) (text : Raw) : Sh Nat := do
      complain text
      waitEach code rest
    match a, Numeral.natural? a with
    | '%' :: name, _ =>
      match liveBatch? s name with
      | some b => found b rest
      | none => unknown 127 (a ++ ": no such job".toList)
    | _, some pid =>
      match s.batches.find? fun b => b.members.any (·.pid = pid) with
      | some b => found b rest
      | none =>
        unknown 127 ("pid ".toList ++ a ++ " is not a child of this shell".toList)
    | _, none => unknown 1 ("\x60".toList ++ a ++ "': not a pid or valid job spec".toList)
where
  found (b : Batch) (rest : List Raw) : Sh Nat := do
    if ← await .signal (some b.slot) then
      updateBatch b.slot fun b => { b with waited := true }
      waitEach (((batch? b.slot (← get)).map Batch.status).getD 0) rest
    else cutShort

/-- Waits for the first batch of those that go on, and takes its status. -/
def waitFirst : Nat → Sh Nat
  | 0 => return 127
  | n + 1 => do
    let s ← get
    match s.batches.find? fun b => b.isDone && !b.waited with
    | some b =>
      dropBatch b.slot
      return b.status
    | none =>
      if s.batches.all Batch.isDone then return 127
      if ← await .child none then waitFirst n else cutShort

def wait (args : List Raw) : Sh Nat := do
  let (os, names) ← pickOptions false "fn" "p" args
  if chosen os 'n' then waitFirst Act.patience
  else if names = [] then
    if ← waitAll Act.patience then return 0 else cutShort
  else waitEach 127 names

/-! ### Batches -/

/-- How a batch that goes on is told. -/
def batchText (live : List Batch) (long : Bool) (b : Batch) : Raw :=
  let sign := if live.head? = some b then '+' else if live[1]? = some b then '-' else ' '
  let pid := Numeral.natText 10 ((b.members.head?.map Member.pid).getD 0)
  let state := "Running".toList
  '[' :: Numeral.natText 10 b.slot ++ [']', sign, ' '] ++
    (if long then List.replicate (5 - pid.length) ' ' ++ pid else []) ++ [' '] ++ state ++
    List.replicate (24 - state.length) ' ' ++ b.text ++ " &\n".toList

/-- Tells the batches that go on. -/
def jobs (args : List Raw) : Sh Nat := do
  let (os, names) ← pickOptions false "lprsnx" "" args
  let _ ← await .never none
  let s ← get
  let live := s.batches.filter (!·.isDone)
  let row := fun (b : Batch) =>
    if chosen os 'p' then Numeral.natText 10 ((b.members.head?.map Member.pid).getD 0) ++ ['\n']
    else batchText live (chosen os 'l') b
  if names = [] then
    if chosen os 's' || chosen os 'n' then return 0
    else say ((live.mergeSort fun a b => a.slot ≤ b.slot).flatMap row) 0
  else
    let mut code := 0
    for a in names do
      match liveBatch? s (if a.head? = some '%' then a.tail else a) with
      | some b =>
        let _ ← put 1 (row b)
      | none =>
        complain (a ++ ": no such job".toList)
        code := 1
    return code

/-! ### Options of a script -/

def getopts (args : List Raw) : Sh Nat := do
  match args with
  | letters :: name :: given =>
    let s ← get
    let words := if given = [] then s.args else given
    let index := if words.length + 1 < s.index then 1 else s.index
    let done := index - 1
    let last := (words[done - 1]?).getD []
    let part := match if index ≤ 1 then none else s.offset with
      | some n => last.drop n
      | none => []
    let silent := letters.head? = some ':' || valueOf? "OPTERR".toList s = some ['0']
    let (r, more, left) := seek letters part (words.drop done)
    let warn (text : String) (c : Char) : Sh Unit := do
      if !silent then
        let _ ← put 2 (s.name ++ ": ".toList ++ text.toList ++ " -- ".toList ++ [c, '\n'])
    let asks := letters.head? = some ':'
    let value (v : Option Raw) : Sh Unit := do
      match v with
      | some v => assign "OPTARG".toList v
      | none => modify (replace "OPTARG".toList none)
    let letter ← match r with
      | .nothing => do
        value none
        pure '?'
      | .unknown c => do
        warn "illegal option" c
        value (if asks then some [c] else none)
        pure '?'
      | .found c v => do
        value (if v = [] then none else some v)
        pure c
      | .bare c => do
        warn "option requires an argument" c
        value (if asks then some [c] else none)
        pure (if asks then ':' else '?')
    let next := index + more
    let offset := if left = [] then none
      else some (((words[next - 2]?).getD []).length - left.length)
    assign "OPTIND".toList (Numeral.natText 10 next)
    if !isName name then notName name
    assign name [letter]
    modify fun s => { s with index := next, offset := offset }
    return if r matches .nothing then 1 else 0
  | _ => misused []

/-! ### All of them -/

/-- Tells from where the function that runs was called. -/
def caller (args : List Raw) : Sh Nat := do
  match (← get).callers with
  | [] => return 1
  | calls =>
    let n := (Numeral.natural? (args.headD [])).getD 0
    match calls[n]?, calls[n + 1]? with
    | some c, outer =>
      let line := Numeral.natText 10 c.2
      if args = [] then say (line ++ " NULL\n".toList) 0
      else
        let name := (outer.map Prod.fst).getD "main".toList
        say (line ++ ' ' :: name ++ " NULL\n".toList) (if outer.isSome then 0 else 1)
    | none, _ => return 1

/-- The builtins that run no other commands. -/
def builtin (k : Hooks Item) (tables : List (Raw × Word)) (name : Raw) (args : List Raw) :
    Sh Nat := do
  match String.ofList name with
  | "false" => return 1
  | "exit" => exit args
  | "logout" => refuse 1 "not login shell: use \x60exit'".toList
  | "return" => ret args
  | "break" => leaveLoops .broken args
  | "continue" => leaveLoops .continued args
  | "shift" => shift args
  | "declare" | "typeset" => declareAll k false tables args
  | "local" => declareAll k true tables args
  | "export" => markAll k 'x' tables args
  | "readonly" => markAll k 'r' tables args
  | "unset" => unsetRich args
  | "let" => letAll args
  | "set" => setRich args
  | "shopt" => shopt args
  | "getopts" => getopts args
  | "trap" => trap args
  | "kill" => kill args
  | "wait" => wait args
  | "jobs" => jobs args
  | "fg" | "bg" => refuse 1 "no job control".toList
  | "suspend" => refuse 1 "cannot suspend: no job control".toList
  | "disown" =>
    modify fun s => { s with batches := [] }
    return 0
  | "cd" => cd args
  | "pwd" => pwd args
  | "dirs" => dirs args
  | "pushd" => pushd args
  | "popd" => popd args
  | "umask" => umask args
  | "type" => type args
  | "command" => describeCommand args
  | "hash" => hash args
  | "alias" => doAlias args
  | "unalias" => unalias args
  | "read" => readRich args
  | "mapfile" | "readarray" => mapLines args
  | "echo" => echo args
  | "printf" => printf args
  | "test" => richTest false args
  | "[" => richTest true args
  | "times" => say "0m0.000s 0m0.000s\n0m0.000s 0m0.000s\n".toList 0
  | "caller" => caller args
  | "builtin" =>
    match args with
    | [] => return 0
    | a :: _ => refuse 1 (a ++ ": not a shell builtin".toList)
  | _ => return 0

end ServiceStack.Shell.Rich
