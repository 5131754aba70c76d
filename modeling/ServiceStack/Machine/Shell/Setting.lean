import ServiceStack.Machine.Shell.State

/-!
Builtins that set something: the options and arguments of the shell, and its variables. Each answers
with its status.
-/

namespace ServiceStack.Shell

/-! ### Arguments of builtins -/

/-- Writes a text and answers with a status, which gets a bit more if the text cannot be written. -/
def say (text : Raw) (code : Nat) : Sh Nat := do
  if ← put 1 text then return code
  else
    complain ((← get).running.getD [] ++ ": I/O error".toList)
    return code ||| 1

/-- A status or a count from an argument. -/
def count? (a : Raw) : Option Nat :=
  ((Numeral.decimal? a).filter fun n => 0 ≤ n && n < 0x80000000).map Int.toNat

def illegalNumber {α : Type} (a : Raw) : Sh α := giveUp ("Illegal number: ".toList ++ a)

def count (a : Raw) : Sh Nat := do
  match count? a with
  | some n => return n
  | none => illegalNumber a

/-- The letters of one word, and a letter whose value is still to come. -/
def letters (plain valued : String) : Raw → Sh (List (Char × Raw) × Option Char)
  | [] => return ([], none)
  | c :: cs => do
    if plain.contains c then
      let r ← letters plain valued cs
      return ((c, []) :: r.1, r.2)
    else if valued.contains c then
      return if cs = [] then ([], some c) else ([(c, cs)], none)
    else giveUp ("Illegal option -".toList ++ [c])

/-- The options at the start of some words, and the words behind them. -/
def takeOptions (plain valued : String) : List Raw → Sh (List (Char × Raw) × List Raw)
  | [] => return ([], [])
  | a :: rest => do
    match a with
    | ['-', '-'] => return ([], rest)
    | '-' :: c :: cs =>
      match ← letters plain valued (c :: cs), rest with
      | (os, none), rest =>
        let r ← takeOptions plain valued rest
        return (os ++ r.1, r.2)
      | (os, some d), v :: rest =>
        let r ← takeOptions plain valued rest
        return (os ++ (d, v) :: r.1, r.2)
      | (_, some d), [] => giveUp ("No arg for -".toList ++ [d] ++ " option".toList)
    | _ => return ([], a :: rest)

/-- Words without options. -/
def operands (args : List Raw) : Sh (List Raw) := return (← takeOptions "" "" args).2

/-! ### Variables -/

/-- An assignment as an argument. -/
def binding (a : Raw) : Raw × Option Raw :=
  match a.dropWhile (· ≠ '=') with
  | '=' :: v => (a.takeWhile (· ≠ '='), some v)
  | _ => (a, none)

def guardName (x : Raw) : Sh Unit := do
  if !isName x then giveUp (x ++ ": bad variable name".toList)

/-- Gives a value to a variable whose name may be wrong. -/
def assignNamed (x value : Raw) : Sh Unit := do
  guardName x
  assign x value

def forgetNamed (x : Raw) : Sh Unit := do
  guardName x
  forget x

/-- Variables by their names, each behind some words, so that they can be read back. -/
def listing (front : Raw) (vars : List (Raw × Variable)) : Raw :=
  (vars.mergeSort fun v w => !(w.1 < v.1)).flatMap fun (x, v) =>
    front ++ x ++ ((v.value.map fun v => '=' :: quote v).getD []) ++ ['\n']

/-- Marks variables, some of which are given values first. -/
def mark (command : String) (p : Variable → Bool) (f : Variable → Variable) (args : List Raw) :
    Sh Nat := do
  let (os, names) ← takeOptions "p" "" args
  if os ≠ [] || names = [] then
    say (listing (command.toList ++ [' ']) ((← get).vars.filter fun v => p v.2)) 0
  else
    for a in names do
      let b := binding a
      guardName b.1
      let s ← get
      match b.2, variableOf? b.1 s with
      | none, some v => set (replace b.1 (some (f v)) s)
      | none, none => change b.1 f
      | some v, _ => change b.1 fun old => f { old with value := some v }
    return 0

def markExported (args : List Raw) : Sh Nat :=
  mark "export" Variable.exported (fun v => { v with exported := true }) args

def markLocked (args : List Raw) : Sh Nat :=
  mark "readonly" Variable.locked (fun v => { v with locked := true }) args

/-- Makes variables, or the options, a function's own until it returns. -/
def makeOwn (args : List Raw) : Sh Nat := do
  if (← get).hidden = [] then giveUp "not in a function".toList
  for a in args do
    let s ← get
    if a = ['-'] then hide (.options s.options)
    else
      let b := binding a
      if b.2.isNone then guardName b.1
      hide (.variable b.1 (variableOf? b.1 s))
      match b.2 with
      | some v => assign b.1 v
      | none => pure ()
  return 0

def unsetNames (args : List Raw) : Sh Nat := do
  let (os, names) ← takeOptions "vf" "" args
  for x in names do
    if (os.getLast?.map Prod.fst) = some 'f' then
      modify fun s => { s with functions := s.functions.filter (·.1 ≠ x) }
    else forgetNamed x
  return 0

/-! ### Arguments and options of the shell -/

/-- Takes other arguments. Options are looked for in them from the start. -/
def setArgs (args : List Raw) : Sh Unit :=
  modify fun s => { s with args := args, index := 1, offset := none }

def shift (args : List Raw) : Sh Nat := do
  let n ← match args with
    | [] => pure 1
    | a :: _ => count a
  let s ← get
  if s.args.length < n then giveUp "can't shift that many".toList
  setArgs (s.args.drop n)
  return 0

/-- The options, one on each line: whether each is set, or how to set it again. -/
def optionTable (asCommands : Bool) (s : State) : Raw :=
  let isOn := fun (o : String × Char) => s.options.contains o.2
  if asCommands then
    optionNames.flatMap fun o =>
      (if isOn o then "set -o " else "set +o ").toList ++ o.1.toList ++ ['\n']
  else
    "Current option settings\n".toList ++ optionNames.flatMap fun o =>
      o.1.toList ++ List.replicate (16 - o.1.length) ' ' ++
        (if isOn o then "on" else "off").toList ++ ['\n']

/-- Sets an option, or takes it back. -/
def putOption (on : Bool) (c : Char) : Sh Unit := modify fun s =>
  let others := s.options.filter (· ≠ c)
  let others := if on && (c = 'V' || c = 'E') then others.filter fun d => d ≠ 'V' && d ≠ 'E'
    else others
  { s with options := if on then others ++ [c] else others }

/-- Sets an option by its letter. Letters beside those of the options may be allowed. -/
def setOption (beside : Raw) (on : Bool) (c : Char) : Sh Unit := do
  if !beside.contains c && (c.isDigit || !optionNames.any (·.2 = c)) then
    giveUp ("Illegal option -".toList ++ [c])
  putOption (on || beside.contains c) c

/-- Sets an option by its long name; without one all are told. -/
def setLongOption (on : Bool) (name : Option Raw) : Sh Unit := do
  match name with
  | none =>
    let _ ← put 1 (optionTable (!on) (← get))
  | some name =>
    match optionNames.lookup (String.ofList name) with
    | some c => putOption on c
    | none => giveUp ("Illegal option -o ".toList ++ name)

/-- Takes words of options up to the first other word, and returns the rest; the flag tells whether
two dashes stood before it. A lone dash takes two options back. -/
def setOptions (beside : Raw) : List Raw → Sh (Bool × List Raw)
  | [] => return (false, [])
  | a :: rest => do
    match a with
    | ['-', '-'] => return (true, rest)
    | ['-'] =>
      if beside = [] then
        putOption false 'x'
        putOption false 'v'
      return (false, rest)
    | '-' :: c :: cs => word true (c :: cs) rest
    | '+' :: cs => word false cs rest
    | _ => return (false, a :: rest)
where
  word (on : Bool) (cs : Raw) (rest : List Raw) : Sh (Bool × List Raw) := do
    for c in cs do
      if c = 'o' then setLongOption on rest.head? else setOption beside on c
    match cs.contains 'o', rest with
    | true, _ :: rest => setOptions beside rest
    | _, rest => setOptions beside rest

def setAll (args : List Raw) : Sh Nat := do
  if args = [] then
    say (listing [] ((← get).vars.filter (·.2.value.isSome))) 0
  else
    let r ← setOptions [] args
    if r.1 || r.2 ≠ [] then setArgs r.2
    return 0

/-! ### Options of a script -/

/-- What is found where the options of a script go on: nothing, a letter that is not among those
that are looked for, a letter with its value, or one whose value is missing. -/
inductive Sought where
  | nothing
  | unknown (c : Char)
  | found (c : Char) (value : Raw)
  | bare (c : Char)

/-- Looks at the words behind so many; the rest of a word that was looked at in part comes first.
Tells the number of words that are done then, and what is left of the last. -/
def seek (letters : Raw) (part : Raw) (words : List Raw) : Sought × Nat × Raw :=
  let read := fun (c : Char) (cs : Raw) (words : List Raw) (done : Nat) =>
    let known := if letters.head? = some ':' then letters.tail else letters
    match find known c with
    | none => (Sought.unknown c, done, cs)
    | some false => (.found c [], done, cs)
    | some true =>
      match cs, words with
      | _ :: _, _ => (.found c cs, done, [])
      | [], v :: _ => (.found c v, done + 1, [])
      | [], [] => (.bare c, done, [])
  match part, words with
  | c :: cs, _ => read c cs words 0
  | [], ['-', '-'] :: _ => (.nothing, 1, [])
  | [], ('-' :: c :: cs) :: rest => read c cs rest 1
  | [], _ => (.nothing, 0, [])
where
  /-- Whether a letter wants a value, if it is known. -/
  find : Raw → Char → Option Bool
    | [], _ => none
    | d :: ':' :: ds, c => if c = d then some true else find ds c
    | d :: ds, c => if c = d then some false else find ds c

def seekOption (args : List Raw) : Sh Nat := do
  match ← operands args with
  | letters :: name :: given =>
    let s ← get
    let words := if given = [] then s.args else given
    let restarts := words.length + 1 < s.index
    let index := if restarts then 1 else s.index
    let done := index - 1
    let last := (words[done - 1]?).getD []
    let part := match if restarts || index ≤ 1 then none else s.offset with
      | some n => last.drop n
      | none => []
    let silent := letters.head? = some ':'
    let (r, more, left) := seek letters part (words.drop done)
    let letter ← match r with
      | .nothing => pure '?'
      | .unknown c =>
        if silent then assign "OPTARG".toList [c]
        else
          let _ ← put 2 ("Illegal option -".toList ++ [c, '\n'])
          forget "OPTARG".toList
        pure '?'
      | .found c v =>
        assign "OPTARG".toList v
        pure c
      | .bare c =>
        if silent then
          assign "OPTARG".toList [c]
          pure ':'
        else
          let _ ← put 2 ("No arg for -".toList ++ [c] ++ " option\n".toList)
          forget "OPTARG".toList
          pure '?'
    let next := index + more
    let offset := if left = [] then none
      else some (((words[next - 2]?).getD []).length - left.length)
    assign "OPTIND".toList (Numeral.natText 10 next)
    assignNamed name [letter]
    modify fun s => { s with index := next, offset := offset }
    return if r matches .nothing then 1 else 0
  | _ => giveUp "Usage: getopts optstring var [arg...]".toList

end ServiceStack.Shell
