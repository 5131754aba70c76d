import ServiceStack.Machine.Shell.Giving
import ServiceStack.Machine.Shell.Setting

/-!
Builtins of the rich dialect that make variables what they are, and those for its options.
-/

namespace ServiceStack.Shell

/-! ### Options of builtins -/

/-- How some builtins are used. -/
def usages : List (String × String) := [
  ("cd", "cd [-L|[-P [-e]] [-@]] [dir]"), ("command", "command [-pVv] command [arg ...]"),
  ("declare", "declare [-aAfFgiIlnrtux] [name[=value] ...] or " ++
    "declare -p [-aAfFilnrtux] [name ...]"),
  ("dirs", "dirs [-clpv] [+N] [-N]"),
  ("exec", "exec [-cl] [-a name] [command [argument ...]] [redirection ...]"),
  ("export", "export [-fn] [name[=value] ...] or export -p"),
  ("getopts", "getopts optstring name [arg ...]"),
  ("hash", "hash [-lr] [-p pathname] [-dt] [name ...]"),
  ("kill", "kill [-s sigspec | -n signum | -sigspec] pid | jobspec ... or kill -l [sigspec]"),
  ("local", "local [option] name[=value] ..."),
  ("mapfile", "mapfile [-d delim] [-n count] [-O origin] [-s count] [-t] [-u fd] " ++
    "[-C callback] [-c quantum] [array]"),
  ("printf", "printf [-v var] format [arguments]"), ("pwd", "pwd [-LP]"),
  ("read", "read [-ers] [-a array] [-d delim] [-i text] [-n nchars] [-N nchars] [-p prompt] " ++
    "[-t timeout] [-u fd] [name ...]"),
  ("readonly", "readonly [-aAf] [name[=value] ...] or readonly -p"),
  ("set", "set [-abefhkmnptuvxBCEHPT] [-o option-name] [--] [-] [arg ...]"),
  ("shopt", "shopt [-pqsu] [-o] [optname ...]"),
  ("trap", "trap [-lp] [[arg] signal_spec ...]"), ("type", "type [-afptP] name [name ...]"),
  ("typeset", "typeset [-aAfFgiIlnrtux] name[=value] ... or typeset -p [-aAfFilnrtux] [name ...]"),
  ("ulimit", "ulimit [-SHabcdefiklmnpqrstuvxPRT] [limit]"), ("umask", "umask [-p] [-S] [mode]"),
  ("unalias", "unalias [-a] name [name ...]"), ("unset", "unset [-f] [-v] [-n] [name ...]"),
  ("wait", "wait [-fn] [-p var] [id ...]")]

/-- Refuses a command, and tells how it is used. -/
def misused {α : Type} (text : Raw) : Sh α := do
  let self := ((← get).running).getD []
  if text ≠ [] then complain text
  match usages.lookup (String.ofList self) with
  | some u =>
    let _ ← put 2 (self ++ ": usage: ".toList ++ u.toList ++ ['\n'])
  | none => pure ()
  setStatus 2
  throw .fault

/-- Refuses a command with some status. -/
def refuse {α : Type} (code : Nat) (text : Raw) : Sh α := do
  complain text
  setStatus code
  throw .fault

/-- An option: whether a dash stood before it, its letter, its value. -/
structure Picked where
  sets : Bool := true
  letter : Char
  value : Raw := []
deriving DecidableEq, Repr

/-- The letters of one word, and a letter whose value is still to come. -/
def pickLetters (sets : Bool) (plain valued : String) : Raw → Sh (List Picked × Option Char)
  | [] => return ([], none)
  | c :: cs => do
    if plain.contains c then
      let r ← pickLetters sets plain valued cs
      return ({ sets, letter := c } :: r.1, r.2)
    else if valued.contains c then
      return if cs = [] then ([], some c) else ([{ sets, letter := c, value := cs }], none)
    else misused ([if sets then '-' else '+', c] ++ ": invalid option".toList)

/-- The options at the start of some words, and the words behind them. -/
def pickOptions (plus : Bool) (plain valued : String) : List Raw → Sh (List Picked × List Raw)
  | [] => return ([], [])
  | a :: rest => do
    match a with
    | ['-', '-'] => return ([], rest)
    | sign :: c :: cs =>
      if sign = '-' || plus && sign = '+' then
        match ← pickLetters (sign = '-') plain valued (c :: cs), rest with
        | (os, none), rest =>
          let r ← pickOptions plus plain valued rest
          return (os ++ r.1, r.2)
        | (os, some d), v :: rest =>
          let r ← pickOptions plus plain valued rest
          return (os ++ { letter := d, value := v } :: r.1, r.2)
        | (_, some d), [] => misused (['-', d] ++ ": option requires an argument".toList)
      else return ([], a :: rest)
    | _ => return ([], a :: rest)

def chosen (os : List Picked) (c : Char) : Bool := os.any (·.letter = c)

/-! ### Variables -/

/-- A value for a place, as an argument gives it. -/
structure Gift where
  name : Raw
  index : Option Raw := none
  /-- whether it comes behind the old one -/
  adds : Bool := false
  value : Option Raw := none

def giftOf (a : Raw) : Gift :=
  let name := a.takeWhile isNameChar
  let give := fun (index : Option Raw) (rest : Raw) => match rest with
    | '=' :: v => some ({ name, index, value := some v } : Gift)
    | '+' :: '=' :: v => some { name, index, adds := true, value := some v }
    | [] => some { name, index }
    | _ => none
  let found := match a.drop name.length with
    | '[' :: cs =>
      let r := Sum.index 0 cs
      give (some r.1) r.2
    | rest => give none rest
  found.getD { name := a }

def notName {α : Type} (a : Raw) : Sh α :=
  refuse 1 ("\x60".toList ++ a ++ "': not a valid identifier".toList)

/-- Gives the value that an argument names. -/
def takeGift (g : Gift) : Sh Unit := do
  match g.value with
  | none => return
  | some v =>
    let cell ← match g.index with
      | none => pure (some { name := g.name })
      | some i => do pure ((← keyFor g.name i).map fun key => ⟨g.name, some key⟩)
    match cell with
    | none => return
    | some c => if g.adds then addTo c v else giveCell c v

/-- A variable with other traits. -/
def withTraits (os : List Picked) (v : Variable) : Variable :=
  os.foldl (fun v o =>
    let traits := v.traits.filter (· ≠ o.letter)
    match o.letter with
    | 'x' => { v with exported := o.sets }
    | 'r' => if o.sets then { v with locked := true } else v
    | 'a' => v.asTable false
    | 'A' => v.asTable true
    | 'l' => { v with traits := if o.sets then 'l' :: traits.filter (· ≠ 'u') else traits }
    | 'u' => { v with traits := if o.sets then 'u' :: traits.filter (· ≠ 'l') else traits }
    | 'i' | 'n' => { v with traits := if o.sets then o.letter :: traits else traits }
    | _ => v) v

/-- Makes a variable the own one of the function that runs. -/
def makeLocal (x : Raw) : Sh Unit := do
  let s ← get
  let isOwn := (s.hidden.headD []).any fun
    | .variable y _ => x = y
    | .options _ => false
  if !isOwn then
    hide (.variable x (variableOf? x s))
    modify (replace x none)

variable (k : Hooks Item)

/-- Follows one argument of a declaration. Tables of values are told apart by their names. -/
def declareOne (os : List Picked) (own : Bool) (tables : List (Raw × Word)) (a : Raw) :
    Sh Unit := do
  let g := giftOf a
  if !isName g.name then notName a
  let s ← get
  let x := if own || chosen os 'n' then g.name else trueName s nameLevels g.name
  let old := variableOf? x s
  let locked := old.any Variable.locked
  if locked && (own || g.value.isSome || (tables.lookup x).isSome || os.any fun o => !o.sets) then
    let prefixed := s.running.any fun r => r ≠ "export".toList && r ≠ "readonly".toList
    if !prefixed then modify fun s => { s with running := none }
    refuse 1 (x ++ ": readonly variable".toList)
  if own then makeLocal x
  let first := os.filter fun o => o.letter ≠ 'r'
  modify fun s => replace x (some (withTraits first ((variableOf? x s).getD {}))) s
  match tables.lookup x with
  | some w =>
    let _ ← giveRich k x w
  | none =>
    if chosen os 'n' then
      modify fun s => replace x (some { (variableOf? x s).getD {} with value := g.value }) s
    else takeGift { g with name := x }
  modify fun s => replace x (some (withTraits os ((variableOf? x s).getD {}))) s

/-- Follows several arguments, each for itself. -/
def declareEach (os : List Picked) (own : Bool) (tables : List (Raw × Word)) :
    List Raw → Sh Nat
  | [] => return 0
  | a :: rest => do
    let code ← match ← outcome (declareOne k os own tables a) with
      | .ok () => pure 0
      | .error .fault => pure (← get).status
      | .error f => throw f
    return max code (← declareEach os own tables rest)

/-- The declarations of variables, in the order of their names. -/
def declarations (p : Variable → Bool) (s : State) : Raw :=
  ((s.vars.filter fun v => p v.2).mergeSort fun v w => !(w.1 < v.1)).flatMap fun v =>
    declaration v.1 v.2 ++ ['\n']

def tellDeclarations (names : List Raw) : Sh Nat := do
  let mut code := 0
  for x in names do
    let s ← get
    let table := (computedTable? x s).map fun t => ({ table := some t } : Variable)
    match table <|> variableOf? x s with
    | some v => code := max code (← say (declaration x v ++ ['\n']) 0)
    | none =>
      complain (x ++ ": not found".toList)
      code := 1
  return code

/-- A variable as all are listed. -/
def plainRow (v : Raw × Variable) : Raw :=
  match v.2.table, v.2.value with
  | some t, _ => v.1 ++ '=' :: tableText t ++ ['\n']
  | none, some w => v.1 ++ '=' :: Spelling.shortest w ++ ['\n']
  | none, none => []

def allVariables (s : State) : Raw :=
  (s.vars.mergeSort fun v w => !(w.1 < v.1)).flatMap plainRow

/-- Tells of functions by their names. -/
def tellFunctions (names : List Raw) : Sh Nat := do
  let known := (← get).functions.map Prod.fst
  if names = [] then
    let sorted := known.mergeSort fun f g => !(g < f)
    say (sorted.flatMap fun f => "declare -f ".toList ++ f ++ ['\n']) 0
  else
    let found := names.filter known.contains
    say (found.flatMap (· ++ ['\n'])) (if found.length = names.length then 0 else 1)

def declareAll (isLocal : Bool) (tables : List (Raw × Word)) (args : List Raw) : Sh Nat := do
  let s ← get
  if isLocal && s.callers = [] then refuse 1 "can only be used in a function".toList
  match isLocal, args with
  | true, [['-']] =>
    hide (.options s.options)
    return 0
  | _, _ =>
    let (os, names) ← pickOptions true "aAfFgiIlnprtux" "" args
    if chosen os 'f' || chosen os 'F' then tellFunctions names
    else if chosen os 'p' then
      let wanted := fun (v : Variable) => os.all fun o => match o.letter with
        | 'x' => v.exported
        | 'r' => v.locked
        | 'a' => v.table.any (!·.keyed)
        | 'A' => v.table.any (·.keyed)
        | 'i' => v.traits.contains 'i'
        | 'n' => v.traits.contains 'n'
        | _ => true
      if names = [] then say (declarations wanted s) 0 else tellDeclarations names
    else if names = [] then
      if os = [] then say (allVariables s) 0
      else say (declarations (fun v => v = withTraits os v) s) 0
    else declareEach k os (s.callers ≠ [] && !chosen os 'g') tables names

/-- `export` and `readonly`, which set one trait. -/
def markAll (letter : Char) (tables : List (Raw × Word)) (args : List Raw) : Sh Nat := do
  let (os, names) ← pickOptions false "fnpaA" "" args
  let s ← get
  let has := fun (v : Variable) => if letter = 'x' then v.exported else v.locked
  if names = [] || chosen os 'p' then say (declarations has s) 0
  else if chosen os 'f' then return 0
  else
    let sets := letter ≠ 'x' || !chosen os 'n'
    let tables' := os.filter fun o => o.letter = 'a' || o.letter = 'A'
    declareEach k (tables' ++ [{ sets, letter }]) false tables names

/-! ### Taking values -/

def forgetRich (x : Raw) : Sh Unit := do
  let s ← get
  match variableOf? x s with
  | none => return
  | some v =>
    if v.locked then refuse 1 (x ++ ": cannot unset: readonly variable".toList)
    set (heed x none (replace x none s))

/-- Takes one row of a table, or all. -/
def forgetRow (x index : Raw) : Sh Unit := do
  let x := trueName (← get) nameLevels x
  let v := (variableOf? x (← get)).getD {}
  if v.locked then refuse 1 (x ++ ": cannot unset: readonly variable".toList)
  if index = ['@'] || index = ['*'] then forgetRich x
  else match ← keyFor x index with
    | none => return
    | some key =>
      if v.table.isNone && key = Variable.front then forgetRich x
      else
        let v := { v with table := v.table.map fun t => t.erase key }
        modify (replace x (some v))

def unsetRich (args : List Raw) : Sh Nat := do
  let (os, names) ← pickOptions false "fvn" "" args
  let dropFunction (x : Raw) : Sh Unit :=
    modify fun s => { s with functions := s.functions.filter (·.1 ≠ x) }
  let one (a : Raw) : Sh Unit := do
    if chosen os 'f' then dropFunction a
    else
      let g := giftOf a
      let s ← get
      match g.index with
      | some i => if isName g.name && g.value.isNone then forgetRow g.name i else notName a
      | none =>
        if isName a then
          let x := if chosen os 'n' then a else trueName s nameLevels a
          if (variableOf? x s).isSome || chosen os 'v' then forgetRich x else dropFunction a
        else if chosen os 'v' then notName a
        else dropFunction a
  let mut code := 0
  for a in names do
    match ← outcome (one a) with
    | .ok () => pure ()
    | .error .fault => code := 1
    | .error f => throw f
  return code

/-! ### Sums as arguments -/

def letAll (args : List Raw) : Sh Nat := do
  if args = [] then refuse 1 "expression expected".toList
  let mut last : Int := 0
  for a in args do
    match ← workOut a with
    | .ok n => last := n
    | .error (.unset x) => refuseSum (.unset x)
    | .error f =>
      let isTold : Bool := f matches .told _ _ _
      if !isTold then modify fun s => { s with running := none }
      refuse 1 f.message
  return if last = 0 then 1 else 0

/-! ### Options -/

/-- Further options of the rich dialect, and whether each is set from the start. -/
def extraNames : List (String × Bool) := [
  ("autocd", false), ("assoc_expand_once", false), ("cdable_vars", false), ("cdspell", false),
  ("checkhash", false), ("checkjobs", false), ("checkwinsize", true), ("cmdhist", true),
  ("compat31", false), ("compat32", false), ("compat40", false), ("compat41", false),
  ("compat42", false), ("compat43", false), ("compat44", false), ("complete_fullquote", true),
  ("direxpand", false), ("dirspell", false), ("dotglob", false), ("execfail", false),
  ("expand_aliases", false), ("extdebug", false), ("extglob", false), ("extquote", true),
  ("failglob", false), ("force_fignore", true), ("globasciiranges", true), ("globskipdots", true),
  ("globstar", false), ("gnu_errfmt", false), ("histappend", false), ("histreedit", false),
  ("histverify", false), ("hostcomplete", true), ("huponexit", false), ("inherit_errexit", false),
  ("interactive_comments", true), ("lastpipe", false), ("lithist", false),
  ("localvar_inherit", false), ("localvar_unset", false), ("login_shell", false),
  ("mailwarn", false), ("no_empty_cmd_completion", false), ("nocaseglob", false),
  ("nocasematch", false), ("noexpand_translation", false), ("nullglob", false),
  ("patsub_replacement", true), ("progcomp", true), ("progcomp_alias", false),
  ("promptvars", true), ("restricted_shell", false), ("shift_verbose", false),
  ("sourcepath", true), ("varredir_close", false), ("xpg_echo", false)]

/-- The options that are set from the start. -/
def firstExtras : List String :=
  "interactive-comments" :: (extraNames.filter (·.2)).map (·.1)

def padTo (width : Nat) (t : Raw) : Raw := t ++ List.replicate (width - t.length) ' '

def onOff (on : Bool) : Raw := (if on then "on" else "off").toList

/-- The options by their long names: whether each is set, or how to set it again. -/
def richOptionTable (asCommands : Bool) (s : State) : Raw :=
  richOptionNames.flatMap fun o =>
    let on := isOn s o
    if asCommands then (if on then "set -o " else "set +o ").toList ++ o.1.toList ++ ['\n']
    else padTo 15 o.1.toList ++ '\t' :: onOff on ++ ['\n']
where
  isOn (s : State) (o : String × Option Char) : Bool := match o.2 with
    | some c => s.options.contains c
    | none => s.extras.contains o.1

/-- Sets an option by its name, or takes it back. -/
def putExtra (on : Bool) (name : String) : Sh Unit := modify fun s =>
  let others := s.extras.filter (· ≠ name)
  { s with extras := if on then name :: others else others }

def setNamed (on : Bool) (name : Raw) : Sh Unit := do
  match richOptionNames.lookup (String.ofList name) with
  | some (some c) => putOption on c
  | some none => putExtra on (String.ofList name)
  | none =>
    complain (name ++ ": invalid option name".toList)
    setStatus 2
    throw .fault

/-- Takes words of options up to the first other word; what is left takes the place of the arguments
if there is any, or if two dashes stood before it. -/
def setRichOptions (beside : String) : List Raw → Sh (Bool × List Raw)
  | [] => return (false, [])
  | a :: rest => do
    match a with
    | ['-', '-'] => return (true, rest)
    | ['-'] =>
      if beside = "" then
        putOption false 'x'
        putOption false 'v'
      return (false, rest)
    | '-' :: c :: cs => word true (c :: cs) rest
    | '+' :: c :: cs => word false (c :: cs) rest
    | _ => return (false, a :: rest)
where
  word (on : Bool) (cs : Raw) (rest : List Raw) : Sh (Bool × List Raw) := do
    for c in cs do
      if c = 'o' then
        match rest.head? with
        | some name => setNamed on name
        | none =>
          let _ ← put 1 (richOptionTable (!on) (← get))
      else if c = 'O' && beside ≠ "" then
        match rest.head? with
        | some name => putExtra on (String.ofList name)
        | none => pure ()
      else if beside.contains c || (richOptionNames.any fun o => o.2 = some c) then
        putOption (on || beside.contains c) c
      else misused ([if on then '-' else '+', c] ++ ": invalid option".toList)
    match cs.contains 'o' || cs.contains 'O' && beside ≠ "", rest with
    | true, _ :: rest => setRichOptions beside rest
    | _, rest => setRichOptions beside rest

def setRich (args : List Raw) : Sh Nat := do
  if args = [] then say (allVariables (← get)) 0
  else
    let r ← setRichOptions "" args
    if r.1 || r.2 ≠ [] then setArgs r.2
    return 0

/-- Sets further options, takes them back, or tells of them. -/
def shopt (args : List Raw) : Sh Nat := do
  let (os, names) ← pickOptions false "pqsuo" "" args
  let named := chosen os 'o'
  let known := fun (name : Raw) =>
    if named then (richOptionNames.lookup (String.ofList name)).isSome
    else (extraNames.lookup (String.ofList name)).isSome
  let isOn := fun (s : State) (name : Raw) => if named then
      richOptionNames.any fun o => o.1.toList = name && richOptionTable.isOn s o
    else s.extras.contains (String.ofList name)
  let row := fun (s : State) (name : Raw) =>
    if chosen os 'p' then
      (if named then (if isOn s name then "set -o " else "set +o ").toList
        else (if isOn s name then "shopt -s " else "shopt -u ").toList) ++ name ++ ['\n']
    else padTo 15 name ++ '\t' :: onOff (isOn s name) ++ ['\n']
  if names = [] then
    let s ← get
    let all := if named then richOptionNames.map (·.1.toList) else extraNames.map (·.1.toList)
    let shown := if chosen os 's' then all.filter (isOn s)
      else if chosen os 'u' then all.filter fun n => !isOn s n
      else all
    say (shown.flatMap (row s)) 0
  else
    let mut code := 0
    for name in names do
      if !known name then
        complain (name ++ (if named then ": invalid option name" else
          ": invalid shell option name").toList)
        code := 1
      else if chosen os 's' || chosen os 'u' then
        if named then setNamed (chosen os 's') name
        else putExtra (chosen os 's') (String.ofList name)
      else
        if !chosen os 'q' then
          let _ ← put 1 (row (← get) name)
        if !isOn (← get) name then code := 1
    return code

end ServiceStack.Shell
