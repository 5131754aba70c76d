import ServiceStack.Machine.Shell.Run

/-!
How a shell is started: with a script among its arguments, in a file or as its input, and with the
variables that it finds.
-/

namespace ServiceStack.Shell

variable (k : Hooks Item)

/-! ### Scripts -/

/-- Takes the options before a script. Words of the rich dialect that begin with two dashes come
first. -/
def firstOptions (args : List Raw) : Sh (List Raw) := do
  if !(← get).rich then return (← setOptions ['c', 'l'] args).2
  let isLong := fun (a : Raw) => "--".toList.isPrefixOf a && a.length ≠ 2
  let known := ["--norc", "--noprofile", "--login", "--noediting", "--posix", "--restricted",
    "--verbose", "--debugger"].map String.toList
  match (args.takeWhile isLong).find? (!known.contains ·) with
  | some a =>
    complain (a ++ ": invalid option".toList)
    setStatus 2
    throw .finish
  | none => return (← setRichOptions "cilsO" (args.dropWhile isLong)).2

/-- Runs the script in a file. -/
def runFile (file : Raw) (args : List Raw) : Sh Unit := do
  let rich := (← get).rich
  match ← act (Act.readFile file) with
  | .ok text =>
    let origin := if rich then some file else none
    modify fun s => { s with name := file, args, origin }
    let _ ← k.script {} text
  | .error .EISDIR =>
    if rich then
      complain (file ++ ": Is a directory".toList)
      setStatus 126
    else setStatus 0
  | .error e =>
    complain (openFault rich false file e)
    setStatus (if rich then 127 else 2)
    throw .finish

/-- The script that a shell is started with: behind options one of which is `c`, in a file, or its
input. -/
def started (args : List Raw) : Sh Unit := do
  let rest ← firstOptions args
  let s ← get
  let named := s.options.contains 'c'
  let reads := s.options.contains 's' || rest = [] && !named
  modify fun s => { s with options := s.options.filter fun c => (s.rich || c ≠ 'c') && c ≠ 'l' }
  if named && rest = [] then
    if s.rich then
      complain "-c: option requires an argument".toList
      setStatus 2
      throw .finish
    else giveUp "-c requires an argument".toList
  if named then
    let script := rest.headD []
    let rest := rest.tail
    modify fun s => { s with
      name := rest.headD s.name, args := rest.tail, reading := "-c".toList }
    let _ ← k.script { exits := s.rich } script
  else if reads then modify fun s => { s with args := rest }
  else runFile k (rest.headD []) rest.tail
  if reads then
    match ← act (Act.readAll 0) with
    | .ok text => let _ ← k.script {} text
    | .error _ => return

/-! ### Variables -/

/-- Variables with other values, which are exported if they were. -/
def hold (vars : List (Raw × Variable)) (v : String × Raw) : List (Raw × Variable) :=
  let x := v.1.toList
  match vars.lookup x with
  | some w => vars.map fun u => if u.1 = x then (x, { w with value := some v.2 }) else u
  | none => vars ++ [(x, { value := some v.2 })]

/-- The variables that a new shell finds. -/
def foundVariables (c : Call) : List (Raw × Variable) :=
  let given := (c.environment.filter (isName ·.1)).map fun v =>
    (v.1, ({ value := some v.2, exported := true } : Variable))
  let usual := fun (vars : List (Raw × Variable)) (v : String × Raw) =>
    if (vars.lookup v.1.toList).isSome then vars else hold vars v
  [("PATH", usualPath), ("PS4", "+ ".toList)].foldl usual given

/-- The variables of a new shell. -/
def firstVariables (c : Call) (parent : Nat) : List (Raw × Variable) :=
  let usual := fun (vars : List (Raw × Variable)) (v : String × Raw) =>
    if (vars.lookup v.1.toList).isSome then vars else hold vars v
  let vars := [("PS1", "# ".toList), ("PS2", "> ".toList)].foldl usual (foundVariables c)
  [("IFS", blanks), ("OPTIND", ['1']), ("PPID", Numeral.natText 10 parent)].foldl hold vars

/-- The variables of a new shell that speaks the rich dialect. -/
def firstRichVariables (c : Call) (parent : Nat) : List (Raw × Variable) :=
  let found := foundVariables c
  let level := ((found.lookup "SHLVL".toList).bind (·.value)).bind Numeral.natural?
  let release := "5.2.21(1)-release".toList
  let vars := [("IFS", blanks), ("OPTIND", ['1']), ("OPTERR", ['1']),
    ("BASH", "/usr/bin/bash".toList), ("BASH_VERSION", release),
    ("HOSTNAME", "localhost".toList), ("HOSTTYPE", "x86_64".toList),
    ("MACHTYPE", "x86_64-pc-linux-gnu".toList), ("OSTYPE", "linux-gnu".toList),
    ("SHELL", "/bin/bash".toList), ("TERM", "dumb".toList),
    ("BASHOPTS", [':'].intercalate ((extraNames.filter (·.2)).map (·.1.toList)))].foldl hold found
  let number := fun (n : Nat) => ({
    value := some (Numeral.natText 10 n), locked := true, traits := ['i'] } : Variable)
  let parts := ["5", "2", "21", "1", "release", "x86_64-pc-linux-gnu"].map String.toList
  hold vars ("SHLVL", Numeral.natText 10 ((level.getD 0) + 1)) ++ [
    ("PPID".toList, number parent), ("UID".toList, number 0), ("EUID".toList, number 0),
    ("BASH_VERSINFO".toList, { table := some (Table.ofValues parts), locked := true })]

/-- Where a new shell is: as its parent named it, if that is right. -/
def firstPlace (s : Scene) (c : Call) : Raw :=
  let place := fun (p : Raw) => match s.disk.resolve s.place (Raw.toOctets p) with
    | .ok (.inode n) => n = s.place && p.head? = some '/'
    | _ => false
  match c.environment.lookup "PWD".toList with
  | some p => if place p then p else s.disk.pathOf s.place
  | none => s.disk.pathOf s.place

/-! ### The program -/

/-- What a shell does. -/
def start (rich : Bool) (c : Call) : Act Nat := do
  let me ← Act.self
  let place := firstPlace (← Act.look) c
  let now ← if rich then Act.time else pure 0
  let s : State := {
    name := c.program, main := me.pid, line := 0, place, rich, pid := me.pid
    vars := (if rich then firstRichVariables else firstVariables) c me.parent
    options := if rich then ['h', 'B'] else []
    extras := if rich then firstExtras else []
    since := now, lastArg := c.program }
  let r ← conclude k (do
    arm Signal.interrupt
    arm Signal.child
    change "PWD".toList fun _ => { value := some place, exported := true }
    if rich then
      for x in ["SHLVL", "OLDPWD"] do
        change x.toList fun v => { v with exported := true }
    started k c.args) s
  return match r.1 with
    | .ok code => code
    | .error _ => r.2.status

end ServiceStack.Shell
