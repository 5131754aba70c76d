import ServiceStack.Machine.Notice
import ServiceStack.Machine.Shell.Lexer
import ServiceStack.Machine.Shell.Table
import ServiceStack.Machine.Signal

/-!
What a running shell knows, and how it leaves what it is doing. What it changes stays changed when
it leaves; a shell that runs in another is a process of its own with a copy of what the outer one
knew.
-/

namespace ServiceStack.Shell

structure Variable where
  value : Option Raw := none
  exported : Bool := false
  locked : Bool := false
  /-- the values of a table, if it is one -/
  table : Option Table := none
  /-- what is done to values that are given: `i` for sums, `l` and `u` for small letters and
  capitals; with `n` the value is the name of another variable -/
  traits : List Char := []
deriving DecidableEq, Repr

namespace Variable

/-- The place that stands for a whole table. -/
def front : Raw := ['0']

/-- The value, or that at the front of a table. -/
def text? (v : Variable) : Option Raw :=
  match v.table with
  | some t => t.get? front
  | none => v.value

/-- A value as the traits want it. -/
def shape (v : Variable) (value : Raw) : Raw :=
  if v.traits.contains 'l' then value.map Char.toLower
  else if v.traits.contains 'u' then value.map Char.toUpper
  else value

def give (v : Variable) (value : Raw) : Variable :=
  match v.table with
  | some t => { v with table := some (t.put front (v.shape value)) }
  | none => { v with value := some (v.shape value) }

end Variable

/-- What a command hides while it runs. -/
inductive Hidden where
  | variable (name : Raw) (old : Option Variable)
  | options (old : List Char)
deriving DecidableEq, Repr

/-- A process that the shell started, and how it ended. -/
structure Member where
  pid : Nat
  ending : Option Ending := none
deriving DecidableEq, Repr

/-- Processes that were started together, under a number that is free again when they were waited
for. -/
structure Batch where
  slot : Nat
  members : List Member := []
  waited : Bool := false
  /-- the command, as it was written -/
  text : Raw := []
deriving DecidableEq, Repr

structure State where
  name : Raw
  args : List Raw := []
  vars : List (Raw × Variable) := []
  functions : List (Raw × Command) := []
  aliases : List (Raw × Raw) := []
  /-- what the commands that run now hide, the last first -/
  hidden : List (List Hidden) := []
  /-- the functions that run now -/
  calls : Nat := 0
  /-- names that were found along the search path -/
  hashed : List Raw := []
  status : Nat := 0
  /-- the status of the last command in the words of this one -/
  substituted : Nat := 0
  /-- the status to end with, if the shell is about to end or runs an action -/
  saved : Option Nat := none
  /-- the actions on signals; an empty one ignores the signal, and 0 stands for the end -/
  traps : List (Nat × Raw) := []
  /-- the signals about which it is known whether they were ignored from the start, and those that
  were -/
  examined : List Nat := []
  deaf : List Nat := []
  /-- signals that came and whose actions are still to run, and the last of them -/
  gotten : List Nat := []
  pending : Option Nat := none
  /-- a child may have ended -/
  news : Bool := false
  options : List Char := []
  loops : Nat := 0
  /-- whether this is the shell that was started, and no copy of it -/
  isRoot : Bool := true
  /-- the number by which all copies of the shell call themselves -/
  main : Nat
  lastBackground : Option Nat := none
  /-- the last first -/
  batches : List Batch := []
  /-- the text of the command that is about to run in the background -/
  label : Raw := []
  /-- the line of the command that runs, and the builtin that runs it -/
  line : Nat := 1
  running : Option Raw := none
  /-- the directory that the shell is in, as it was named -/
  place : Raw := []
  /-- the next argument to look at for options, and how much of the last one was looked at -/
  index : Nat := 1
  offset : Option Nat := none
  /-- the limits that were set, by their letters -/
  limits : List (Char × Raw) := []
  /-- where commands are traced to -/
  tracer : Nat := 2
  isTracing : Bool := false
  /-- whether scripts are in the rich dialect -/
  rich : Bool := false
  /-- further options of the rich dialect, by their names -/
  extras : List String := []
  /-- the functions that run now by their names, the last first, and the lines they were called from
  -/
  callers : List (Raw × Nat) := []
  /-- how many scripts run now because commands asked for them -/
  sources : Nat := 0
  /-- where the script that is read comes from, if it is no file, and its first line -/
  reading : Raw := []
  firstLine : Nat := 1
  /-- what complaints name instead of the script -/
  origin : Option Raw := none
  /-- the last word of the last command -/
  lastArg : Raw := []
  /-- how the stages of the last pipeline ended -/
  stages : List Nat := [0]
  /-- this process, how many copies of the shell it is in, and when the shell was started -/
  pid : Nat := 0
  level : Nat := 0
  since : Nat := 0
  seed : Nat := 1
  /-- streams that lead to commands in the words of the one that runs -/
  lent : List Nat := []
  /-- further directories to go back to -/
  stack : List Raw := []

/-- Why a shell leaves what it is doing. -/
inductive Flow where
  /-- by the command `exit` -/
  | exit
  /-- at the end of what it had to do -/
  | finish
  /-- by a mistake that was told -/
  | fault
  /-- the flag tells whether the status was given -/
  | returned (given : Bool)
  | broken (levels : Nat)
  | continued (levels : Nat)
  /-- by a mistake after which the next line goes on -/
  | dropped
deriving DecidableEq, Repr

abbrev Sh := ExceptT Flow (StateT State Act)

/-- Whether a command is the last of its process, and whether its failure is looked at. -/
structure Flags where
  exits : Bool := false
  tested : Bool := false
deriving DecidableEq, Repr

/-- What the parts of a shell call that call each other. -/
structure Hooks (Item : Type) where
  command : Flags → Command → Sh Unit
  /-- runs the text of a script, and tells the status of its last command, or 0 -/
  script : Flags → Raw → Sh Nat
  /-- the items of a word, which are cut into fields or put together to one text -/
  expand : Bool → Word → Sh (List Item)
  perform : Tool → Call → Act Nat

/-! ### Steps -/

def act {α : Type} (x : Act α) : Sh α := fun s k => x fun a => k (.ok a, s)

def ask (r : Request) : Sh r.Answer := act (Act.ask r)

/-- Runs a body, whatever makes it leave. -/
def outcome {α : Type} (body : Sh α) : Sh (Except Flow α) := fun s k =>
  body s fun r => k (.ok r.1, r.2)

/-- Leaves as a body did. -/
def resume {α : Type} (r : Except Flow α) : Sh α := fun s k => k (r, s)

/-- Does something behind a body, also if that leaves. -/
def behind {α : Type} (after : Sh Unit) (body : Sh α) : Sh α := do
  let r ← outcome body
  after
  resume r

def setStatus (code : Nat) : Sh Unit := modify fun s => { s with status := code }

/-! ### Output -/

/-- Writes to a stream, and tells whether it could. -/
def put (stream : Nat) (text : Raw) : Sh Bool := do
  if text = [] then return true
  else return (← act (Act.write stream text)).toBool

/-- A complaint of the shell, which names the script, the line and the builtin that runs. -/
def complain (text : Raw) : Sh Unit := do
  let s ← get
  let running := (s.running.map (· ++ ": ".toList)).getD []
  let line := (if s.rich then "line " else "").toList ++ Numeral.natText 10 s.line
  let place := s.origin.getD s.name ++ ": ".toList ++ line ++ ": ".toList
  let _ ← put 2 (place ++ running ++ text ++ ['\n'])

/-- A mistake that a shell does not go on after, unless it is a rich one. -/
def giveUp {α : Type} (text : Raw) : Sh α := do
  setStatus (if (← get).rich then 1 else 2)
  complain text
  throw .fault

/-- A mistake after which the next line goes on. -/
def dropLine {α : Type} (text : Raw) : Sh α := do
  setStatus 1
  complain text
  throw .dropped

/-! ### Options -/

/-- The options by their long names. Some have no letter of their own that could be used. -/
def optionNames : List (String × Char) := [
  ("errexit", 'e'), ("noglob", 'f'), ("ignoreeof", 'I'), ("interactive", 'i'), ("monitor", 'm'),
  ("noexec", 'n'), ("stdin", 's'), ("xtrace", 'x'), ("verbose", 'v'), ("vi", 'V'),
  ("emacs", 'E'), ("noclobber", 'C'), ("allexport", 'a'), ("notify", 'b'), ("nounset", 'u'),
  ("privileged", 'p'), ("nolog", '0'), ("debug", '1')]

/-- The options of the rich dialect. Those without a letter are kept by their names. -/
def richOptionNames : List (String × Option Char) := [
  ("allexport", some 'a'), ("braceexpand", some 'B'), ("emacs", none), ("errexit", some 'e'),
  ("errtrace", some 'E'), ("functrace", some 'T'), ("hashall", some 'h'),
  ("histexpand", some 'H'), ("history", none), ("ignoreeof", none),
  ("interactive-comments", none), ("keyword", some 'k'), ("monitor", some 'm'),
  ("noclobber", some 'C'), ("noexec", some 'n'), ("noglob", some 'f'), ("nolog", none),
  ("notify", some 'b'), ("nounset", some 'u'), ("onecmd", some 't'), ("physical", some 'P'),
  ("pipefail", none), ("posix", none), ("privileged", some 'p'), ("verbose", some 'v'),
  ("vi", none), ("xtrace", some 'x')]

/-- The letters of the options that are set. -/
def optionText (s : State) : Raw :=
  if s.rich then "abefhkmnptuvxBCEHPTcs".toList.filter s.options.contains
  else ((optionNames.map Prod.snd).filter s.options.contains).reverse

def hasOption (c : Char) : Sh Bool := return (← get).options.contains c

/-! ### Variables -/

def variableOf? (x : Raw) (s : State) : Option Variable := s.vars.lookup x

def valueOf? (x : Raw) (s : State) : Option Raw := (variableOf? x s).bind Variable.text?

/-- Variables that are never forgotten, though they may have no value. -/
def lasting : List String := [
  "ATTY", "IFS", "MAIL", "MAILPATH", "PATH", "PS1", "PS2", "PS4", "OPTIND", "LINENO", "TERM",
  "HISTSIZE"]

/-- Variables keep their places. -/
def replace (x : Raw) (v : Option Variable) (s : State) : State :=
  { s with vars := match v with
      | some v =>
        if (variableOf? x s).isSome then s.vars.map fun w => if w.1 = x then (x, v) else w
        else s.vars ++ [(x, v)]
      | none => s.vars.filter (·.1 ≠ x) }

/-- What follows from a new value. -/
def heed (x : Raw) (value : Option Raw) (s : State) : State :=
  if x = "PATH".toList then { s with hashed := [] }
  else if x = "OPTIND".toList then
    let n := ((value.bind Numeral.decimal?).map Int.toNat).getD 1
    { s with index := if n = 0 then 1 else n, offset := none }
  else s

def refuseLocked {α : Type} (x : Raw) : Sh α := do
  if !(← get).rich then giveUp (x ++ ": is read only".toList)
  else
    modify fun s => { s with running := none }
    dropLine (x ++ ": readonly variable".toList)

/-- A change of one variable, which may be new. One that is locked is not changed. -/
def change (x : Raw) (f : Variable → Variable) : Sh Unit := do
  let s ← get
  let v := (variableOf? x s).getD {}
  if v.locked then refuseLocked x
  let v := f { v with exported := v.exported || s.options.contains 'a' }
  set (heed x v.text? (replace x (some v) s))

def assign (x value : Raw) : Sh Unit := change x fun v => v.give value

/-- Takes the value of a variable. -/
def forget (x : Raw) : Sh Unit := do
  let s ← get
  match variableOf? x s with
  | none => return
  | some v =>
    if v.locked then giveUp (x ++ ": is read only".toList)
    let keeps := lasting.contains (String.ofList x)
    set (heed x none (replace x (if keeps then some { v with value := none } else none) s))

/-! ### Hiding -/

/-- Keeps what a variable is, so that the command that runs can make it its own. -/
def hide (h : Hidden) : Sh Unit := modify fun s => { s with hidden := match s.hidden with
  | [] => []
  | top :: rest => (h :: top) :: rest }

def Hidden.restore (s : State) : Hidden → State
  | .variable x old => heed x (old.bind Variable.text?) (replace x old s)
  | .options old => { s with options := old }

/-- Brings back what the last of the commands that run hides. -/
def uncover : Sh Unit := modify fun s =>
  match s.hidden with
  | [] => s
  | top :: rest => { top.foldl Hidden.restore s with hidden := rest }

/-! ### The environment -/

/-- By this number names of variables and commands are put in rows. -/
def nameKey (size : Nat) (x : Raw) : Nat :=
  (x.foldl (fun n c => n + c.toNat) (16 * (x.headD '\x00').toNat)) % size

/-- The variables that programs find. -/
def environment (s : State) : List (Raw × Raw) :=
  let given := s.vars.filterMap fun (x, v) =>
    if v.exported && v.table.isNone then v.value.map (x, ·) else none
  let key := fun (x : Raw) => if s.rich then Table.rowOf x else nameKey 39 x
  given.mergeSort fun a b => key a.1 ≤ key b.1

/-- How a script is read. -/
def reader (s : State) : Reader where
  rest := []
  rich := s.rich
  groups := s.extras.contains "extglob"
  aliases := if s.rich && !s.extras.contains "expand_aliases" then [] else s.aliases

def usualPath : Raw := "/usr/local/sbin:/usr/local/bin:/usr/sbin:/usr/bin:/sbin:/bin".toList

def pathText (s : State) : Raw := (valueOf? "PATH".toList s).getD []

/-- The directories of a search path. What follows a percent sign is not part of a directory. -/
def directories (path : Raw) : List Octets :=
  (path.splitOn ':').map fun d => Raw.toOctets (d.takeWhile (· ≠ '%'))

def blanks : Raw := [' ', '\t', '\n']

/-- What splits words: blanks, unless something else was set. -/
def separators (s : State) : Raw := (valueOf? "IFS".toList s).getD blanks

/-! ### Values to read back -/

/-- A value between quotes, as it can be read back: single quotes stand between double ones. -/
def quote (v : Raw) : Raw := go (v.length + 1) v
where
  go : Nat → Raw → Raw
    | 0, _ => []
    | n + 1, v =>
      let plain := v.takeWhile (· ≠ '\'')
      let rest := v.drop plain.length
      let ticks := rest.takeWhile (· = '\'')
      let rest := rest.drop ticks.length
      ['\''] ++ plain ++ ['\''] ++
        (if ticks = [] then [] else ['"'] ++ ticks ++ ['"']) ++
        (if rest = [] then [] else go n rest)

end ServiceStack.Shell
