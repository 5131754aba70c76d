import ServiceStack.Machine.Scenery
import ServiceStack.Machine.Shell.Setting

/-!
What names of commands mean: keywords, aliases, functions, builtins, and files along the search
path.
-/

namespace ServiceStack.Shell

/-! ### Builtins -/

/-- Builtins that are found before all else, and whose mistakes end the shell. The rich dialect has
none. -/
def special : List String := [
  ":", ".", "break", "continue", "eval", "exec", "exit", "export", "local", "readonly", "return",
  "set", "shift", "times", "trap", "unset"]

def regular : List String := [
  "[", "alias", "bg", "cd", "chdir", "command", "echo", "false", "fg", "getopts", "hash", "jobs",
  "kill", "printf", "pwd", "read", "test", "true", "type", "ulimit", "umask", "unalias", "wait"]

/-- The builtins of the rich dialect. -/
def richBuiltins : List String := [
  ".", ":", "[", "alias", "bg", "bind", "break", "builtin", "caller", "cd", "command", "compgen",
  "complete", "compopt", "continue", "declare", "dirs", "disown", "echo", "enable", "eval", "exec",
  "exit", "export", "false", "fc", "fg", "getopts", "hash", "help", "history", "jobs", "kill",
  "let", "local", "logout", "mapfile", "popd", "printf", "pushd", "pwd", "read", "readarray",
  "readonly", "return", "set", "shift", "shopt", "source", "suspend", "test", "times", "trap",
  "true", "type", "typeset", "ulimit", "umask", "unalias", "unset", "wait"]

def isSpecial (rich : Bool) (name : Raw) : Bool := !rich && special.contains (String.ofList name)

def isBuiltin (rich : Bool) (name : Raw) : Bool :=
  let name := String.ofList name
  if rich then richBuiltins.contains name else special.contains name || regular.contains name

/-- Builtins whose arguments may give values. -/
def givesValues (name : Raw) : Bool :=
  ["alias", "export", "local", "readonly"].contains (String.ofList name)

/-- Builtins that make variables what they are. -/
def declares (name : Raw) : Bool :=
  ["declare", "typeset", "export", "local", "readonly"].contains (String.ofList name)

/-! ### Files -/

/-- The path of a name along some directories. A name with a slash is a path. -/
def pathOf? (s : Scene) (dirs : List Octets) (name : Raw) : Option Raw :=
  if name.contains '/' then
    if (s.state? true name).toBool then some name else none
  else
    (dirs.map fun d => if d = [] then name else Raw.ofOctets d ++ '/' :: name).find? fun p =>
      (s.file? p).any (·.kind = .regular)

/-- Why there is no such file: some could not be looked at, or is none. -/
def missing (s : Scene) (dirs : List Octets) (name : Raw) : Errno :=
  let paths := dirs.map fun d => if d = [] then name else Raw.ofOctets d ++ '/' :: name
  paths.foldl (fun e p => match s.state? true p with
    | .ok _ => .EACCES
    | .error .ENOENT | .error .ENOTDIR => e
    | .error f => f) .ENOENT

/-- What is said of a program that cannot be run. -/
def runFault (rich : Bool) (name : Raw) (e : Errno) : Raw :=
  let isMissing := e = .ENOENT || e = .ENOTDIR
  if rich then
    if name.contains '/' then e.text.toList
    else if isMissing then "command not found".toList
    else e.text.toList
  else if isMissing then "not found".toList
  else e.text.toList

/-- Notes that a name was found along the search path. -/
def remember (name : Raw) : Sh Unit := modify fun s =>
  if name.contains '/' || s.hashed.contains name then s
  else { s with hashed := s.hashed ++ [name] }

/-- Whether a program is there; if not, that may be told. -/
def findProgram (tells : Bool) (path : Raw) (name : Raw) : Sh Bool := do
  if name.contains '/' then return true
  let scene ← act Act.look
  match pathOf? scene (directories path) name with
  | some _ =>
    remember name
    return true
  | none =>
    if tells then
      let rich := (← get).rich
      let e := missing scene (directories path) name
      complain (name ++ ": ".toList ++ runFault rich name (if rich then .ENOENT else e))
    return false

/-! ### Descriptions -/

def aliasText (a : Raw × Raw) : Raw := a.1 ++ '=' :: quote a.2 ++ ['\n']

/-- How a name would be run, shortly or in words, and the status. -/
def describe (long : Bool) (path : Option Raw) (name : Raw) : Sh (Raw × Nat) := do
  let s ← get
  let told := fun (words : String) => if long then name ++ words.toList else name
  let line := fun (text : Raw) => return (text ++ ['\n'], 0)
  if Lexer.reserved.contains (String.ofList name) then line (told " is a shell keyword")
  else match s.aliases.lookup name with
  | some v =>
    if long then line (name ++ " is an alias for ".toList ++ v)
    else return ("alias ".toList ++ aliasText (name, v), 0)
  | none =>
    if (s.functions.lookup name).isSome then line (told " is a shell function")
    else if isSpecial s.rich name then line (told " is a special shell builtin")
    else if isBuiltin s.rich name then line (told " is a shell builtin")
    else
      let scene ← act Act.look
      match pathOf? scene (directories (path.getD (pathText s))) name with
      | some p =>
        let kept := path.isNone && s.hashed.contains name
        line (if !long then p
          else name ++ (if kept then " is a tracked alias for " else " is ").toList ++ p)
      | none => return (if long then name ++ ": not found\n".toList else [], 127)

def type (args : List Raw) : Sh Nat := do
  let rows ← args.mapM (describe true none)
  say (rows.flatMap Prod.fst) (rows.foldl (fun n r => n ||| r.2) 0)

/-- Tells what a name means, if asked so; what runs it is found elsewhere. -/
def describeCommand (args : List Raw) : Sh Nat := do
  let (os, names) ← takeOptions "pvV" "" args
  let long := os.any (·.1 = 'V')
  match names with
  | name :: _ =>
    if long || os.any (·.1 = 'v') then
      let path := if os.any (·.1 = 'p') then some usualPath else none
      let r ← describe long path name
      say r.1 r.2
    else return 0
  | [] => return 0

/-! ### Aliases and kept paths -/

def setAliases : List Raw → Sh Nat
  | [] => return 0
  | a :: rest => do
    let s ← get
    let name := a.take 1 ++ (a.drop 1).takeWhile (· ≠ '=')
    let old := s.aliases.lookup name
    let code ← match a.drop name.length, old with
      | _ :: v, _ => do
        let given := if old.isNone then s.aliases ++ [(name, v)]
          else s.aliases.map fun w => if w.1 = name then (name, v) else w
        set { s with aliases := given }
        pure 0
      | [], some v => say (aliasText (name, v)) 0
      | [], none => do
        let _ ← put 2 ("alias: ".toList ++ name ++ " not found\n".toList)
        pure 1
    return max code (← setAliases rest)

def doAlias (args : List Raw) : Sh Nat := do
  if args = [] then
    say (((← get).aliases.mergeSort fun a b => nameKey 39 a.1 ≤ nameKey 39 b.1).flatMap aliasText) 0
  else setAliases args

def unalias (args : List Raw) : Sh Nat := do
  let (os, names) ← takeOptions "a" "" args
  if os ≠ [] then
    modify fun s => { s with aliases := [] }
    return 0
  let mut code := 0
  for name in names do
    let s ← get
    if (s.aliases.lookup name).isNone then
      let _ ← put 2 ("unalias: ".toList ++ name ++ " not found\n".toList)
      code := 1
    set { s with aliases := s.aliases.filter (·.1 ≠ name) }
  return code

/-- Tells the paths that are kept, or finds names anew. -/
def hash (args : List Raw) : Sh Nat := do
  let (os, names) ← takeOptions "r" "" args
  let s ← get
  if os ≠ [] then
    set { s with hashed := [] }
    return 0
  else if names = [] then
    let scene ← act Act.look
    let rows := s.hashed.mergeSort fun a b => nameKey 31 a ≤ nameKey 31 b
    say (rows.flatMap fun name =>
      ((pathOf? scene (directories (pathText s)) name).map (· ++ ['\n'])).getD []) 0
  else
    let mut code := 0
    for name in names do
      if !isBuiltin s.rich name && (s.functions.lookup name).isNone then
        if !(← findProgram true (pathText s) name) then code := 1
    return code

end ServiceStack.Shell
