import ServiceStack.Machine.Shell.State

/-!
Places of values: a variable, or a row of its table. A variable may be another name of a second one,
and some have values that follow from what the shell does.
-/

namespace ServiceStack.Shell

/-- A variable as a whole, or the row of its table with some key. -/
structure Cell where
  name : Raw
  key : Option Raw := none
deriving DecidableEq, Repr

/-- The variable that a name means, through so many other names. -/
def trueName (s : State) : Nat → Raw → Raw
  | 0, x => x
  | n + 1, x =>
    match variableOf? x s with
    | some v =>
      if v.traits.contains 'n' then
        match v.value with
        | some y => if isName y then trueName s n y else x
        | none => x
      else x
    | none => x

/-- How many names may stand for each other. -/
def nameLevels : Nat := 8

/-- The variable behind a name. -/
def meant? (x : Raw) (s : State) : Option Variable := variableOf? (trueName s nameLevels x) s

/-- A number from a row that looks like chance. -/
def nextSeed (n : Nat) : Nat := (n * 1103515245 + 12345) % 2147483648

/-- Values that follow from what the shell does. -/
def computed? (x : Raw) (s : State) : Option Raw :=
  if !s.rich then none
  else match String.ofList x with
    | "LINENO" => some (Numeral.natText 10 s.line)
    | "RANDOM" => some (Numeral.natText 10 (s.seed / 65536 % 32768))
    | "_" => some s.lastArg
    | "BASHPID" => some (Numeral.natText 10 s.pid)
    | "BASH_SUBSHELL" => some (Numeral.natText 10 s.level)
    | "SHELLOPTS" =>
      let isOn := fun (o : String × Option Char) => match o.2 with
        | some c => s.options.contains c
        | none => s.extras.contains o.1
      some ([':'].intercalate ((richOptionNames.filter isOn).map (·.1.toList)))
    | _ => none

/-- Tables that follow from what the shell does. -/
def computedTable? (x : Raw) (s : State) : Option Table :=
  if !s.rich then none
  else match String.ofList x with
    | "FUNCNAME" =>
      if s.callers = [] then none
      else some (Table.ofValues (s.callers.map Prod.fst))
    | "BASH_LINENO" =>
      some (Table.ofValues (s.callers.map fun c => Numeral.natText 10 c.2))
    | "PIPESTATUS" => some (Table.ofValues (s.stages.map (Numeral.natText 10)))
    | "DIRSTACK" => some (Table.ofValues (s.place :: s.stack))
    | "GROUPS" => some (Table.ofValues [['0']])
    | _ => none

/-- The table of a variable, if it is one. -/
def tableOf? (x : Raw) (s : State) : Option Table :=
  match computedTable? x s with
  | some t => some t
  | none => (meant? x s).bind Variable.table

def isKeyed (x : Raw) (s : State) : Bool := (tableOf? x s).any Table.keyed

/-- The values at all places of a variable: the one value of a plain one stands at the front. -/
def rows (x : Raw) (s : State) : List (Raw × Raw) :=
  match tableOf? x s with
  | some t => t.items
  | none => ((computed? x s <|> (meant? x s).bind Variable.value).map (Variable.front, ·)).toList

def cell? (c : Cell) (s : State) : Option Raw :=
  match c.key with
  | none => match computed? c.name s with
    | some v => some v
    | none => match tableOf? c.name s with
      | some t => t.get? Variable.front
      | none => (meant? c.name s).bind Variable.value
  | some key => (rows c.name s).lookup key

/-- A variable as a table. -/
def Variable.asTable (v : Variable) (keyed : Bool) : Variable :=
  match v.table with
  | some _ => v
  | none =>
    let items := (v.value.map (Variable.front, ·)).toList
    { v with value := none, table := some { keyed, items } }

/-- A variable with a value at some place. -/
def Variable.putAt (v : Variable) (key : Option Raw) (value : Raw) : Variable :=
  match key with
  | none => v.give value
  | some key =>
    let v := v.asTable false
    { v with table := v.table.map fun t => t.put key (v.shape value) }

/-- Gives a value to a place. -/
def putCell (c : Cell) (value : Raw) (s : State) : State :=
  let x := trueName s nameLevels c.name
  let old := (variableOf? x s).getD { exported := s.options.contains 'a' }
  let new := old.putAt c.key value
  heed x new.text? (replace x (some new) s)

end ServiceStack.Shell
