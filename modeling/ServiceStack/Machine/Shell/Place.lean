import ServiceStack.Machine.Scenery
import ServiceStack.Machine.Shell.Setting

/-!
Builtins for the directory that the shell is in, and for the rights of new files. The shell knows
its directory by the name that led to it, which may go through links.
-/

namespace ServiceStack.Shell

/-! ### Directories -/

/-- The path that a name leads to from a directory: dots are taken out by name. Two slashes at the
start, and no more, are kept. -/
def joinPath (place path : Raw) : Raw :=
  let isDouble := fun (p : Raw) => match p with
    | '/' :: '/' :: '/' :: _ => false
    | '/' :: '/' :: _ :: _ => true
    | _ => false
  let whole := if path.head? = some '/' then path else place ++ '/' :: path
  let parts := (whole.splitOn '/').foldl (fun (ps : List Raw) part =>
    if part = [] || part = ['.'] then ps
    else if part = ['.', '.'] then ps.dropLast
    else ps ++ [part]) []
  let isKept := if path.head? = some '/' then isDouble path else isDouble place
  (if isKept then ['/'] else []) ++ '/' :: ['/'].intercalate parts

/-- The path of the directory without links. -/
def physicalPlace : Sh Raw := do
  let scene ← act Act.look
  return scene.disk.pathOf scene.place

/-- Tells the variables where the shell is. -/
def enter (place : Raw) : Sh Unit := do
  let give (x v : Raw) : Sh Unit := change x fun _ => { value := some v, exported := true }
  give "OLDPWD".toList (← get).place
  modify fun s => { s with place }
  give "PWD".toList place

/-- Goes to a directory, and tells whether it could. -/
def goTo (physical : Bool) (path : Raw) : Sh Bool := do
  let place := (← get).place
  let target := if physical || place = [] then path else joinPath place path
  match ← ask (.enter target) with
  | .error _ => return false
  | .ok () =>
    enter (← if physical || place = [] then physicalPlace else pure target)
    return true

/-- Whether a path is looked for in the directories of a variable. -/
def isSearched (path : Raw) : Bool :=
  match path.takeWhile (· ≠ '/') with
  | [] => path = []
  | first => first ≠ ['.'] && first ≠ ['.', '.']

/-- The first directory of that name, and whether it was not under the one that the shell is in. -/
def searchDirectory (scene : Scene) (path : Raw) : List Raw → Option (Raw × Bool)
  | [] => none
  | d :: ds =>
    let p := if d = [] then path else d ++ '/' :: path
    if scene.isDirectory p then some (p, d ≠ []) else searchDirectory scene path ds

/-- Whether links are to be followed at once; the last letter counts. -/
def isPhysical (os : List (Char × Raw)) : Bool := (os.getLast?.map Prod.fst) = some 'P'

def cd (args : List Raw) : Sh Nat := do
  let (os, names) ← takeOptions "LP" "" args
  let s ← get
  let back := names.head? = some ['-']
  let target := match names with
    | [] => valueOf? "HOME".toList s
    | name :: _ => if back then valueOf? "OLDPWD".toList s else some name
  let target := target.getD []
  let found ← match isSearched target, valueOf? "CDPATH".toList s with
    | true, some path => do
      let name := if target = [] then ['.'] else target
      pure (searchDirectory (← act Act.look) name (path.splitOn ':'))
    | _, _ => pure none
  let (path, shows) := found.getD (if target = [] then ['.'] else target, false)
  if !(← goTo (isPhysical os) path) then giveUp ("can't cd to ".toList ++ target)
  if back || shows then say ((← get).place ++ ['\n']) 0 else return 0

def pwd (args : List Raw) : Sh Nat := do
  let (os, _) ← takeOptions "LP" "" args
  let place := (← get).place
  say ((← if isPhysical os || place = [] then physicalPlace else pure place) ++ ['\n']) 0

/-! ### Rights of new files -/

/-- The rights of the user, the group and others, in letters. -/
def rightsText (rights : Nat) : Raw :=
  let shown := fun (c : Char) (shift : Nat) =>
    let part := rights / Nat.pow 8 shift % 8
    [c, '='] ++ (if part &&& 4 ≠ 0 then ['r'] else []) ++
      (if part &&& 2 ≠ 0 then ['w'] else []) ++ (if part &&& 1 ≠ 0 then ['x'] else [])
  shown 'u' 2 ++ [','] ++ shown 'g' 1 ++ [','] ++ shown 'o' 0

/-- One right for everybody. -/
def spread (part : Nat) : Nat := part * 0o111

def whoMask (who : Raw) : Nat :=
  let mask := who.foldl (fun n c => n ||| (match c with
    | 'u' => 0o700
    | 'g' => 0o070
    | 'o' => 0o007
    | _ => 0o777)) 0
  if who = [] then 0o777 else mask

/-- The rights after one change that is written in letters. -/
def applyClause (rights : Nat) (clause : Raw) : Option Nat :=
  let who := clause.takeWhile ("ugoa".contains ·)
  go (clause.length + 1) (whoMask who) rights (clause.drop who.length)
where
  go : Nat → Nat → Nat → Raw → Option Nat
    | 0, _, _, _ => none
    | _, _, _, [] => none
    | n + 1, mask, rights, op :: cs =>
      if !"+-=".contains op then none
      else
        let letters := cs.takeWhile ("rwxXstugo".contains ·)
        let bits := letters.foldl (fun n c => n ||| (match c with
          | 'r' => 0o444
          | 'w' => 0o222
          | 'x' => 0o111
          | 'X' => if rights &&& 0o111 ≠ 0 then 0o111 else 0
          | 'u' => spread (rights / 64 % 8)
          | 'g' => spread (rights / 8 % 8)
          | 'o' => spread (rights % 8)
          | _ => 0)) 0
        let next := match op with
          | '+' => rights ||| (bits &&& mask)
          | '-' => rights &&& (0o777 ^^^ (bits &&& mask))
          | _ => (rights &&& (0o777 ^^^ mask)) ||| (bits &&& mask)
        match cs.drop letters.length with
        | [] => some next
        | rest => go n mask next rest

def umask (args : List Raw) : Sh Nat := do
  let (os, names) ← takeOptions "S" "" args
  let mask ← act (Act.mask none)
  match names with
  | [] =>
    if os ≠ [] then say (rightsText (0o777 ^^^ mask) ++ ['\n']) 0
    else say (Numeral.padZeros 4 (Numeral.natText 8 mask) ++ ['\n']) 0
  | a :: _ =>
    let next ← if a.head?.any Char.isDigit then do
        if !a.all (Numeral.isDigit 8) then illegalNumber a
        pure (Numeral.ofDigits 8 a % 512)
      else
        match (a.splitOn ',').foldlM applyClause (0o777 ^^^ mask) with
        | some rights => pure (0o777 ^^^ rights)
        | none => giveUp ("Illegal mode: ".toList ++ a)
    let _ ← act (Act.mask (some next))
    return 0

end ServiceStack.Shell
