import ServiceStack.Machine.Tool.Filing.Making

/-!
Programs that take files away, copy them and give them other names.
-/

namespace ServiceStack.Filing

/-! ### Taking away -/

/-- The names in a directory. -/
def namesIn (f : FileState) : Act (List Raw) := do
  let scene ← Act.look
  return match f.target with
    | .inode n => (scene.disk.entries n).map fun e => Raw.ofOctets e.1
    | _ => []

/-- A line of the input, byte by byte. -/
def readAnswer : Nat → Raw → Act Raw
  | 0, seen => return seen.reverse
  | n + 1, seen => do
    match ← Act.ask (.read 0 1) with
    | .ok [c] => if c = '\n' then return seen.reverse else readAnswer n (c :: seen)
    | _ => return seen.reverse

/-- Asks a question, and whether the answer begins with a `y`. -/
def asked (self : String) (question : Raw) : Act Bool := do
  let _ ← Act.write 2 (self.toList ++ ": ".toList ++ question ++ ['?', ' '])
  let answer ← readAnswer Act.patience []
  return answer.head?.any fun c => c = 'y' || c = 'Y'

def kindText (f : FileState) : Raw :=
  match f.kind with
  | .directory => "directory ".toList
  | .regular => (if f.size = 0 then "regular empty file " else "regular file ").toList
  | .link => "symbolic link ".toList
  | .pipe => "fifo ".toList
  | .device => "character special file ".toList

/-- Takes a file away, and before it all that lies below it. -/
def removeTree (self : String) (os : List (Char × Raw)) : Nat → Raw → Act Bool
  | 0, _ => return false
  | n + 1, name => do
    let forced := Letter.last? "fi" os = some 'f'
    let deep := Letter.has 'r' os || Letter.has 'R' os
    let asks := Letter.last? "fi" os = some 'i'
    match ← find false name with
    | .error e =>
      if forced && (e = .ENOENT || e = .ENOTDIR) then return true
      else cannot self "cannot remove" name e
    | .ok f =>
      if f.kind = .directory then
        let last := PathName.last name []
        if deep && (last = ['.'] || last = ['.', '.']) then
          failed self ("refusing to remove '.' or '..' directory: skipping ".toList ++
            Quotation.always name)
        else if !deep && !Letter.has 'd' os then cannot self "cannot remove" name .EISDIR
        else
          let below ← if deep then do
              let parts ← namesIn f
              each (fun part => removeTree self os n (PathName.join name part)) parts
            else pure 0
          let goes ← if asks then
              asked self ("remove directory ".toList ++ Quotation.always name)
            else pure true
          if below ≠ 0 || !goes then return below = 0
          match ← change (.removeDirectory name) with
          | .ok () =>
            tellIf (Letter.has 'v' os) ("removed directory ".toList ++ Quotation.always name)
            return true
          | .error e => cannot self "cannot remove" name e
      else
        let goes ← if asks then
            asked self ("remove ".toList ++ kindText f ++ Quotation.always name)
          else pure true
        if !goes then return true
        match ← change (.remove name) with
        | .ok () =>
          tellIf (Letter.has 'v' os) ("removed ".toList ++ Quotation.always name)
          return true
        | .error e => cannot self "cannot remove" name e

def rm (self : String) (args : List Raw) : Act Nat := do
  let g : Letter.Grammar := {
    plain := "dfiIrRv"
    long := [("force", 'f'), ("interactive", 'i'), ("recursive", 'r'), ("dir", 'd'),
      ("verbose", 'v'), ("preserve-root", 'd'), ("one-file-system", 'd')] }
  match Letter.split g args with
  | .error f => told self (f.report self 1)
  | .ok (os, names) =>
    if names = [] then
      if Letter.has 'f' os then return 0 else told self (PathName.missingOperand self 1)
    else each (fun name => do
      let deep := Letter.has 'r' os || Letter.has 'R' os
      let last := PathName.last name []
      let isRoot := (PathName.real? (← Act.look) name).toOption = some ['/']
      if isRoot && deep && last ≠ ['.'] && last ≠ ['.', '.'] then
        let _ ← failed self ("it is dangerous to operate recursively on ".toList ++
          Quotation.always name)
        failed self "use --no-preserve-root to override this failsafe".toList
      else removeTree self os Disk.pathLimit name) names

/-- A directory, and those above it, the lowest first. -/
def withParents (path : Raw) : List Raw := (prefixes path).reverse

def removeDirectories (self : String) (os : List (Char × Raw)) : List Raw → Act Bool
  | [] => return true
  | p :: ps => do
    tellIf (Letter.has 'v' os) (self.toList ++ ": removing directory, ".toList ++
      Quotation.always p)
    let last := PathName.last p []
    let r ← if last = ['.'] then pure (.error .EINVAL) else change (.removeDirectory p)
    match r with
    | .ok () => removeDirectories self os ps
    | .error e =>
      if e = .ENOTEMPTY && Letter.has 'i' os then return true
      else cannot self "failed to remove" p e

def rmdir (self : String) (args : List Raw) : Act Nat := do
  let g : Letter.Grammar := {
    plain := "pvi"
    long := [("parents", 'p'), ("verbose", 'v'), ("ignore-fail-on-non-empty", 'i')] }
  match Letter.split g args with
  | .error f => told self (f.report self 1)
  | .ok (_, []) => told self (PathName.missingOperand self 1)
  | .ok (os, names) =>
    each (fun name => removeDirectories self os
      (if Letter.has 'p' os then withParents name else [name])) names

def unlink (self : String) (args : List Raw) : Act Nat := do
  match Letter.split {} args with
  | .error f => told self (f.report self 1)
  | .ok (_, []) => told self (PathName.missingOperand self 1)
  | .ok (_, _ :: b :: _) => told self (PathName.extraOperand self b 1)
  | .ok (_, [name]) =>
    match ← change (.remove name) with
    | .ok () => return 0
    | .error e =>
      let _ ← cannot self "cannot unlink" name e
      return 1

/-! ### Copying -/

/-- The text of a file in the place of another one. -/
def copyText (self : String) (source goal : Raw) (rights : Nat) : Act Bool := do
  match ← Act.readFile source with
  | .error e =>
    failed self ("cannot open ".toList ++ Quotation.always source ++ " for reading: ".toList ++
      e.text.toList)
  | .ok text =>
    let access : Access := { writes := true, creates := true, truncates := true, rights }
    match ← Act.ask (.open goal access) with
    | .error e => cannot self "cannot create regular file" goal e
    | .ok stream =>
      let r ← Act.write stream text
      Act.close stream
      match r with
      | .ok () => return true
      | .error e => cannot self "error writing" goal e

def pairText (a b : Raw) : Raw := Quotation.always a ++ " -> ".toList ++ Quotation.always b

def sameFile (self : String) (a b : Raw) : Act Bool :=
  failed self (Quotation.always a ++ " and ".toList ++ Quotation.always b ++
    " are the same file".toList)

/-- Copies a file, and all that lies below it. -/
def copyTree (self : String) (os : List (Char × Raw)) : Nat → Raw → Raw → Act Bool
  | 0, _, _ => return false
  | n + 1, source, goal => do
    let deep := os.any fun o => "rRa".contains o.1
    let verbose := Letter.has 'v' os
    match ← find (!deep || Letter.has 'L' os) source with
    | .error e => cannot self "cannot stat" source e
    | .ok f =>
      let there ← find true goal
      if f.kind = .directory then
        if !deep then
          failed self ("-r not specified; omitting directory ".toList ++ Quotation.always source)
        else
          match there with
          | .ok h =>
            if !h.isDirectory then
              failed self ("cannot overwrite non-directory ".toList ++ Quotation.always goal ++
                " with directory ".toList ++ Quotation.always source)
            else inside n f source goal
          | .error _ =>
            match ← change (.makeDirectory goal f.rights) with
            | .error e => cannot self "cannot create directory" goal e
            | .ok () =>
              tellIf verbose (pairText source goal)
              inside n f source goal
      else
        let old := there.toOption
        if old.any fun h => h.target = f.target then sameFile self source goal
        else if old.any FileState.isDirectory then
          failed self ("cannot overwrite directory ".toList ++ Quotation.always goal ++
            " with non-directory".toList)
        else if old.isSome && Letter.has 'n' os then return true
        else
          if old.isSome && Letter.has 'f' os && f.kind = .link then
            let _ ← change (.remove goal)
          let good ← if f.kind = .link then do
              let target := (PathName.linkText? (← Act.look) source).toOption.getD []
              match ← change (.link target goal) with
              | .ok () => pure true
              | .error e => cannot self "cannot create symbolic link" goal e
            else copyText self source goal f.rights
          if good then
            tellIf verbose (pairText source goal)
          return good
where
  inside (n : Nat) (f : FileState) (source goal : Raw) : Act Bool := do
    let parts ← namesIn f
    let r ← each (fun part =>
      copyTree self os n (PathName.join source part) (PathName.join goal part)) parts
    return r = 0

/-- Where each operand goes: into a directory, or in the place of the last operand. -/
def goals (self : String) (os : List (Char × Raw)) (names : List Raw) :
    Act (Option (List (Raw × Raw))) := do
  let inside := fun (d : Raw) (source : Raw) => (source, PathName.join d (PathName.last source []))
  match Letter.value? 't' os, names with
  | _, [] =>
    let _ ← told self (Letter.usage self "missing file operand".toList 1)
    return none
  | some d, names => return some (names.map (inside d))
  | none, [a] =>
    let _ ← told self (Letter.usage self
      ("missing destination file operand after ".toList ++ Quotation.text a) 1)
    return none
  | none, names =>
    let last := names.getLast?.getD []
    let isInto ← isDirectoryNow last
    if isInto && !Letter.has 'T' os then return some (names.dropLast.map (inside last))
    else match names with
      | [a, b] => return some [(a, b)]
      | _ =>
        let e := match ← find true last with
          | .error e => e
          | .ok _ => .ENOTDIR
        let _ ← failed self ("target ".toList ++ Quotation.always last ++ ": ".toList ++
          e.text.toList)
        return none

def eachPair (f : Raw → Raw → Act Bool) : List (Raw × Raw) → Act Nat
  | [] => return 0
  | (a, b) :: ps => do
    let good ← f a b
    let rest ← eachPair f ps
    return if good then rest else 1

def moveGrammar : Letter.Grammar where
  plain := "abdfHiLlnPprRsTuvxZ"
  valued := "St"
  long := [("archive", 'a'), ("force", 'f'), ("interactive", 'i'), ("dereference", 'L'),
    ("link", 'l'), ("no-clobber", 'n'), ("no-dereference", 'P'), ("recursive", 'r'),
    ("symbolic-link", 's'), ("suffix", 'S'), ("target-directory", 't'),
    ("no-target-directory", 'T'), ("update", 'u'), ("verbose", 'v')]

def cp (self : String) (args : List Raw) : Act Nat := do
  match Letter.split moveGrammar args with
  | .error f => told self (f.report self 1)
  | .ok (os, names) =>
    if Letter.has 'n' os then
      Notice.warn (self.toList ++ (": warning: behavior of -n is non-portable and may change " ++
        "in future; use --update=none instead").toList)
    match ← goals self os names with
    | none => return 1
    | some ps => eachPair (copyTree self os Disk.pathLimit) ps

/-! ### Moving -/

def moveOne (self : String) (os : List (Char × Raw)) (source goal : Raw) : Act Bool := do
  let scene ← Act.look
  match ← find false source, ← find false goal with
  | .error e, _ => cannot self "cannot stat" source e
  | .ok f, there =>
    let old := there.toOption
    let real := fun (p : Raw) => (PathName.real? scene p).toOption
    let parent := real (PathName.parent goal)
    let isBelow := f.isDirectory && match real source, parent with
      | some a, some b => PathName.isBelow a b
      | _, _ => false
    if isBelow then
      failed self ("cannot move ".toList ++ Quotation.always source ++
        " to a subdirectory of itself, ".toList ++ Quotation.always goal)
    else if old.any fun h => h.target = f.target then sameFile self source goal
    else if old.isSome && Letter.last? "fin" os = some 'n' then
      failed self ("not replacing ".toList ++ Quotation.always goal)
    else if f.isDirectory && old.any (!·.isDirectory) then
      failed self ("cannot overwrite non-directory ".toList ++ Quotation.always goal ++
        " with directory ".toList ++ Quotation.always source)
    else if !f.isDirectory && old.any FileState.isDirectory then
      failed self ("cannot overwrite directory ".toList ++ Quotation.always goal ++
        " with non-directory".toList)
    else match ← change (.rename source goal) with
      | .ok () =>
        tellIf (Letter.has 'v' os) ("renamed ".toList ++ pairText source goal)
        return true
      | .error e =>
        failed self ("cannot move ".toList ++ Quotation.always source ++ " to ".toList ++
          Quotation.always goal ++ ": ".toList ++ e.text.toList)

def mv (self : String) (args : List Raw) : Act Nat := do
  match Letter.split moveGrammar args with
  | .error f => told self (f.report self 1)
  | .ok (os, names) =>
    match ← goals self os names with
    | none => return 1
    | some ps => eachPair (moveOne self os) ps

end ServiceStack.Filing
