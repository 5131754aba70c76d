import ServiceStack.Machine.Scenery
import ServiceStack.Machine.Tool.PathName
import ServiceStack.Machine.Tool.Size
import ServiceStack.Text.Rights

/-!
Programs that make files and directories, give them names and rights, and change their size.
-/

namespace ServiceStack.Filing

/-! ### Telling -/

/-- Does something with each word; the code is zero if all went well. -/
def each (f : Raw → Act Bool) : List Raw → Act Nat
  | [] => return 0
  | a :: as => do
    let good ← f a
    let rest ← each f as
    return if good then rest else 1

/-- Complains, and that is not well. -/
def failed (self : String) (t : Raw) : Act Bool := do
  Notice.warn (self.toList ++ ": ".toList ++ t)
  return false

/-- Complains that something cannot be done with a file. -/
def cannot (self words : String) (name : Raw) (e : Errno) : Act Bool :=
  failed self (words.toList ++ ' ' :: Quotation.always name ++ ": ".toList ++ e.text.toList)

def tellIf (wanted : Bool) (t : Raw) : Act Unit := do
  if wanted then
    let _ ← Act.write 1 (t ++ ['\n'])

def told (self : String) (r : Notice) : Act Nat := r.act self 1

def change (c : Disk.Change) : Act (Except Errno Unit) := Act.ask (.change c)

/-- The file that a path leads to, if it is there. -/
def find (follow : Bool) (path : Raw) : Act (Except Errno FileState) :=
  return (← Act.look).state? follow path

def currentMask : Act Nat := Act.mask none

/-! ### Directories -/

/-- The paths above a path, and the path itself. -/
def prefixes (path : Raw) : List Raw :=
  let front := if path.head? = some '/' then ['/'] else []
  let parts := (path.splitOn '/').filter (· ≠ [])
  (List.range parts.length).map fun n => front ++ ['/'].intercalate (parts.take (n + 1))

/-- Makes a directory and those above it that are missing. -/
def makeAll (self : String) (verbose : Bool) (rights : Nat) : List Raw → Act Bool
  | [] => return true
  | p :: ps => do
    match ← find true p with
    | .ok f =>
      if f.isDirectory then makeAll self verbose rights ps
      else cannot self "cannot create directory" p (if ps = [] then .EEXIST else .ENOTDIR)
    | .error _ =>
      match ← change (.makeDirectory p (if ps = [] then rights else 0o777)) with
      | .ok () =>
        tellIf verbose (self.toList ++ ": created directory ".toList ++ Quotation.always p)
        makeAll self verbose rights ps
      | .error e => cannot self "cannot create directory" p e

def mkdir (self : String) (args : List Raw) : Act Nat := do
  let g : Letter.Grammar := {
    plain := "pvZ", valued := "m"
    long := [("parents", 'p'), ("mode", 'm'), ("verbose", 'v'), ("context", 'Z')] }
  match Letter.split g args with
  | .error f => told self (f.report self 1)
  | .ok (_, []) => told self (PathName.missingOperand self 1)
  | .ok (os, names) =>
    let mask ← currentMask
    let mode := (Letter.value? 'm' os).map fun v => (v, Rights.changed? mask true 0o777 v)
    match mode with
    | some (v, none) => told self (.complain
        (self.toList ++ ": invalid mode ".toList ++ Quotation.text v) 1)
    | mode =>
      let verbose := Letter.has 'v' os
      let settle (name : Raw) : Act Bool := do
        match mode.bind Prod.snd with
        | some r => return (← change (.rights name r)).toBool
        | none => return true
      each (fun name => do
        if Letter.has 'p' os && name ≠ [] then
          let good ← makeAll self verbose 0o777 (prefixes name)
          if good then settle name else return false
        else match ← change (.makeDirectory name 0o777) with
          | .ok () =>
            tellIf verbose (self.toList ++ ": created directory ".toList ++ Quotation.always name)
            settle name
          | .error e => cannot self "cannot create directory" name e) names

/-! ### Files -/

/-- Opens a file to write, and closes it. -/
def openOnce (a : Access) (name : Raw) : Act (Except Errno Unit) := do
  match ← Act.ask (.open name a) with
  | .error e => return .error e
  | .ok stream =>
    Act.close stream
    return .ok ()

def touch (self : String) (args : List Raw) : Act Nat := do
  let g : Letter.Grammar := {
    plain := "acfhm", valued := "drtT"
    long := [("no-create", 'c'), ("date", 'd'), ("reference", 'r'), ("time", 'T'),
      ("no-dereference", 'h')] }
  match Letter.split g args with
  | .error f => told self (f.report self 1)
  | .ok (os, names) =>
    let reference ← match Letter.value? 'r' os with
      | some r => pure (some (r, ← find true r))
      | none => pure none
    match reference, names with
    | some (r, .error e), _ =>
      let _ ← cannot self "failed to get attributes of" r e
      return 1
    | _, [] => told self (Letter.usage self "missing file operand".toList 1)
    | _, names =>
      each (fun name => do
        match ← find true name with
        | .ok _ => return true
        | .error .ENOENT =>
          if name = ['-'] || Letter.has 'c' os then return true
          else match ← openOnce { writes := true, creates := true } name with
            | .ok () => return true
            | .error e => cannot self "cannot touch" name e
        | .error e => cannot self "cannot touch" name e) names

/-- A size as it is told to `truncate`: how it changes the one that was, and by how much. -/
def sizeChange? (v : Raw) : Option (Char × Nat) :=
  let (op, rest) := match v with
    | c :: cs => if "+-<>%/".contains c then (c, cs) else ('=', v)
    | [] => ('=', [])
  match Size.read? "EgGkKmMPQRtTYZ0" rest with
  | .ok n => some (op, n)
  | .error _ => none

def newSize (old : Nat) (op : Char) (n : Nat) : Nat :=
  match op with
  | '+' => old + n
  | '-' => old - n
  | '<' => min old n
  | '>' => max old n
  | '/' => if n = 0 then old else old / n * n
  | '%' => if n = 0 then old else (old + n - 1) / n * n
  | _ => n

/-- Gives a file another size, with zeros at its end. -/
def resize (name : Raw) (size : Nat) : Act (Except Errno Unit) := do
  let old := match ← Act.readFile name with
    | .ok text => text
    | .error _ => []
  match ← Act.ask (.open name { writes := true, creates := true, truncates := true }) with
  | .error e => return .error e
  | .ok stream =>
    let kept := old.take size
    let r ← Act.write stream (kept ++ List.replicate (size - kept.length) '\x00')
    Act.close stream
    return r

def truncate (self : String) (args : List Raw) : Act Nat := do
  let g : Letter.Grammar := {
    plain := "co", valued := "rs"
    long := [("no-create", 'c'), ("io-blocks", 'o'), ("reference", 'r'), ("size", 's')] }
  match Letter.split g args with
  | .error f => told self (f.report self 1)
  | .ok (os, names) =>
    let reference ← match Letter.value? 'r' os with
      | some r => pure (some (r, ← find true r))
      | none => pure none
    let size := (Letter.value? 's' os).map fun v => (v, sizeChange? v)
    match size, reference, names with
    | none, none, _ => told self (Letter.usage self
        "you must specify either '--size' or '--reference'".toList 1)
    | some (v, none), _, _ => told self (.complain
        (self.toList ++ ": Invalid number: ".toList ++ Quotation.text v) 1)
    | _, some (r, .error e), _ =>
      let _ ← cannot self "cannot stat" r e
      return 1
    | _, _, [] => told self (Letter.usage self "missing file operand".toList 1)
    | _, _, names =>
      let given := match reference with
        | some (_, .ok f) => some f.size
        | _ => none
      each (fun name => do
        let old ← find true name
        if Letter.has 'c' os && !old.toBool then return true
        let base := given.getD (match old with
          | .ok f => f.size
          | .error _ => 0)
        let goal := match size with
          | some (_, some (op, n)) => newSize base op n
          | _ => base
        match ← resize name goal with
        | .ok () => return true
        | .error e =>
          failed self ("cannot open ".toList ++ Quotation.always name ++ " for writing: ".toList ++
            e.text.toList)) names

/-- Letters and digits that look like chance. -/
def chanceLetters : Nat → Nat → Raw
  | 0, _ => []
  | n + 1, seed =>
    let seed := (seed * 6364136223846793005 + 1442695040888963407) % Numeral.wordSize
    let letters := "abcdefghijklmnopqrstuvwxyzABCDEFGHIJKLMNOPQRSTUVWXYZ0123456789".toList
    letters.getD (seed / 8589934592 % 62) 'a' :: chanceLetters n seed

/-- A file of a new name, whose last letters are by chance. -/
def mktemp (self : String) (environment : List (Raw × Raw)) (args : List Raw) : Act Nat := do
  let g : Letter.Grammar := {
    plain := "dqut", valued := "ps"
    long := [("directory", 'd'), ("quiet", 'q'), ("dry-run", 'u'), ("suffix", 's'),
      ("tmpdir", 'p')] }
  match Letter.split g args with
  | .error f => told self (f.report self 1)
  | .ok (_, _ :: _ :: _) => told self (Letter.usage self "too many templates".toList 1)
  | .ok (os, names) =>
    let template := names.headD "tmp.XXXXXXXXXX".toList
    let ending := match Letter.value? 's' os with
      | some s => s
      | none => (template.reverse.takeWhile (· ≠ 'X')).reverse
    let body := if (Letter.value? 's' os).isSome then template
      else template.take (template.length - ending.length)
    let count := (body.reverse.takeWhile (· = 'X')).length
    let quiet := Letter.has 'q' os
    if count < 3 then
      told self (.complain (self.toList ++ ": too few X's in template ".toList ++
        Quotation.text template) 1)
    else
      let home := (environment.lookup "TMPDIR".toList).getD "/tmp".toList
      let place := match Letter.value? 'p' os with
        | some [] => some home
        | some d => some d
        | none => if names = [] || Letter.has 't' os then some home else none
      let full := fun (name : Raw) => match place with
        | some d => PathName.join d name
        | none => name
      let me ← Act.self
      let seed := (← Act.time) + me.pid * 1000003
      let name := full (body.take (body.length - count) ++ chanceLetters count seed ++ ending)
      let made ←
        if Letter.has 'u' os then pure (.ok ())
        else if Letter.has 'd' os then change (.makeDirectory name 0o700)
        else openOnce { writes := true, creates := true, fresh := true, rights := 0o600 } name
      match made with
      | .ok () => told self (.say (name ++ ['\n']) 0)
      | .error e =>
        if quiet then return 1
        let kind := if Letter.has 'd' os then "directory" else "file"
        told self (.complain (self.toList ++ (": failed to create " ++ kind ++
          " via template ").toList ++ Quotation.always (full template) ++ ": ".toList ++
          e.text.toList) 1)

/-! ### Rights -/

/-- Changes the rights of a file, and of what lies below it. -/
def setRights (self : String) (os : List (Char × Raw)) (mask : Nat) (mode : Raw) :
    Nat → Raw → Act Bool
  | 0, _ => return false
  | n + 1, name => do
    let quiet := Letter.has 'f' os
    match ← find true name with
    | .error e => if quiet then return false else cannot self "cannot access" name e
    | .ok f =>
      let new := (Rights.changed? mask f.isDirectory f.rights mode).getD f.rights
      let shown := fun (r : Nat) => Numeral.padZeros 4 (Numeral.natText 8 r) ++ " (".toList ++
        Rights.text r ++ [')']
      let r ← change (.rights name new)
      if new ≠ f.rights then
        tellIf (Letter.has 'v' os || Letter.has 'c' os) ("mode of ".toList ++
          Quotation.always name ++ " changed from ".toList ++ shown f.rights ++ " to ".toList ++
          shown new)
      else
        tellIf (Letter.has 'v' os) ("mode of ".toList ++ Quotation.always name ++
          " retained as ".toList ++ shown new)
      let below ←
        if Letter.has 'R' os && f.isDirectory then
          let scene ← Act.look
          let inner := match f.target with
            | .inode k => (scene.disk.entries k).map fun e => Raw.ofOctets e.1
            | _ => []
          each (fun part => setRights self os mask mode n (PathName.join name part)) inner
        else pure 0
      return r.toBool && below = 0

def chmod (self : String) (args : List Raw) : Act Nat := do
  let g : Letter.Grammar := {
    plain := "cfvR", valued := "="
    long := [("changes", 'c'), ("recursive", 'R'), ("verbose", 'v'), ("quiet", 'f'),
      ("silent", 'f'), ("reference", '=')] }
  let isMode := fun (a : Raw) => a.head? = some '-' && 1 < a.length &&
    (a.drop 1).all fun c => "rwxXst,ugo+=-".contains c
  let marked := args.find? isMode
  match Letter.split g (args.filter fun a => !isMode a) with
  | .error f => told self (f.report self 1)
  | .ok (os, words) =>
    let words := marked.toList ++ words
    match words with
    | [] => told self (PathName.missingOperand self 1)
    | [mode] => told self (Letter.usage self
        ("missing operand after ".toList ++ Quotation.text mode) 1)
    | mode :: names =>
      let mask ← currentMask
      if (Rights.changed? mask false 0 mode).isNone then
        told self (Letter.usage self ("invalid mode: ".toList ++ Quotation.text mode) 1)
      else each (setRights self os mask mode Disk.pathLimit) names

/-! ### Names -/

/-- One name for a file that another name or a text leads to. -/
def linkOne (self : String) (os : List (Char × Raw)) (target name : Raw) : Act Bool := do
  let isSoft := Letter.has 's' os
  let missing ← if isSoft then pure none else do
    match ← find (Letter.has 'L' os) target with
    | .error e => pure (some e)
    | .ok _ => pure none
  match missing with
  | some e => cannot self "failed to access" target e
  | none =>
    let isDirectory := (← find true target).toOption.any FileState.isDirectory
    if !isSoft && isDirectory then
      failed self (Quotation.name target ++ ": hard link not allowed for directory".toList)
    else
      if Letter.has 'f' os then
        let _ ← change (.remove name)
      match ← change (if isSoft then .link target name else .name target name) with
      | .ok () =>
        tellIf (Letter.has 'v' os) (Quotation.always name ++
          (if isSoft then " -> " else " => ").toList ++ Quotation.always target)
        return true
      | .error e =>
        let kind := if isSoft then "symbolic" else "hard"
        cannot self ("failed to create " ++ kind ++ " link") name e

def isDirectoryNow (name : Raw) : Act Bool := return (← Act.look).isDirectory name

def ln (self : String) (args : List Raw) : Act Nat := do
  let g : Letter.Grammar := {
    plain := "bdfFiLnPrsTv", valued := "St"
    long := [("backup", 'b'), ("directory", 'd'), ("force", 'f'), ("interactive", 'i'),
      ("logical", 'L'), ("no-dereference", 'n'), ("physical", 'P'), ("relative", 'r'),
      ("symbolic", 's'), ("suffix", 'S'), ("target-directory", 't'), ("no-target-directory", 'T'),
      ("verbose", 'v')] }
  match Letter.split g args with
  | .error f => told self (f.report self 1)
  | .ok (os, names) =>
    let inside := fun (d : Raw) (target : Raw) => PathName.join d (PathName.last target [])
    match Letter.value? 't' os, names with
    | _, [] => told self (Letter.usage self "missing file operand".toList 1)
    | some d, names => each (fun t => linkOne self os t (inside d t)) names
    | none, [target] =>
      each (fun t => linkOne self os t (PathName.join ['.'] (PathName.last t []))) [target]
    | none, names =>
      let last := names.getLast?.getD []
      let isInto ← isDirectoryNow last
      let looks := isInto && !Letter.has 'T' os
      match names, looks with
      | [target, name], false => each (fun t => linkOne self os t name) [target]
      | names, true => each (fun t => linkOne self os t (inside last t)) names.dropLast
      | _, false =>
        let e := match ← find true last with
          | .error e => e
          | .ok _ => .ENOTDIR
        let _ ← failed self ("target ".toList ++ Quotation.always last ++ ": ".toList ++
          e.text.toList)
        return 1

/-- The program that gives a file one more name and knows no options. -/
def link (self : String) (args : List Raw) : Act Nat := do
  match Letter.split {} args with
  | .error f => told self (f.report self 1)
  | .ok (_, []) => told self (PathName.missingOperand self 1)
  | .ok (_, [a]) => told self (Letter.usage self
      ("missing operand after ".toList ++ Quotation.text a) 1)
  | .ok (_, [a, b]) =>
    match ← change (.name a b) with
    | .ok () => return 0
    | .error e =>
      let _ ← failed self ("cannot create link ".toList ++ Quotation.always b ++ " to ".toList ++
        Quotation.always a ++ ": ".toList ++ e.text.toList)
      return 1
  | .ok (_, _ :: _ :: c :: _) => told self (PathName.extraOperand self c 1)

end ServiceStack.Filing
