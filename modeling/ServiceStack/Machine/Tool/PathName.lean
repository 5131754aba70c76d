import ServiceStack.Machine.Tool.Letter
import ServiceStack.Machine.Tool.Quotation

/-!
Programs that write paths: parts of them, where links lead, and paths without links.
-/

namespace ServiceStack.PathName

def missingOperand (program : String) (code : Nat) : Notice :=
  Letter.usage program "missing operand".toList code

def extraOperand (program : String) (a : Raw) (code : Nat) : Notice :=
  Letter.usage program ("extra operand ".toList ++ Quotation.text a) code

/-! ### Parts of paths -/

def dropSlashes (p : Raw) : Raw := (p.reverse.dropWhile (· = '/')).reverse

/-- The last part of a path, without an ending unless it is nothing else. -/
def last (p ending : Raw) : Raw :=
  let path := dropSlashes p
  if path = [] then p.take 1
  else
    let part := (path.reverse.takeWhile (· ≠ '/')).reverse
    if ending.isSuffixOf part && part ≠ ending then part.take (part.length - ending.length)
    else part

/-- A path without its last part. -/
def parent (p : Raw) : Raw :=
  let path := dropSlashes p
  if path = [] then (if p = [] then ['.'] else ['/'])
  else if path.contains '/' then
    let front := dropSlashes (path.reverse.dropWhile (· ≠ '/')).reverse
    if front = [] then ['/'] else front
  else ['.']

def stopOf (os : List (Char × Raw)) : Raw := if Letter.has 'z' os then ['\x00'] else ['\n']

def baseGrammar : Letter.Grammar where
  plain := "az"
  valued := "s"
  long := [("multiple", 'a'), ("suffix", 's'), ("zero", 'z')]
  strict := true

def basename (self : String) (args : List Raw) : Notice :=
  match Letter.split baseGrammar args with
  | .error f => f.report self 1
  | .ok (os, names) =>
    let ending := (Letter.value? 's' os).getD []
    let stop := stopOf os
    if names = [] then missingOperand self 1
    else if Letter.has 'a' os || Letter.has 's' os then
      .say (names.flatMap (last · ending ++ stop)) 0
    else match names with
      | [p, ending] => .say (last p ending ++ stop) 0
      | _ :: _ :: c :: _ => extraOperand self c 1
      | _ => .say (names.flatMap (last · [] ++ stop)) 0

def dirname (self : String) (args : List Raw) : Notice :=
  match Letter.split { plain := "z", long := [("zero", 'z')] } args with
  | .error f => f.report self 1
  | .ok (_, []) => missingOperand self 1
  | .ok (os, names) => .say (names.flatMap (parent · ++ stopOf os)) 0

/-! ### Where links lead -/

/-- What a stream leads to, as a link tells it. -/
def targetText (d : Disk) : Target → Raw
  | .inode n => d.pathOf n
  | .output => "pipe:[1]".toList
  | .errors => "pipe:[2]".toList
  | .pipe n => "pipe:[".toList ++ Numeral.natText 10 (n + 2) ++ [']']

/-- The path that a path leads to without links. -/
def real? (s : Scene) (p : Raw) : Except Errno Raw :=
  match s.disk.resolve s.place (Raw.toOctets p) with
  | .ok (.inode n) =>
    if 1 < p.length && p.getLast? = some '/' && !s.disk.isDirectory n then .error .ENOTDIR
    else .ok (s.disk.pathOf n)
  | .ok (.stream n) =>
    match s.streams.lookup n with
    | some t => .ok (targetText s.disk t)
    | none => .error .ENOENT
  | .error e => .error e

def linkText? (s : Scene) (p : Raw) : Except Errno Raw :=
  match s.disk.resolve s.place (Raw.toOctets p) false with
  | .ok (.inode n) =>
    match s.disk.content? n with
    | some (.link target) => .ok target
    | _ => .error .EINVAL
  | .ok (.stream n) =>
    match s.streams.lookup n with
    | some t => .ok (targetText s.disk t)
    | none => .error .ENOENT
  | .error e => .error e

/-- A path with another part. -/
def join (directory name : Raw) : Raw :=
  directory ++ (if directory.getLast? = some '/' then [] else ['/']) ++ name

/-- The path of a file whose directory is there, though it may be missing. -/
def final? (s : Scene) : Nat → Raw → Except Errno Raw
  | 0, _ => .error .ELOOP
  | n + 1, p =>
    match real? s p with
    | .ok r => .ok r
    | .error .ENOENT =>
      if p = [] then .error .ENOENT
      else match linkText? s (dropSlashes p) with
        | .ok target =>
          final? s n (if target.head? = some '/' then target else join (parent p) target)
        | .error _ => (real? s (parent p)).map fun d => join d (last p [])
    | .error e => .error e

/-- A path from the root without dots and without empty parts. -/
def plain (p : Raw) : Raw :=
  let parts := (p.splitOn '/').foldl (fun (ps : List Raw) q =>
    if q = [] ∨ q = ['.'] then ps else if q = ['.', '.'] then ps.tail else q :: ps) []
  '/' :: ['/'].intercalate parts.reverse

def absolute (s : Scene) (p : Raw) : Raw :=
  if p.head? = some '/' then p else join (s.disk.pathOf s.place) p

/-- The path of a file that may be missing, like the directories above it. -/
def possible? (s : Scene) : Nat → Raw → Except Errno Raw
  | 0, p => .ok (plain (absolute s p))
  | n + 1, p =>
    match real? s p with
    | .ok r => .ok r
    | .error .ENAMETOOLONG => .error .ENAMETOOLONG
    | .error .ELOOP => .error .ELOOP
    | .error _ =>
      if p = [] then .error .ENOENT
      else if parent p = p then .ok (plain (absolute s p))
      else (possible? s n (parent p)).map fun d => plain (join d (last p []))

/-- How a path is made one without links. -/
inductive Rule where
  /-- all parts must be there -/
  | existing
  /-- the last part may be missing -/
  | allButLast
  | missing
deriving DecidableEq, Repr

def canonical? (s : Scene) (r : Rule) (p : Raw) : Except Errno Raw :=
  match r with
  | .existing => real? s p
  | .allButLast => final? s 40 p
  | .missing => possible? s (p.length + 1) p

def ruleOf (os : List (Char × Raw)) : Option Rule :=
  match Letter.last? "efmE" os with
  | some 'e' => some .existing
  | some 'm' => some .missing
  | some _ => some .allButLast
  | none => none

def readlinkGrammar : Letter.Grammar where
  plain := "femnqsvz"
  long := [("canonicalize", 'f'), ("canonicalize-existing", 'e'), ("canonicalize-missing", 'm'),
    ("no-newline", 'n'), ("quiet", 'q'), ("silent", 's'), ("verbose", 'v'), ("zero", 'z')]

/-- Where links lead. -/
def readlink (self : String) (s : Scene) (args : List Raw) : Notice :=
  match Letter.split readlinkGrammar args with
  | .error f => f.report self 1
  | .ok (_, []) => missingOperand self 1
  | .ok (os, names) =>
    let found := names.map fun p =>
      (p, match ruleOf os with
        | some r => canonical? s r p
        | none => linkText? s p)
    let bare := Letter.has 'n' os
    let stop := if bare && names.length = 1 then [] else stopOf os
    let tells := Letter.last? "vqs" os = some 'v'
    { writes :=
        (if bare && 1 < names.length then
          [(2, self.toList ++ ": ignoring --no-newline with multiple arguments\n".toList)]
        else []) ++
        found.map fun r => match r.2 with
          | .ok t => (1, t ++ stop)
          | .error e =>
            (2, if tells then Quotation.faultLine self.toList r.1 e ++ ['\n'] else [])
      code := if found.all (·.2.toBool) then 0 else 1 }

/-- How one path is reached from another. -/
def relative (base p : Raw) : Raw :=
  let parts := fun (p : Raw) => (p.splitOn '/').filter (· ≠ [])
  let ps := go (parts base) (parts p)
  if ps = [] then ['.'] else ['/'].intercalate ps
where
  go : List Raw → List Raw → List Raw
    | a :: as, b :: bs => if a = b then go as bs else (a :: as).map (fun _ => ['.', '.']) ++ b :: bs
    | as, bs => as.map (fun _ => ['.', '.']) ++ bs

/-- Whether a path lies below another. -/
def isBelow (base p : Raw) : Bool :=
  base = ['/'] || p = base || (base ++ ['/']).isPrefixOf p

def realpathGrammar : Letter.Grammar where
  plain := "eELmPqsz"
  valued := "tb"
  long := [("canonicalize", 'E'), ("canonicalize-existing", 'e'), ("canonicalize-missing", 'm'),
    ("logical", 'L'), ("physical", 'P'), ("quiet", 'q'), ("strip", 's'), ("no-symlinks", 's'),
    ("zero", 'z'), ("relative-to", 't'), ("relative-base", 'b')]

/-- The paths without links. -/
def realpath (self : String) (s : Scene) (args : List Raw) : Notice :=
  match Letter.split realpathGrammar args with
  | .error f => f.report self 1
  | .ok (_, []) => missingOperand self 1
  | .ok (os, names) =>
    let rule := (ruleOf os).getD .allButLast
    let find : Raw → Except Errno Raw := fun p =>
      match Letter.last? "sLP" os with
      | some 's' =>
        if p = [] then .error .ENOENT
        else
          let q := plain (absolute s p)
          if rule = .missing then .ok q else (canonical? s rule q).map fun _ => q
      | some 'L' =>
        if p = [] then .error .ENOENT else canonical? s rule (plain (absolute s p))
      | _ => canonical? s rule p
    let origin := Letter.value? 't' os
    let base := Letter.value? 'b' os
    let fault := fun (p : Raw) (e : Errno) => (2, Quotation.faultLine self.toList p e ++ ['\n'])
    let found := fun (p : Raw) => (find p).mapError fun e => (p, e)
    match origin.map found, base.map found with
    | some (.error (p, e)), _ | _, some (.error (p, e)) => ⟨[fault p e], 1⟩
    | origin, base =>
      let origin := origin.bind Except.toOption
      let base := base.bind Except.toOption
      let origin := origin <|> base
      let shown := fun (p : Raw) =>
        match origin, base with
        | some o, some b => if isBelow b o && isBelow b p then relative o p else p
        | some o, none => relative o p
        | none, _ => p
      let rows := names.map fun p => (p, find p)
      { writes := rows.map fun r => match r.2 with
          | .ok t => (1, shown t ++ stopOf os)
          | .error e => if Letter.has 'q' os then (2, []) else fault r.1 e
        code := if rows.all (·.2.toBool) then 0 else 1 }

/-- The directory that the process is in. -/
def pwd (self : String) (s : Scene) (args : List Raw) : Notice :=
  match Letter.split { plain := "LP", long := [("logical", 'L'), ("physical", 'P')] } args with
  | .error f => f.report self 1
  | .ok (_, names) =>
    { writes := (if names = [] then []
        else [(2, self.toList ++ ": ignoring non-option arguments\n".toList)]) ++
        [(1, s.disk.pathOf s.place ++ ['\n'])] }

end ServiceStack.PathName
