import ServiceStack.Machine.Course

/-!
What can be asked about the file at a path: its kind, its rights and its size, and how it is started
if it is a program.
-/

namespace ServiceStack

inductive FileKind where
  | directory
  | regular
  | device
  | pipe
  | link
deriving DecidableEq, Repr

structure FileState where
  kind : FileKind
  rights : Nat
  size : Nat
  /-- by which it is told from other files -/
  target : Target
deriving DecidableEq, Repr

namespace FileState

def isDirectory (f : FileState) : Bool := f.kind = .directory

/-- Whether it may be run, or looked into. -/
def runs (f : FileState) : Bool :=
  f.kind = .directory || f.kind = .regular && Disk.mayRun f.rights

end FileState

namespace Scene

def inodeState? (s : Scene) (n : Nat) : Option FileState :=
  (s.disk.inode? n).map fun i =>
    let make := fun (k : FileKind) (size : Nat) => FileState.mk k i.rights size (.inode n)
    match i.content with
    | .directory _ _ => make .directory 4096
    | .streams => make .directory 0
    | .plain text => make .regular text.length
    | .program _ => make .regular 65536
    | .device _ => make .device 0
    | .link target => make .link target.length

/-- What stands at a path. A link at its end is looked through unless asked otherwise. -/
def state? (s : Scene) (follow : Bool) (path : Raw) : Except Errno FileState :=
  match s.disk.resolve s.place (Raw.toOctets path) follow with
  | .error e => .error e
  | .ok (.inode n) =>
    match s.inodeState? n with
    | some f => .ok f
    | none => .error .ENOENT
  | .ok (.stream n) =>
    match s.streams.lookup n with
    | none => .error .ENOENT
    | some (.inode m) =>
      match s.inodeState? m with
      | some f => .ok (if follow then f else { f with kind := .link })
      | none => .error .ENOENT
    | some t => .ok ⟨if follow then .pipe else .link, 0o600, 0, t⟩

def file? (s : Scene) (path : Raw) : Option FileState := (s.state? true path).toOption

def isDirectory (s : Scene) (path : Raw) : Bool := (s.file? path).any FileState.isDirectory

/-! ### Programs -/

def shellPath : Raw := "/bin/sh".toList

/-- How the program at a path is started. What is no program is a script for a shell. -/
def startPath (s : Scene) (path : Raw) : Except Errno Start :=
  match s.disk.runPath s.place (Raw.toOctets path) with
  | .error .ENOEXEC =>
    (s.disk.runPath s.place (Raw.toOctets shellPath)).map fun t =>
      { t with front := t.front ++ [path], name := some shellPath }
  | r => r

/-- Tries directories in turn. The last reason that is not a missing file is told. -/
def startAlong (s : Scene) (name : Raw) (e : Errno) : List Octets → Except Errno Start
  | [] => .error e
  | d :: ds =>
    match s.startPath (if d = [] then name else Raw.ofOctets d ++ '/' :: name) with
    | .ok t => .ok t
    | .error .ENOENT | .error .ENOTDIR => startAlong s name e ds
    | .error f => startAlong s name f ds

/-- How the program of a name is started: a name with a slash is a path. -/
def start (s : Scene) (dirs : List Octets) (name : Raw) : Except Errno Start :=
  if name.contains '/' then s.startPath name
  else if name = [] then .error .ENOENT
  else s.startAlong name .ENOENT dirs

/-- How the program of a name is started with arguments and an environment, if all that can be
handed over. -/
def startWith (s : Scene) (dirs : List Octets) (name : Raw) (args : List Raw)
    (environment : List (Raw × Raw)) : Except Errno Start :=
  match s.start dirs name with
  | .error e => .error e
  | .ok t =>
    let sizes := (name :: args).map List.length ++
      environment.map fun v => v.1.length + v.2.length + 1
    if Start.isTooMuch sizes then .error .E2BIG else .ok t

end Scene

end ServiceStack
