import ServiceStack.Failure.Errno
import ServiceStack.Machine.Tool
import ServiceStack.Text.Numeral

/-!
The files of a machine. Every file has a number; a directory gives names to numbers, and knows the
directory above it. A path is followed part by part: a link puts its own parts before those that are
left, and two dots lead to the directory above the one that was really reached.

A name with a slash is a path. A name without one is looked for in the directories of the search
path; a place where it may not be run is passed over, and told if the name is nowhere else.
-/

namespace ServiceStack

inductive Device where
  | null
  | zero
  | full
  /-- gives bytes without order -/
  | noise (number : Nat)
  /-- leads nowhere for a process without a terminal -/
  | terminal
deriving DecidableEq, Repr

/-- What a file holds. -/
inductive Content where
  | directory (parent : Nat) (entries : List (Octets × Nat))
  | plain (text : Raw)
  | program (tool : Tool)
  | device (d : Device)
  | link (target : Raw)
  /-- the directory of the streams of the process that looks into it -/
  | streams
deriving Repr

structure Inode where
  content : Content
  rights : Nat
deriving Repr

/-- The files by their numbers. The first is the root, the second takes and gives nothing. -/
structure Disk where
  inodes : Array Inode

/-- Where a path leads: to a file, or to a stream of the process that follows it. -/
inductive Spot where
  | inode (n : Nat)
  | stream (n : Nat)
deriving DecidableEq, Repr

/-- How a program is started: what it is, the words that come before its arguments, and the name by
which it is called if that is not its own. -/
structure Start where
  tool : Tool
  front : List Raw := []
  name : Option Raw := none
deriving DecidableEq, Repr

namespace Start

/-- A text of this many bytes is too long for a program. -/
def textLimit : Nat := 131072

/-- This many bytes, with an address for each text, can be handed over to a program. -/
def totalLimit : Nat := 2097152

/-- Whether texts of some sizes cannot be handed over to a program. -/
def isTooMuch (sizes : List Nat) : Bool :=
  sizes.any (textLimit ≤ ·) || totalLimit < (sizes.map (· + 9)).foldl (· + ·) 0

end Start

namespace Disk

/-- The longest name of a file, in bytes. -/
def nameLimit : Nat := 255

/-- A path shorter than this can be told. -/
def pathLimit : Nat := 4096

/-- The most links on a way. -/
def linkLimit : Nat := 40

def root : Nat := 0

def nullDevice : Nat := 1

def plainRights : Nat := 0o644

def runRights : Nat := 0o755

def inode? (d : Disk) (n : Nat) : Option Inode := d.inodes[n]?

def content? (d : Disk) (n : Nat) : Option Content := (d.inode? n).map Inode.content

/-- A disk that holds nothing but `/dev/null`. -/
def empty : Disk :=
  ⟨#[⟨.directory root [(Utf8.encode "dev", 2)], runRights⟩, ⟨.device .null, 0o666⟩,
    ⟨.directory root [(Utf8.encode "null", nullDevice)], runRights⟩]⟩

/-! ### Paths -/

/-- The parts of a path. -/
def partsOf (path : Octets) : List Octets := path.splitOnP (· == 0x2F)

/-- Follows the parts of a path from a file, over so many links at most. A link at the very end is
followed only if asked. -/
def walk (d : Disk) (follow : Bool) : Nat → Nat → Nat → List Octets → Except Errno Spot
  | 0, _, _, _ => .error .ELOOP
  | _ + 1, _, here, [] => .ok (.inode here)
  | fuel + 1, links, here, part :: parts =>
    match d.content? here with
    | some (.directory parent entries) =>
      if part = [] ∨ part = [0x2E] then walk d follow fuel links here parts
      else if part = [0x2E, 0x2E] then walk d follow fuel links parent parts
      else if nameLimit < part.length then .error .ENAMETOOLONG
      else match entries.lookup part with
        | none => .error .ENOENT
        | some next =>
          match d.content? next with
          | some (.link target) =>
            if parts = [] && !follow then .ok (.inode next)
            else match links with
              | 0 => .error .ELOOP
              | links + 1 =>
                walk d follow fuel links (if target.head? = some '/' then root else here)
                  (partsOf (Raw.toOctets target) ++ parts)
          | _ => walk d follow fuel links next parts
    | some .streams =>
      if part = [] ∨ part = [0x2E] then walk d follow fuel links here parts
      else match Numeral.natural? (Raw.ofOctets part), parts with
        | some n, [] => .ok (.stream n)
        | some _, _ => .error .ENOTDIR
        | none, _ => .error .ENOENT
    | _ => .error .ENOTDIR

/-- More steps than any way has. -/
def stepLimit : Nat := pathLimit * (linkLimit + 2)

/-- What a path leads to from a directory. -/
def resolve (d : Disk) (place : Nat) (path : Octets) (follow : Bool := true) :
    Except Errno Spot :=
  if path = [] then .error .ENOENT
  else if pathLimit ≤ path.length then .error .ENAMETOOLONG
  else
    let start := if path.head? = some 0x2F then root else place
    d.walk follow stepLimit linkLimit start (partsOf path)

/-- A path without its last part and the slashes behind that, and the last part. -/
def cutLast (path : Octets) : Octets × Octets :=
  let bare := (path.reverse.dropWhile (· = 0x2F)).reverse
  let last := (bare.reverse.takeWhile (· ≠ 0x2F)).reverse
  (bare.take (bare.length - last.length), last)

/-- The directory in which the last part of a path has its place, and that part. -/
def place? (d : Disk) (place : Nat) (path : Octets) : Except Errno (Nat × Octets) :=
  if path = [] then .error .ENOENT
  else if pathLimit ≤ path.length then .error .ENAMETOOLONG
  else
    let cut := cutLast path
    let parent := if cut.1 = [] then .ok (.inode place) else d.resolve place cut.1
    match parent with
    | .error e => .error e
    | .ok (.stream _) => .error .ENOTDIR
    | .ok (.inode n) =>
      match d.content? n with
      | some (.directory _ _) =>
        if nameLimit < cut.2.length then .error .ENAMETOOLONG else .ok (n, cut.2)
      | some .streams => .error .ENOENT
      | _ => .error .ENOTDIR

/-- The path of a file from the root. -/
def pathFrom (d : Disk) : Nat → Nat → Octets → Octets
  | 0, _, below => below
  | fuel + 1, n, below =>
    if n = root then (if below = [] then [0x2F] else below)
    else
      let found := (List.range d.inodes.size).findSome? fun (p : Nat) =>
        match d.content? p with
        | some (.directory _ entries) => (entries.find? (·.2 = n)).map fun e => (p, e.1)
        | _ => none
      match found with
      | some (p, name) => pathFrom d fuel p (0x2F :: name ++ below)
      | none => below

def pathOf (d : Disk) (n : Nat) : Raw := Raw.ofOctets (d.pathFrom pathLimit n [])

/-! ### Programs -/

/-- The interpreter that the first line of a script names, and a word for it. -/
def interpreter? (text : Raw) : Option (Raw × List Raw) :=
  match text with
  | '#' :: '!' :: rest =>
    let blank := fun (c : Char) => c = ' ' || c = '\t'
    let line := (rest.takeWhile (· ≠ '\n')).dropWhile blank
    let path := line.takeWhile fun c => !blank c
    let more := (line.drop path.length).dropWhile blank
    let more := (more.reverse.dropWhile blank).reverse
    some (path, if more = [] then [] else [more])
  | _ => none

/-- Whether somebody may run a file of these rights. -/
def mayRun (rights : Nat) : Bool := rights &&& 0o111 ≠ 0

/-- How what a path leads to is run. A script is run by its interpreter, which may be a script. -/
def runFrom (d : Disk) (place : Nat) : Nat → Octets → Except Errno Start
  | 0, _ => .error .ELOOP
  | fuel + 1, path =>
    match d.resolve place path with
    | .error e => .error e
    | .ok (.stream _) => .error .EACCES
    | .ok (.inode n) =>
      match d.inode? n with
      | some ⟨.program t, rights⟩ => if mayRun rights then .ok { tool := t } else .error .EACCES
      | some ⟨.plain text, rights⟩ =>
        if !mayRun rights then .error .EACCES
        else match interpreter? text with
          | none => .error .ENOEXEC
          | some (name, words) =>
            (runFrom d place fuel (Raw.toOctets name)).map fun s =>
              ⟨s.tool, s.front ++ words ++ [Raw.ofOctets path], some (s.name.getD name)⟩
      | _ => .error .EACCES

def runPath (d : Disk) (place : Nat) (path : Octets) : Except Errno Start :=
  d.runFrom place 5 path

/-- Looks through the directories of a search path. -/
def search (d : Disk) (place : Nat) (name : Octets) (barred : Bool) :
    List Octets → Except Errno Start
  | [] => .error (if barred then .EACCES else .ENOENT)
  | dir :: dirs =>
    match d.runPath place (if dir = [] then name else dir ++ [0x2F] ++ name) with
    | .ok s => .ok s
    | .error .EACCES => search d place name true dirs
    | .error .ENOENT | .error .ENOTDIR => search d place name barred dirs
    | .error e => .error e

/-- The program of a name. -/
def find (d : Disk) (place : Nat) (dirs : List Octets) (name : Octets) : Except Errno Start :=
  if name = [] then .error .ENOENT
  else if name.contains 0x2F then d.runPath place name
  else if nameLimit < name.length then .error .ENAMETOOLONG
  else d.search place name false dirs

/-! ### Changes -/

/-- What can be done to the names of files. -/
inductive Change where
  | makeDirectory (path : Raw) (rights : Nat)
  | removeDirectory (path : Raw)
  | remove (path : Raw)
  | rename (path onto : Raw)
  /-- another name for a file -/
  | name (path onto : Raw)
  | link (target path : Raw)
  | rights (path : Raw) (rights : Nat)
deriving DecidableEq, Repr

def setContent (d : Disk) (n : Nat) (f : Content → Content) : Disk :=
  ⟨d.inodes.modify n fun i => { i with content := f i.content }⟩

def entries (d : Disk) (n : Nat) : List (Octets × Nat) :=
  match d.content? n with
  | some (.directory _ es) => es
  | _ => []

def setEntries (d : Disk) (n : Nat) (f : List (Octets × Nat) → List (Octets × Nat)) : Disk :=
  d.setContent n fun
    | .directory parent es => .directory parent (f es)
    | c => c

/-- Gives a name in a directory to a file. -/
def enter (d : Disk) (directory : Nat) (name : Octets) (n : Nat) : Disk :=
  d.setEntries directory fun es => es.filter (·.1 ≠ name) ++ [(name, n)]

/-- A new file with a name in a directory, and its number. -/
def add (d : Disk) (directory : Nat) (name : Octets) (i : Inode) : Nat × Disk :=
  let n := d.inodes.size
  (n, (⟨d.inodes.push i⟩ : Disk).enter directory name n)

def forget (d : Disk) (directory : Nat) (name : Octets) : Disk :=
  d.setEntries directory fun es => es.filter (·.1 ≠ name)

/-- Writes into the text of a file from some place on. -/
def write (d : Disk) (n : Nat) (offset : Nat) (text : Raw) : Disk :=
  d.setContent n fun
    | .plain old =>
      let front := old.take offset
      .plain (front ++ List.replicate (offset - front.length) '\x00' ++ text ++
        old.drop (offset + text.length))
    | c => c

def isDirectory (d : Disk) (n : Nat) : Bool := d.content? n matches some (.directory _ _)

/-- The place for a new name, which must not be taken. -/
def vacant? (d : Disk) (place : Nat) (path : Raw) : Except Errno (Nat × Octets) := do
  let (directory, name) ← d.place? place (Raw.toOctets path)
  if name = [] ∨ name = [0x2E] ∨ name = [0x2E, 0x2E] ∨
      ((d.entries directory).lookup name).isSome then throw .EEXIST
  return (directory, name)

/-- The directory, the name and the number of a file that is there. -/
def taken? (d : Disk) (place : Nat) (path : Raw) : Except Errno (Nat × Octets × Nat) := do
  let (directory, name) ← d.place? place (Raw.toOctets path)
  match (d.entries directory).lookup name with
  | some n => return (directory, name, n)
  | none => throw (if name = [] then .EBUSY else .ENOENT)

def apply (d : Disk) (place : Nat) : Change → Except Errno Disk
  | .makeDirectory path rights => do
    let (directory, name) ← d.vacant? place path
    return (d.add directory name ⟨.directory directory [], rights⟩).2
  | .removeDirectory path => do
    let (directory, name, n) ← d.taken? place path
    if !d.isDirectory n then throw .ENOTDIR
    if d.entries n ≠ [] then throw .ENOTEMPTY
    return d.forget directory name
  | .remove path => do
    let (directory, name, n) ← d.taken? place path
    if d.isDirectory n then throw .EISDIR
    if path.getLast? = some '/' then throw .ENOTDIR
    return d.forget directory name
  | .rename path onto => do
    let (directory, name, n) ← d.taken? place path
    let (goal, new) ← d.place? place (Raw.toOctets onto)
    match (d.entries goal).lookup new with
    | some m =>
      if n = m then return d
      if d.isDirectory m && !d.isDirectory n then throw .EISDIR
      if d.isDirectory n && !d.isDirectory m then throw .ENOTDIR
      if d.entries m ≠ [] then throw .ENOTEMPTY
    | none => pure ()
    let d := (d.forget directory name).enter goal new n
    return d.setContent n fun
      | .directory _ es => .directory goal es
      | c => c
  | .name path onto => do
    let (_, _, n) ← d.taken? place path
    if d.isDirectory n then throw .EPERM
    let (directory, name) ← d.vacant? place onto
    return d.enter directory name n
  | .link target path => do
    let (directory, name) ← d.vacant? place path
    return (d.add directory name ⟨.link target, 0o777⟩).2
  | .rights path rights => do
    match ← d.resolve place (Raw.toOctets path) with
    | .inode n => return ⟨d.inodes.modify n fun i => { i with rights := rights }⟩
    | .stream _ => return d

/-! ### A common disk -/

/-- Puts a file at a path from the root, below directories that are made where they are missing. -/
def put (d : Disk) (path : String) (c : Content) (rights : Nat) : Disk :=
  go d root ((partsOf (Utf8.encode path)).filter (· ≠ []))
where
  go (d : Disk) (here : Nat) : List Octets → Disk
    | [] => d
    | [name] =>
      match c with
      | .directory _ es => (d.add here name ⟨.directory here es, rights⟩).2
      | c => (d.add here name ⟨c, rights⟩).2
    | name :: rest =>
      match (d.entries here).lookup name with
      | some n => go d n rest
      | none =>
        let made := d.add here name ⟨.directory here [], runRights⟩
        go made.2 made.1 rest

/-- A disk from paths and what stands at them. -/
def ofList (files : List (String × Content × Nat)) : Disk :=
  files.foldl (fun d f => d.put f.1 f.2.1 f.2.2) empty

def commonFiles : List (String × Content × Nat) :=
  let directory := fun (path : String) => (path, Content.directory root [], runRights)
  let link := fun (path target : String) => (path, Content.link target.toList, 0o777)
  let plain := fun (path text : String) => (path, Content.plain text.toList, plainRights)
  let grepAs := fun (name option : String) =>
    ("/usr/bin/" ++ name,
      Content.plain ("#!/bin/sh\nexec grep " ++ option ++ " \"$@\"\n").toList, runRights)
  let device := fun (path : String) (d : Device) => (path, Content.device d, 0o666)
  let free := fun (path : String) => (path, Content.directory root [], 0o1777)
  ["/usr/bin", "/usr/sbin", "/usr/lib", "/usr/lib64", "/usr/share", "/usr/local/bin",
    "/usr/local/sbin", "/home", "/root", "/var/log", "/mnt", "/opt", "/srv", "/run", "/proc/self",
    "/work"].map directory ++ ["/tmp", "/var/tmp"].map free ++
  [link "/bin" "usr/bin", link "/sbin" "usr/sbin", link "/lib" "usr/lib",
    link "/lib64" "usr/lib64",
    plain "/etc/passwd" "root:x:0:0:root:/root:/bin/bash\n",
    plain "/etc/group" "root:x:0:\n", plain "/etc/hostname" "localhost\n",
    plain "/etc/hosts" "127.0.0.1\tlocalhost\n", plain "/etc/shells" "/bin/sh\n",
    device "/dev/zero" .zero, device "/dev/full" .full, device "/dev/random" (.noise 8),
    device "/dev/urandom" (.noise 9), device "/dev/tty" .terminal,
    ("/proc/self/fd", .streams, 0o555), ("/proc/self/exe", .program (.constant 0), runRights),
    link "/dev/fd" "/proc/self/fd",
    link "/dev/stdin" "/proc/self/fd/0", link "/dev/stdout" "/proc/self/fd/1",
    link "/dev/stderr" "/proc/self/fd/2", link "/usr/bin/sh" "dash",
    grepAs "egrep" "-E", grepAs "fgrep" "-F"] ++
  Tool.common.map fun t => ("/usr/bin/" ++ t.1, Content.program t.2, runRights)

def common : Disk := ofList commonFiles

def commonPath : List Octets := [Utf8.encode "/usr/bin", Utf8.encode "/bin"]

/-- The number of the directory that processes start in, where there is one. -/
def home (d : Disk) : Nat :=
  match d.resolve root (Utf8.encode "/work") with
  | .ok (.inode n) => n
  | _ => root

end Disk

end ServiceStack
