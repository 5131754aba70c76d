import ServiceStack.Machine.Kernel.Basic

/-!
How requests are answered. A request that has to wait is not answered until it need not wait any
more; `isBlocked` tells which do.
-/

namespace ServiceStack.Kernel

/-! ### Waiting -/

/-- How much a pipe holds, and how much is written to it at once or not at all. -/
def pipeLimit : Nat := 65536

def pipeUnit : Nat := 4096

/-- The children of a process. -/
def children (k : Kernel) (t : Task) : List Task := k.tasks.filter (·.parent = t.pid)

/-- Whether a request has to wait. -/
def isBlocked (k : Kernel) (t : Task) : Request → Bool
  | .write stream text =>
    match k.opened? t stream with
    | some (_, ⟨.pipe n, _, true, _, _⟩) =>
      let room := pipeLimit - (k.pipeText n).length
      text ≠ [] && k.hasReader n && (room = 0 || text.length ≤ pipeUnit && room < text.length)
    | _ => false
  | .read stream _ =>
    match k.opened? t stream with
    | some (_, ⟨.pipe n, true, _, _, _⟩) => k.pipeText n = [] && k.hasWriter n
    | _ => false
  | .await blocks =>
    let cs := k.children t
    blocks && cs ≠ [] && cs.all Task.isAlive
  | .pause => t.caught = []
  | .rest till => k.now < till
  | _ => false

/-! ### Streams -/

/-- Writes to an opened file. A pipe that nobody reads from is told by a signal. -/
def answerWrite (k : Kernel) (t : Task) (stream : Nat) (text : Raw) :
    Except Errno Nat × Kernel :=
  match k.opened? t stream with
  | none => (.error .EBADF, k)
  | some (i, o) =>
    if !o.writes then (.error .EBADF, k)
    else match o.target with
      | .output =>
        (.ok text.length, if text = [] then k else { k with written := text :: k.written })
      | .errors => (.ok text.length, k)
      | .pipe n =>
        if !k.hasReader n then (.error .EPIPE, k.signal Signal.pipe t.pid)
        else
          let old := k.pipeText n
          let put := text.take (pipeLimit - old.length)
          (.ok put.length, k.setPipe n (old ++ put))
      | .inode n =>
        match k.disk.content? n with
        | some (.device .full) => (.error .ENOSPC, k)
        | some (.plain old) =>
          let offset := if o.appends then old.length else o.offset
          (.ok text.length,
            { k with disk := k.disk.write n offset text }.setOpened i fun o =>
              { o with offset := offset + text.length })
        | _ => (.ok text.length, k)

/-- Bytes without order. -/
def noise (seed : Nat) : Nat → Raw
  | 0 => []
  | n + 1 =>
    let next := (seed * 6364136223846793005 + 1442695040888963407) % 18446744073709551616
    Char.ofNat (next / 72057594037927936) :: noise next n

def answerRead (k : Kernel) (t : Task) (stream most : Nat) : Except Errno Raw × Kernel :=
  match k.opened? t stream with
  | none => (.error .EBADF, k)
  | some (i, o) =>
    if !o.reads then (.error .EBADF, k)
    else match o.target with
      | .output | .errors => (.ok [], k)
      | .pipe n =>
        let text := k.pipeText n
        (.ok (text.take most), k.setPipe n (text.drop most))
      | .inode n =>
        match k.disk.content? n with
        | some (.directory _ _) | some .streams => (.error .EISDIR, k)
        | some (.device .null) => (.ok [], k)
        | some (.device (.noise _)) => (.ok (noise k.now most), k)
        | some (.device _) => (.ok (List.replicate most '\x00'), k)
        | some (.plain text) =>
          let part := (text.drop o.offset).take most
          (.ok part, k.setOpened i fun o => { o with offset := o.offset + part.length })
        | _ => (.ok [], k)

/-- Opens a file that is there. -/
def openInode (k : Kernel) (t : Task) (n : Nat) (a : Access) : Except Errno Nat × Kernel :=
  let opened := fun (k : Kernel) =>
    let stream := t.freeStream 0
    ((.ok stream, k.attach t.pid stream
      { target := .inode n, reads := a.reads, writes := a.writes, appends := a.appends }) :
      Except Errno Nat × Kernel)
  match k.disk.content? n with
  | none => (.error .ENOENT, k)
  | some (.directory _ _) | some .streams =>
    if a.writes || a.creates then (.error .EISDIR, k) else opened k
  | some (.device .terminal) => (.error .ENXIO, k)
  | some (.program _) => if a.writes then (.error .EACCES, k) else opened k
  | some (.plain _) =>
    opened (if a.truncates then { k with disk := k.disk.setContent n fun _ => .plain [] } else k)
  | some _ => opened k

def answerOpen (k : Kernel) (t : Task) (path : Raw) (a : Access) : Except Errno Nat × Kernel :=
  match k.disk.resolve t.place (Raw.toOctets path) with
  | .ok (.stream s) =>
    match k.opened? t s with
    | none => (.error .ENOENT, k)
    | some (_, o) =>
      match o.target with
      | .inode n => k.openInode t n a
      | target =>
        let stream := t.freeStream 0
        (.ok stream, k.attach t.pid stream { target, reads := a.reads, writes := a.writes })
  | .ok (.inode n) =>
    if a.creates && a.fresh then (.error .EEXIST, k) else k.openInode t n a
  | .error .ENOENT =>
    if !a.creates then (.error .ENOENT, k)
    else match k.disk.place? t.place (Raw.toOctets path) with
      | .error e => (.error e, k)
      | .ok (directory, name) =>
        if name = [] || path.getLast? = some '/' then (.error .EISDIR, k)
        else if ((k.disk.entries directory).lookup name).isSome then (.error .ENOENT, k)
        else
          let rights := a.rights &&& (0o777 ^^^ t.mask)
          let made := k.disk.add directory name ⟨.plain [], rights⟩
          { k with disk := made.2 }.openInode t made.1 a
  | .error e => (.error e, k)

/-- Goes back in a file. In a pipe nothing can be taken back. -/
def answerBack (k : Kernel) (t : Task) (stream bytes : Nat) : Except Errno Unit × Kernel :=
  match k.opened? t stream with
  | none => (.error .EBADF, k)
  | some (i, o) =>
    match o.target with
    | .inode _ => (.ok (), k.setOpened i fun o => { o with offset := o.offset - bytes })
    | _ => (.error .ESPIPE, k)

def setStream (k : Kernel) (t : Task) (stream : Nat) (s : Option Stream) : Kernel :=
  k.update t.pid fun t => { t with
    streams := (s.map (stream, ·)).toList ++ t.streams.filter (·.1 ≠ stream) }

def answerCopy (k : Kernel) (t : Task) (stream onto : Nat) : Except Errno Unit × Kernel :=
  match t.streams.lookup stream with
  | none => (.error .EBADF, k)
  | some s =>
    if stream = onto then (.ok (), k)
    else (.ok (), (k.setStream t onto (some { s with own := false })).sweep)

def answerKeep (k : Kernel) (t : Task) (stream : Nat) : Except Errno Nat × Kernel :=
  match t.streams.lookup stream with
  | none => (.error .EBADF, k)
  | some s =>
    let copy := t.freeStream 10
    (.ok copy, k.setStream t copy (some { s with own := true }))

def answerClose (k : Kernel) (t : Task) (stream : Nat) : Except Errno Unit × Kernel :=
  match t.streams.lookup stream with
  | none => (.error .EBADF, k)
  | some _ => (.ok (), (k.setStream t stream none).sweep)

def answerPipe (k : Kernel) (t : Task) : Except Errno (Nat × Nat) × Kernel :=
  let n := k.lastPipe + 1
  let source := t.freeStream 0
  let k := { k with lastPipe := n }.attach t.pid source
    { target := .pipe n, reads := true, writes := false }
  let taken := { t with streams := (source, { opened := 0 }) :: t.streams }
  let sink := taken.freeStream 0
  (.ok (source, sink),
    k.attach t.pid sink { target := .pipe n, reads := false, writes := true })

/-! ### Processes -/

/-- Takes the ending of the first child that has ended. -/
def answerAwait (k : Kernel) (t : Task) : Except Errno (Option (Nat × Ending)) × Kernel :=
  let cs := k.children t
  if cs = [] then (.error .ECHILD, k)
  else match cs.findSome? fun c => c.ending.map (c.pid, ·) with
    | some r => (.ok (some r), { k with tasks := k.tasks.filter (·.pid ≠ r.1) })
    | none => (.ok none, k)

def answerKill (k : Kernel) (t : Task) (target : Int) (n : Nat) :
    Except Errno Unit × Kernel :=
  if Signal.bound ≤ n then (.error .EINVAL, k)
  else if target = Signal.nobody then (.ok (), k)
  else match k.targets t target with
    | [] => (.error .ESRCH, k)
    | pids => (.ok (), pids.foldl (·.signal n) k)

/-- What is done about a signal from now on. Two signals leave no choice. -/
def answerAction (k : Kernel) (t : Task) (n : Nat) (change : Option Action) :
    Except Errno Action × Kernel :=
  match change with
  | none => (.ok (t.action n), k)
  | some a =>
    if Signal.isFinal n || Signal.bound ≤ n then (.error .EINVAL, k)
    else (.ok (t.action n), k.update t.pid (·.setAction n a))

/-- A new program keeps what is ignored, and of the streams those that are not the old one's own. -/
def renew (t : Task) : Task := { t with
  actions := t.actions.filter (·.2 ≠ .catch), caught := [], broken := false,
  streams := t.streams.filter (!·.2.own) }

def answerLead (k : Kernel) (t : Task) (session : Bool) : Except Errno Unit × Kernel :=
  if session && t.group = t.pid then (.error .EPERM, k)
  else (.ok (), k.update t.pid fun t => { t with
    group := t.pid, session := if session then t.pid else t.session })

def answerEnter (k : Kernel) (t : Task) (path : Raw) : Except Errno Unit × Kernel :=
  match k.disk.resolve t.place (Raw.toOctets path) with
  | .error e => (.error e, k)
  | .ok (.stream _) => (.error .ENOTDIR, k)
  | .ok (.inode n) =>
    match k.disk.content? n with
    | some (.directory _ _) | some .streams =>
      (.ok (), k.update t.pid fun t => { t with place := n })
    | _ => (.error .ENOTDIR, k)

def scene (k : Kernel) (t : Task) : Scene where
  disk := k.disk
  place := t.place
  streams := t.streams.filterMap fun s => (k.opened.lookup s.2.opened).map fun o =>
    (s.1, o.target)

/-- Rights of new directories pass the mask; all else is as it is asked for. -/
def answerChange (k : Kernel) (t : Task) (c : Disk.Change) : Except Errno Unit × Kernel :=
  let c := match c with
    | .makeDirectory path rights => .makeDirectory path (rights &&& (0o777 ^^^ t.mask))
    | c => c
  match k.disk.apply t.place c with
  | .ok d => (.ok (), { k with disk := d })
  | .error e => (.error e, k)

/-! ### All requests -/

/-- Answers a request that need not wait. -/
def answer (k : Kernel) (t : Task) : (r : Request) → r.Answer × Kernel
  | .write stream text => k.answerWrite t stream text
  | .read stream most => k.answerRead t stream most
  | .open path access => k.answerOpen t path access
  | .back stream bytes => k.answerBack t stream bytes
  | .copy stream onto => k.answerCopy t stream onto
  | .keep stream => k.answerKeep t stream
  | .close stream => k.answerClose t stream
  | .pipe => k.answerPipe t
  | .await _ => k.answerAwait t
  | .kill target n => k.answerKill t target n
  | .action n change => k.answerAction t n change
  | .poll => (.ok t.caught, k.update t.pid fun t => { t with caught := [] })
  | .pause => (.error .EINTR, k)
  | .rest _ => (.ok (), k)
  | .time => (.ok k.now, k)
  | .alarm time => (.ok (), k.update t.pid fun t => { t with alarm := time })
  | .self => (.ok ⟨t.pid, t.parent, t.group, t.session, t.nice⟩, k)
  | .replace => (.ok (), (k.update t.pid renew).sweep)
  | .lead session => k.answerLead t session
  | .enter path => k.answerEnter t path
  | .look => (.ok (k.scene t), k)
  | .change c => k.answerChange t c
  | .mask change => (.ok t.mask, k.update t.pid fun t => { t with mask := change.getD t.mask })
  | .renice step =>
    let nice := max (-20) (min 19 (t.nice + step))
    (.ok nice, k.update t.pid fun t => { t with nice })

end ServiceStack.Kernel
