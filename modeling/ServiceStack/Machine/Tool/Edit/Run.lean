import ServiceStack.Machine.Tool.Edit.Script
import ServiceStack.Machine.Tool.Feed
import ServiceStack.Machine.Tool.Letter

/-!
The program that changes lines. Each line is taken through the commands of a script and then
written; a second line is kept in a store. A last line without a line break stays so.
-/

namespace ServiceStack.Edit

/-- What is written behind a line. -/
inductive Later where
  | text (t : Raw)
  | file (name : Raw)
  | line (name : Raw)

/-- A text and whether a line break belongs to it. -/
structure Row where
  text : Raw := []
  ended : Bool := true

/-- A place to write to, and whether a line break is missing there. -/
structure Outlet where
  sink : Sink
  missing : Bool := false

/-- How lines are read and written. -/
structure Manner where
  self : Raw
  stop : Char := '\n'
  quiet : Bool := false
  separate : Bool := false
  /-- files are changed, and kept under a name with this ending if there is one -/
  inPlace : Option Raw := none
  width : Nat := 70

structure State where
  feed : Feed
  number : Nat := 0
  line : Row := {}
  store : Row := {}
  later : List Later := []
  replaced : Bool := false
  pattern : Pattern := none
  /-- for each command the line where its range ends, if it has begun: a number or none -/
  ranges : List (Nat × Option Nat) := []
  out : Outlet
  files : List (Raw × Outlet) := []
  readers : List (Raw × Feed) := []
  code : Nat := 0

abbrev Work := StateT State Act

/-- How a line left the commands. -/
inductive Outcome where
  | done
  /-- nothing is written -/
  | dropped
  /-- the commands are done again with what is left of the line -/
  | again
  | quits (code : Nat) (silent : Bool)

variable (m : Manner)

/-! ### Writing -/

def Outlet.put (o : Outlet) (stop : Char) (r : Row) : Act Outlet := do
  let sink ← if o.missing then o.sink.put [stop] else pure o.sink
  return ⟨← sink.put (if r.ended then r.text ++ [stop] else r.text), !r.ended⟩

/-- Writes a text that has its own line breaks. -/
def Outlet.putText (o : Outlet) (stop : Char) (t : Raw) : Act Outlet := do
  let sink ← if o.missing then o.sink.put [stop] else pure o.sink
  return ⟨← sink.put t, false⟩

def putRow (r : Row) : Work Unit := do
  let s ← get
  set { s with out := ← s.out.put m.stop r }

def putText (t : Raw) : Work Unit := do
  let s ← get
  set { s with out := ← s.out.putText m.stop t }

/-- Writes to a file, which may be one of the streams. -/
def putFile (name : Raw) (r : Row) : Work Unit := do
  if name = "/dev/stdout".toList && m.inPlace.isNone then putRow m r
  else
    let s ← get
    if let some o := s.files.lookup name then
      let o ← o.put m.stop r
      let sink ← o.sink.flush
      let new := s.files.map fun (f : Raw × Outlet) =>
        if f.1 = name then (name, { o with sink }) else f
      set { s with files := new }

/-- Ends the program at once. -/
def stopWith (text : Raw) (code : Nat) : Work Unit := do
  let s ← get
  let _ ← s.out.sink.flush
  Notice.warn (m.self ++ ": ".toList ++ text)
  Act.exit code

/-- Tells what could not be read. -/
def tellFaults : Work Unit := do
  let s ← get
  set { s with feed := { s.feed with faults := [] } }
  for (name, opened, e) in s.feed.faults.reverse do
    let name := if name = ['-'] then "stdin".toList else name
    if opened then
      stopWith m ("read error on ".toList ++ name ++ ": ".toList ++ e.text.toList) 4
    else
      Notice.warn (m.self ++ ": can't read ".toList ++ name ++ ": ".toList ++ e.text.toList)
      modify fun s => { s with code := 2 }

/-! ### Reading -/

/-- Writes what was to come behind the line. -/
def putLater : Work Unit := do
  let s ← get
  set { s with later := [] }
  for l in s.later do
    match l with
    | .text t => putText m t
    | .file name =>
      let name := if name = "/dev/stdin".toList then "/dev/fd/0".toList else name
      match ← Act.readFile name with
      | .ok t => if t ≠ [] then putText m t
      | .error _ => pure ()
    | .line name =>
      let s ← get
      let f := (s.readers.lookup name).getD { names := [name], stop := m.stop }
      let (l, f) ← f.line?
      set { s with readers := (name, f) :: s.readers.filter (·.1 ≠ name) }
      match l with
      | some (t, ended) => putRow m ⟨t, ended⟩
      | none => pure ()

/-- Whether the line is the last one. -/
def isLast : Work Bool := do
  let s ← get
  let (last, feed) ← s.feed.isLast m.separate
  set { s with feed }
  tellFaults m
  return last

/-- Takes the next line, in the place of this one or behind it. -/
def readLine (adds : Bool) : Work Bool := do
  putLater m
  let s ← get
  let (l, feed) ← s.feed.line?
  set { s with feed }
  tellFaults m
  match l with
  | none => return false
  | some (text, ended) =>
    modify fun s => { s with
      line := ⟨if adds then s.line.text ++ m.stop :: text else text, ended⟩
      number := s.number + 1
      replaced := s.replaced && adds }
    return true

/-! ### Which lines are meant -/

/-- Whether an expression matches the line. -/
def matchesLine (p : Pattern) : Work Bool := do
  let s ← get
  match p <|> s.pattern with
  | none =>
    stopWith m "-e expression #1, char 0: no previous regular expression".toList 1
    return false
  | some (r, mode) =>
    set { s with pattern := some (r, mode) }
    return (Regex.search mode r (.start s.line.text)).isSome

def Address.meets (a : Address) : Work Bool := do
  match a with
  | .line n => return (← get).number = n
  | .step first distance =>
    let n := (← get).number
    return decide (first ≤ n) && (n - first) % distance = 0
  | .last => isLast m
  | .regex r => matchesLine m r

/-- Begins a range that ends at some line, or ends it. -/
def setRange (i : Nat) (till : Option (Option Nat)) : Work Unit := modify fun s =>
  let others := s.ranges.filter (·.1 ≠ i)
  { s with ranges := match till with
      | none => others
      | some t => (i, t) :: others }

/-- Whether a range that has begun takes the line. -/
def goesOn (i : Nat) (till : Option Nat) (closing : Closing) : Work Bool := do
  let n := (← get).number
  match till, closing with
  | some t, _ =>
    if t ≤ n then setRange i none
    return decide (n ≤ t)
  | none, .last =>
    if ← isLast m then setRange i none
    return true
  | none, .regex r =>
    if ← matchesLine m r then setRange i none
    return true
  | none, _ => return true

/-- Whether the command at some place is for the line. -/
def Range.meets (i : Nat) (r : Range) : Work Bool := do
  match r with
  | .all => return true
  | .one a => a.meets m
  | .head p =>
    match (← get).ranges.lookup i with
    | some till => goesOn m i till (.regex p)
    | none => return false
  | .span opening closing =>
    match (← get).ranges.lookup i with
    | some till => goesOn m i till closing
    | none =>
      if ← opening.meets m then
        let n := (← get).number
        let till := match closing with
          | .line t => some t
          | .further k => some (n + k)
          | .multiple k => some (if k = 0 then n else (n + k - 1) / k * k)
          | _ => none
        match till with
        | some t => if n < t then setRange i (some (some t))
        | none => setRange i (some none)
        return true
      else return false

/-! ### Replacing -/

/-- Letters in the case that was asked for: from some place on, and for the next letter. -/
structure Case where
  steady : Char := 'E'
  next : Char := 'E'

def Case.turn (k : Char) (c : Char) : Char :=
  if k = 'U' || k = 'u' then c.toUpper else if k = 'L' || k = 'l' then c.toLower else c

def Case.apply (k : Case) (t : Raw) : Raw × Case :=
  match t.map (Case.turn k.steady) with
  | [] => ([], k)
  | c :: cs => (Case.turn k.next c :: cs, { k with next := 'E' })

/-- The text that is put for a match. -/
def replacement (whole : Raw) (groups : List (Nat × Raw)) : Case → List Part → Raw
  | _, [] => []
  | k, .letters c :: ps =>
    replacement whole groups
      (if c = 'u' || c = 'l' then { k with next := c } else { steady := c }) ps
  | k, .text t :: ps =>
    let r := k.apply t
    r.1 ++ replacement whole groups r.2 ps
  | k, .group n :: ps =>
    let r := k.apply (if n = 0 then whole else (groups.lookup n).getD [])
    r.1 ++ replacement whole groups r.2 ps

/-- What becomes of a line, the latest part first, and whether anything was replaced. Right behind a
match nothing is no other match. -/
def exchangeFrom (r : Regex) (mode : Regex.Mode) (x : Exchange) :
    Nat → Nat → Bool → Regex.Spot → List Raw → Bool → List Raw × Bool
  | 0, _, _, _, found, hit => (found, hit)
  | n + 1, count, behind, s, found, hit =>
    match Regex.search mode r s with
    | none => (s.rest :: found, hit)
    | some (a, b) =>
      let empty := a.before = b.before
      let front := s.upTo a
      let adjoins := empty && behind && a.before = s.before
      let counts := !adjoins && x.which ≤ count + 1
      let put := if counts then replacement (a.upTo b) b.groups {} x.parts else a.upTo b
      let found := put :: front :: found
      if counts && !x.every then (b.rest :: found, true)
      else
        let count := if adjoins then count else count + 1
        if empty then
          match b.rest with
          | [] => (found, hit || counts)
          | c :: _ => exchangeFrom r mode x n count false (b.skip 1) ([c] :: found) (hit || counts)
        else exchangeFrom r mode x n count true b found (hit || counts)

def exchange (x : Exchange) : Work Unit := do
  let s ← get
  match x.regex <|> s.pattern with
  | none => stopWith m "-e expression #1, char 0: no previous regular expression".toList 1
  | some (r, mode) =>
    let text := s.line.text
    let (found, hit) := exchangeFrom r mode x (text.length + 2) 0 false (.start text) [] false
    set { s with pattern := some (r, mode) }
    if hit then
      modify fun s => { s with
        line := { s.line with text := found.reverse.flatten }, replaced := true }
      let line := (← get).line
      if x.prints then putRow m line
      if let some name := x.file then putFile m name line

/-! ### Lines that can be seen -/

/-- A byte in letters that can be seen. -/
def seen (c : Char) : Raw :=
  match [('\\', '\\'), ('\x07', 'a'), ('\x08', 'b'), ('\x0c', 'f'), ('\n', 'n'), ('\r', 'r'),
    ('\t', 't'), ('\x0b', 'v')].lookup c with
  | some l => ['\\', l]
  | none =>
    if ' ' ≤ c && c ≤ '~' then [c]
    else '\\' :: Numeral.padZeros 3 (Numeral.natText 8 c.toNat)

/-- A line in letters, folded where it grows too wide. -/
def folded (width : Nat) : Nat → Raw → Raw
  | _, [] => ['$', '\n']
  | column, c :: cs =>
    let t := seen c
    if 1 < width + 1 && width - 1 < column + t.length then
      '\\' :: '\n' :: t ++ folded width t.length cs
    else t ++ folded width (column + t.length) cs

/-! ### Commands -/

def upToBreak (t : Raw) : Raw := t.takeWhile (· ≠ '\n')

def act (place : Nat) (r : Range) (inverted : Bool) (a : Action) :
    Work (Except Outcome (Option Nat)) := do
  let go : Except Outcome (Option Nat) := .ok none
  match a with
  | .mark | .none | .block _ => return go
  | .number =>
    putText m (Numeral.natText 10 (← get).number ++ ['\n'])
    return go
  | .after t =>
    modify fun s => { s with later := s.later ++ [.text t] }
    return go
  | .before t =>
    putText m t
    return go
  | .instead t =>
    let inside := !inverted && ((← get).ranges.lookup place).isSome && (r matches .span _ _)
    if !inside then putText m t
    return .error .dropped
  | .jump n => return .ok (some n)
  | .jumpIf wanted n =>
    let s ← get
    if wanted then set { s with replaced := false }
    if s.replaced = wanted then return .ok (some n)
    else
      set { s with replaced := false }
      return go
  | .delete => return .error .dropped
  | .deleteFirst =>
    let s ← get
    if s.line.text.contains '\n' then
      set { s with line :=
        { s.line with text := (s.line.text.dropWhile (· ≠ '\n')).drop 1 } }
      return .error .again
    else return .error .dropped
  | .name =>
    let s ← get
    putText m (s.feed.name ++ ['\n'])
    return go
  | .load adds =>
    modify fun s => { s with line := if adds then
        { s.line with text := s.line.text ++ m.stop :: s.store.text } else s.store }
    return go
  | .store adds =>
    modify fun s => { s with store := if adds then
        { s.store with text := s.store.text ++ m.stop :: s.line.text } else s.line }
    return go
  | .swap =>
    modify fun s => { s with line := s.store, store := s.line }
    return go
  | .list width =>
    putText m (folded (width.getD m.width) 0 (← get).line.text)
    return go
  | .next =>
    if ← isLast m then return .error (.quits 0 false)
    if !m.quiet then putRow m (← get).line
    let _ ← readLine m false
    return go
  | .append =>
    if ← isLast m then return .error (.quits 0 false)
    let _ ← readLine m true
    return go
  | .print =>
    putRow m (← get).line
    return go
  | .printFirst =>
    putRow m ⟨upToBreak (← get).line.text, true⟩
    return go
  | .quit code silent => return .error (.quits code silent)
  | .readFile name =>
    modify fun s => { s with later := s.later ++ [.file name] }
    return go
  | .readLine name =>
    modify fun s => { s with later := s.later ++ [.line name] }
    return go
  | .write name =>
    putFile m name (← get).line
    return go
  | .writeFirst name =>
    putFile m name ⟨upToBreak (← get).line.text, true⟩
    return go
  | .exchange x =>
    exchange m x
    return go
  | .translate old new =>
    let turn := fun (c : Char) => ((old.zip new).lookup c).getD c
    modify fun s => { s with line := { s.line with text := s.line.text.map turn } }
    return go
  | .clear =>
    modify fun s => { s with line := { s.line with text := [] } }
    return go

/-- Takes the line through the commands from some place on. -/
def follow (cs : Array Command) : Nat → Nat → Work Outcome
  | 0, _ => return .done
  | fuel + 1, i => do
    match cs[i]? with
    | none => return .done
    | some c =>
      let meant := (← c.range.meets m i) != c.inverted
      if !meant then
        match c.action with
        | .block behind => follow cs fuel behind
        | _ => follow cs fuel (i + 1)
      else match ← act m i c.range c.inverted c.action with
        | .error o => return o
        | .ok none => follow cs fuel (i + 1)
        | .ok (some n) => follow cs fuel n

/-- Takes line after line; `holds` if the line is still to be done again. -/
def lines (cs : Array Command) : Nat → Bool → Work (Option Nat)
  | 0, _ => return none
  | fuel + 1, holds => do
    let there ← if holds then pure true else readLine m false
    if !there then return none
    else
      let o ← follow m cs Act.patience 0
      match o with
      | .dropped =>
        putLater m
        lines cs fuel false
      | .again =>
        putLater m
        lines cs fuel true
      | .done =>
        if !m.quiet then putRow m (← get).line
        putLater m
        lines cs fuel false
      | .quits code silent =>
        if !silent then
          if !m.quiet then putRow m (← get).line
          putLater m
        return some code

/-- What ranges from the beginning have begun. -/
def begun (cs : Array Command) : List (Nat × Option Nat) :=
  cs.toList.zipIdx.filterMap fun c => match c.1.range with
    | .head _ => some (c.2, none)
    | _ => none

/-- The name under which a changed file is kept. -/
def keptName (ending name : Raw) : Raw :=
  let base := (name.reverse.takeWhile (· ≠ '/')).reverse
  let front := name.take (name.length - base.length)
  if ending.contains '*' then
    let new := ending.flatMap fun c => if c = '*' then base else [c]
    if new.contains '/' then new else front ++ new
  else name ++ ending

/-- Changes one file, and leaves it if the script quits. -/
def changeFile (cs : Array Command) (name : Raw) : Work (Option Nat) := do
  let scene ← Act.look
  let regular := match scene.disk.resolve scene.place (Raw.toOctets name) with
    | .ok (.inode n) => some (scene.disk.content? n matches some (.plain _))
    | _ => none
  if regular = some false then
    Notice.warn (m.self ++ ": couldn't edit ".toList ++ name ++ ": not a regular file".toList)
    modify fun s => { s with code := 4 }
    return none
  else if regular = none then
    modify fun s => { s with feed := { s.feed with names := [name] } }
    let _ ← isLast m
    return none
  else match ← Act.readFile name with
    | .error _ => return none
    | .ok text =>
      if let some ending := m.inPlace then
        if ending ≠ [] then
          let _ ← Act.ask (.change (.rename name (keptName ending name)))
      match ← Act.ask (.open name { writes := true, creates := true, truncates := true }) with
      | .error e =>
        stopWith m ("couldn't open file ".toList ++ name ++ ": ".toList ++ e.text.toList) 4
        return none
      | .ok stream =>
        let before ← get
        set { before with
          feed := { before.feed with names := [], name := name, text := text }
          number := 0, ranges := begun cs, out := { sink := { stream } } }
        let code ← lines m cs Act.patience false
        let s ← get
        -- what a command that quits leaves is copied
        let _ ← Act.write stream (s.out.sink.parts.reverse.flatten ++ s.feed.text)
        Act.close stream
        set { s with out := before.out }
        return code

def changeFiles (cs : Array Command) : List Raw → Work (Option Nat)
  | [] => return none
  | name :: names => do
    match ← changeFile m cs name with
    | some code => return some code
    | none => changeFiles cs names

/-- Takes each file by itself through the commands. -/
def readFiles (cs : Array Command) : List Raw → Work (Option Nat)
  | [] => return none
  | name :: names => do
    modify fun s => { s with
      feed := { s.feed with names := [name] }, number := 0, ranges := begun cs }
    match ← lines m cs Act.patience false with
    | some code => if ← isLast m then readFiles cs names else return some code
    | none => readFiles cs names

/-! ### The program -/

def grammar : Letter.Grammar where
  plain := "nErsuzD"
  valued := "efl"
  optional := "i"
  long := [("quiet", 'n'), ("silent", 'n'), ("regexp-extended", 'E'), ("expression", 'e'),
    ("file", 'f'), ("separate", 's'), ("unbuffered", 'u'), ("null-data", 'z'),
    ("zero-terminated", 'z'), ("in-place", 'i'), ("line-length", 'l'), ("posix", 'D'),
    ("debug", 'D'), ("follow-symlinks", 'D'), ("sandbox", 'D')]

/-- The texts that make up the script. -/
def scriptTexts (self : Raw) : List (Char × Raw) → Act (List Raw)
  | [] => return []
  | (c, v) :: os => do
    if c = 'e' then return v :: (← scriptTexts self os)
    else if c = 'f' then
      match ← if v = ['-'] then Act.readAll 0 else Act.readFile v with
      | .ok t =>
        return (if t.getLast? = some '\n' then t.dropLast else t) :: (← scriptTexts self os)
      | .error e =>
        Notice.warn (self ++ ": couldn't open file ".toList ++ v ++ ": ".toList ++ e.text.toList)
        Act.exit 1
    else scriptTexts self os

/-- The files that a script writes to. -/
def outlets (cs : List Command) : List Raw :=
  (cs.filterMap fun c => match c.action with
    | .write name | .writeFirst name => some name
    | .exchange x => x.file
    | _ => none).eraseDups

/-- Opens the files that are written to. -/
def openOutlets (self : Raw) : List Raw → Act (List (Raw × Outlet))
  | [] => return []
  | name :: names => do
    if name = "/dev/stdout".toList || name = "/dev/stderr".toList then
      let stream := if name = "/dev/stdout".toList then 1 else 2
      return (name, { sink := { stream } }) :: (← openOutlets self names)
    else match ← Act.ask (.open name { writes := true, creates := true, truncates := true }) with
      | .ok stream => return (name, { sink := { stream } }) :: (← openOutlets self names)
      | .error e =>
        Notice.warn (self ++ ": couldn't open file ".toList ++ name ++ ": ".toList ++
          e.text.toList)
        Act.exit 4

/-- Where a fault is: the number of the script text and the place in it. -/
def faultPlace : Nat → Nat → List Raw → Nat × Nat
  | i, at_, [] => (i, at_)
  | i, at_, [_] => (i, at_)
  | i, at_, t :: ts => if t.length < at_ then faultPlace (i + 1) (at_ - t.length - 1) ts
      else (i, at_)

/-- What is told of a fault. -/
def faultLine (self : Raw) (texts : List Raw) (script : Raw) (f : Fault) : Raw :=
  let char0 := f.text.head? = some 'u' && f.left.isNone && f.text.contains '\x7b'
  match f.left with
  | none => self ++ ": ".toList ++
      (if char0 then "-e expression #1, char 0: ".toList else []) ++ f.text
  | some left =>
    let p := faultPlace 1 (script.length - left) texts
    self ++ ": -e expression #".toList ++ Numeral.natText 10 p.1 ++ ", char ".toList ++
      Numeral.natText 10 p.2 ++ ": ".toList ++ f.text

def usage : Raw := ("Usage: sed [OPTION]... \x7bscript-only-if-no-other-script\x7d " ++
  "[input-file]...").toList

/-- Changes each line by some commands. -/
def sed (self : String) (args : List Raw) : Act Nat := do
  let me := self.toList
  match Letter.split grammar args with
  | .error f => (Notice.complain (me ++ ": ".toList ++ f.text ++ '\n' :: usage) 1).act self 1
  | .ok (os, names) =>
    let given := os.any fun o => o.1 = 'e' || o.1 = 'f'
    let texts ← scriptTexts me os
    if !given && names = [] then (Notice.complain usage 1).act self 1
    else
      let texts := if given then texts else names.take 1
      let names := if given then names else names.tail
      let script := ['\n'].intercalate texts
      let y : Spelling := ⟨Letter.has 'E' os || Letter.has 'r' os⟩
      match read y script with
      | .error f => (Notice.complain (faultLine me texts script f) 1).act self 1
      | .ok cs =>
        let silent := (texts.headD []).take 2 = ['#', 'n'] &&
          ((texts.headD []).drop 2).head?.all (· = '\n')
        let m : Manner := {
          self := me, stop := if Letter.has 'z' os then '\x00' else '\n'
          quiet := Letter.has 'n' os || silent
          separate := Letter.has 's' os || Letter.has 'i' os
          inPlace := Letter.value? 'i' os
          width := ((Letter.value? 'l' os).bind Numeral.natural?).getD 70 }
        let m := if m.width = 1 then { m with width := 0 } else m
        let array := cs.toArray
        if m.inPlace.isSome && names = [] then
          (Notice.complain (me ++ ": no input files".toList) 4).act self 4
        else
          let files ← openOutlets me (outlets cs)
          let start : State := {
            feed := { names := if names = [] then [['-']] else names, stop := m.stop }
            ranges := begun array, out := { sink := { stream := 1 } }, files }
          let work : Work (Option Nat) :=
            if m.inPlace.isSome then changeFiles m array names
            else if m.separate && 1 < names.length then readFiles m array names
            else lines m array Act.patience false
          let (code, s) ← work.run start
          let sink ← s.out.sink.flush
          match sink.fault with
          | some .EBADF =>
            Notice.warn (me ++ ": couldn't close stdout: ".toList ++ Errno.EBADF.text.toList)
            return 4
          | some e =>
            Notice.warn (me ++ ": couldn't flush stdout: ".toList ++ e.text.toList)
            return 4
          | none => return if code.getD 0 ≠ 0 then code.getD 0 else s.code

end ServiceStack.Edit
