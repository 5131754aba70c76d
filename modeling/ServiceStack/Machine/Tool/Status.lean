import ServiceStack.Machine.Scenery
import ServiceStack.Machine.Tool.Escape
import ServiceStack.Machine.Tool.PathName
import ServiceStack.Machine.Tool.Printf
import ServiceStack.Text.Calendar
import ServiceStack.Text.Rights

/-!
The program that tells what is known of files, in a format of directives: a percent sign, flags, a
width, places and a letter. A letter that tells nothing is a question mark.
-/

namespace ServiceStack.Status

/-- A directive behind its percent sign. -/
structure Directive where
  flags : Raw
  width : Nat
  places : Option Nat
  letter : Char
deriving DecidableEq, Repr

/-- What is known of a file. -/
structure Facts where
  name : Raw
  /-- where it leads, if it is a link -/
  target : Option Raw
  state : FileState
  number : Nat
  /-- the two numbers of a device -/
  device : Nat × Nat := (0, 0)

/-! ### What is known -/

def deviceNumbers : Device → Nat × Nat
  | .null => (1, 3)
  | .zero => (1, 5)
  | .full => (1, 7)
  | .noise n => (1, n)
  | .terminal => (5, 0)

/-- What is known of a file whose state has been found. -/
def Facts.of (s : Scene) (name : Raw) (f : FileState) : Facts :=
  let link := if f.kind = .link then (PathName.linkText? s name).toOption else none
  match f.target with
  | .inode n =>
    match s.disk.content? n with
    | some (.device d) => ⟨name, link, f, n + 2, deviceNumbers d⟩
    | _ => ⟨name, link, f, n + 2, (0, 0)⟩
  | _ => ⟨name, link, f, 2, (0, 0)⟩

/-- The state of the file at a path, or of the input if that is a dash. -/
def state? (s : Scene) (follow : Bool) (name : Raw) : Except Errno FileState :=
  if name = ['-'] then s.state? true "/dev/stdin".toList else s.state? follow name

namespace Facts

def kindText (f : Facts) : String :=
  match f.state.kind with
  | .directory => "directory"
  | .regular => if f.state.size = 0 then "regular empty file" else "regular file"
  | .device => "character special file"
  | .pipe => "fifo"
  | .link => "symbolic link"

/-- The letter of the kind, and its number among the rights. -/
def kindMark (f : Facts) : Char × Nat :=
  match f.state.kind with
  | .directory => ('d', 0o040000)
  | .regular => ('-', 0o100000)
  | .device => ('c', 0o020000)
  | .pipe => ('p', 0o010000)
  | .link => ('l', 0o120000)

def rights (f : Facts) : Nat := if f.state.kind = .link then 0o777 else f.state.rights

def rightsText (f : Facts) : Raw := f.kindMark.1 :: Rights.text f.rights

/-- All files are as old as the machine. -/
def time : Moment := Moment.ofSeconds Act.firstSecond 0

def timeText : Raw := time.text "%Y-%m-%d %H:%M:%S.%N %z".toList

def blocks (f : Facts) : Nat :=
  match f.state.kind with
  | .directory | .regular => (f.state.size + 4095) / 4096 * 8
  | _ => 0

def names (f : Facts) : Nat := if f.state.kind = .directory then 2 else 1

/-- The device that holds the file. -/
def home (f : Facts) : Nat × Nat :=
  if f.state.kind = .device then (0, 6) else (254, 0)

end Facts

/-- The name, and where it leads, quoted in some way. -/
def Facts.shown (f : Facts) (quoted : Raw → Raw) : Raw :=
  quoted f.name ++ match f.target with
    | some t => " -> ".toList ++ quoted t
    | none => []

/-! ### Formats -/

/-- What a directive tells: a number in some writing, or a text. -/
inductive Value where
  | number (writing : Char) (n : Nat)
  | text (t : Raw)
  | missing

def Facts.value (f : Facts) : Char → Value
  | 'a' => .number 'o' f.rights
  | 'A' => .text f.rightsText
  | 'b' => .number 'u' f.blocks
  | 'B' => .number 'u' 512
  | 'd' => .number 'u' (f.home.1 * 256 + f.home.2)
  | 'D' => .number 'x' (f.home.1 * 256 + f.home.2)
  | 'f' => .number 'x' (f.kindMark.2 + f.rights)
  | 'F' => .text f.kindText.toList
  | 'g' | 'u' => .number 'u' 0
  | 'G' | 'U' => .text "root".toList
  | 'h' => .number 'u' f.names
  | 'i' => .number 'u' f.number
  | 'm' => .text (if f.state.kind = .device then "/dev".toList else ['/'])
  | 'n' => .text f.name
  | 'N' => .text (f.shown Quotation.always)
  | 'o' => .number 'u' 4096
  | 's' => .number 'u' f.state.size
  | 't' => .number 'x' f.device.1
  | 'T' => .number 'x' f.device.2
  | 'r' => .number 'u' (f.device.1 * 256 + f.device.2)
  | 'R' => .number 'x' (f.device.1 * 256 + f.device.2)
  | 'w' | 'x' | 'y' | 'z' => .text Facts.timeText
  | 'W' | 'X' | 'Y' | 'Z' => .number 'd' Act.firstSecond
  | _ => .missing

/-- What a letter behind `H` or `L` tells: one of the two numbers of a device. -/
def Facts.half (f : Facts) (high : Bool) : Char → Value
  | 'd' => .number 'u' (if high then f.home.1 else f.home.2)
  | 'r' => .number 'u' (if high then f.device.1 else f.device.2)
  | _ => .missing

/-- What is known of the whole file system. -/
def systemValue (name : Raw) : Char → Value
  | 'n' => .text name
  | 'l' => .number 'u' 255
  | 's' | 'S' => .number 'u' 4096
  | 't' => .number 'x' 0xEF53
  | 'T' => .text "ext2/ext3".toList
  | 'a' | 'b' | 'c' | 'd' | 'f' => .number 'u' 0
  | 'i' => .number 'x' 0
  | _ => .missing

def Value.written (d : Directive) : Value → Raw
  | .missing => ['?']
  | .text t =>
    let t := match d.places with
      | some n => t.take n
      | none => t
    Printf.pad (d.flags.filter (· = '-')) d.width t
  | .number writing n =>
    let known := if writing = 'd' then "-+ 0" else if writing = 'u' then "-0" else "-#0"
    Printf.integerText (d.flags.filter fun c => known.contains c) d.width d.places writing n

/-- A directive, and how many characters it takes. -/
def directive (cs : Raw) : Directive × Nat :=
  let flags := cs.takeWhile fun c => "'-+ #0I".contains c
  let rest := cs.drop flags.length
  let width := rest.takeWhile Char.isDigit
  let rest := rest.drop width.length
  let (places, size) := match rest with
    | '.' :: more =>
      let ds := more.takeWhile Char.isDigit
      (some (Numeral.ofDigits 10 ds), ds.length + 1)
    | _ => (none, 0)
  (⟨flags, Numeral.ofDigits 10 width, places, (rest.drop size).headD '%'⟩,
    flags.length + width.length + size)

/-- What is written for a file: texts for the output and for complaints. A bad directive ends the
program. -/
structure Written where
  writes : List (Nat × Raw) := []
  fails : Bool := false
  ends : Bool := false

def Written.then (w : Written) (t : Raw) : Written := { w with writes := (1, t) :: w.writes }

/-- How texts are written for a file: what a letter tells, what it tells behind another letter, and
whether escapes are read. -/
structure Manner where
  self : Raw
  value : Char → Value
  half : Bool → Char → Value
  escapes : Bool
  /-- what is told when the context of a file is asked for, which none has -/
  contextFault : Raw := []

/-- The escapes of a format. -/
def escapeStyle : EscapeStyle where
  letters := ('"', 34) :: EscapeStyle.commonLetters
  zero := false
  cut := false
  hex := true

/-- An escape, the complaint about it, and how much of the text behind the backslash it takes. -/
def escape (self cs : Raw) : List (Nat × Raw) × Nat :=
  let warning := fun (t : String) => (2, self ++ ": warning: ".toList ++ t.toList)
  match cs with
  | [] => ([warning "backslash at end of format\n", (1, ['\\'])], 0)
  | c :: _ =>
    match escapeStyle.read cs with
    | (.text t, n) =>
      if t = ['\\', c] then
        ([warning "unrecognized escape '\\", (2, [c, '\'', '\n']), (1, [c])], 1)
      else ([(1, t)], n)
    | _ => ([], 1)

/-- Writes a format for a file. -/
def Manner.write (m : Manner) : Nat → Raw → Written
  | 0, _ | _, [] => {}
  | fuel + 1, '%' :: cs =>
    let (d, size) := directive cs
    let rest := cs.drop (size + 1)
    if d.letter = '%' then
      if size = 0 then (m.write fuel rest).then ['%']
      else
        let shown := '%' :: cs.take (size + 1)
        { writes := [(2, m.self ++ ": ".toList ++ Quotation.text shown ++
            ": invalid directive\n".toList)]
          ends := true }
    else
      let (value, rest) : Value × Raw :=
        if d.letter = 'H' || d.letter = 'L' then
          match m.half (d.letter = 'H') (rest.headD ' ') with
          | .missing => (.missing, rest)
          | v => (v, rest.tail)
        else (m.value d.letter, rest)
      let after := (m.write fuel rest).then (value.written d)
      if d.letter = 'C' then
        { after with fails := true, writes := (2, m.contextFault) :: after.writes }
      else after
  | fuel + 1, c :: cs =>
    if c = '\\' && m.escapes then
      let (ws, size) := escape m.self cs
      let after := m.write fuel (cs.drop size)
      { after with writes := ws ++ after.writes }
    else (m.write fuel cs).then [c]

/-! ### The program -/

def terse : String := "%n %s %b %f %u %g %D %i %h %t %T %X %Y %Z %W %o\n"

def usual (f : Facts) : String :=
  "  File: " ++ String.ofList ((f.shown Quotation.word).flatMap doubled) ++
  "\n  Size: %-10s\tBlocks: %-10b IO Block: %-6o %F\nDevice: %Hd,%Ld\tInode: %-10i  Links: " ++
  (if f.state.kind = .device then "%-5h Device type: %Hr,%Lr\n" else "%h\n") ++
  "Access: (%04a/%10.10A)  Uid: (%5u/%8U)   Gid: (%5g/%8G)\n" ++
  "Access: %x\nModify: %y\nChange: %z\n Birth: %w\n"
where
  doubled (c : Char) : Raw := if c = '%' then ['%', '%'] else [c]

def systemTerse : String := "%n %i %l %t %s %S %b %f %a %c %d\n"

def systemUsual : String :=
  "  File: \"%n\"\n    ID: %-8i Namelen: %-7l Type: %T\n" ++
  "Block size: %-10s Fundamental block size: %S\n" ++
  "Blocks: Total: %-10b Free: %-10f Available: %a\nInodes: Total: %-10c Free: %d\n"

def grammar : Letter.Grammar where
  plain := "Lft"
  valued := "cPq"
  long := [("dereference", 'L'), ("file-system", 'f'), ("format", 'c'), ("printf", 'P'),
    ("terse", 't'), ("cached", 'q')]

def cacheChoices : List (String × Unit) := [("default", ()), ("never", ()), ("always", ())]

/-- A format, an end for it, and whether its escapes are read. -/
structure Format where
  text : Raw
  escapes : Bool := false

def formatOf (os : List (Char × Raw)) (usual : String) : Format :=
  match os.reverse.find? fun o => o.1 = 'c' || o.1 = 'P' with
  | some ('c', f) => ⟨f, false⟩
  | some (_, f) => ⟨f, true⟩
  | none => ⟨usual.toList, false⟩

/-- What is written for one file. -/
def tell (self : Raw) (s : Scene) (os : List (Char × Raw)) (name : Raw) : Written :=
  let stop : Raw := if Letter.last? "cP" os = some 'c' then ['\n'] else []
  let finish := fun (m : Manner) (f : Format) =>
    let w := m.write (f.text.length + 1) f.text
    if w.ends then w else { w with writes := w.writes ++ [(1, stop)] }
  let refuse := fun (verb : String) (e : Errno) =>
    { writes := [(2, self ++ (": cannot " ++ verb ++ " ").toList ++ Quotation.always name ++
        ": ".toList ++ e.text.toList ++ ['\n'])], fails := true : Written }
  let isTerse := Letter.has 't' os
  if Letter.has 'f' os then
    if name = ['-'] then
      { writes := [(2, self ++
          ": using '-' to denote standard input does not work in file system mode\n".toList)]
        fails := true }
    else match state? s true name with
      | .error e => refuse "read file system information for" e
      | .ok _ =>
        let f := formatOf os (if isTerse then systemTerse else systemUsual)
        finish ⟨self, systemValue name, fun _ _ => .missing, f.escapes, []⟩ f
  else match state? s (Letter.has 'L' os) name with
    | .error e => refuse (if name = ['-'] then "stat standard input" else "statx") e
    | .ok state =>
      let facts := Facts.of s name state
      let f := formatOf os (if isTerse then terse else usual facts)
      let fault := self ++ ": failed to get security context of ".toList ++
        Quotation.always name ++ ": No data available\n".toList
      finish ⟨self, facts.value, facts.half, f.escapes, fault⟩ f

/-- What is written for files in turn. -/
def tellEach (self : Raw) (s : Scene) (os : List (Char × Raw)) : List Raw → Written
  | [] => {}
  | name :: names =>
    let w := tell self s os name
    if w.ends then w
    else
      let r := tellEach self s os names
      ⟨w.writes ++ r.writes, w.fails || r.fails, r.ends⟩

def stat (self : String) (s : Scene) (args : List Raw) : Notice :=
  match Letter.split grammar args with
  | .error f => f.report self 1
  | .ok (os, names) =>
    let bad := os.find? fun o => o.1 = 'q' && (Letter.choose? cacheChoices o.2).isNone
    match bad, names with
    | some o, _ =>
      Letter.usage self (Letter.refusedChoice "--cached" o.2 (cacheChoices.map Prod.fst)) 1
    | none, [] => PathName.missingOperand self 1
    | none, names =>
      let w := tellEach self.toList s os names
      ⟨Printf.joined w.writes, if w.fails || w.ends then 1 else 0⟩

end ServiceStack.Status
