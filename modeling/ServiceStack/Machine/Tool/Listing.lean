import ServiceStack.Machine.Shell.Pattern
import ServiceStack.Machine.Tool.Status

/-!
The program that lists files and what directories hold, one name in a line, between commas, or with
what is known of each file.
-/

namespace ServiceStack.Listing

/-- A file with the name that is shown, and the path that leads to it. -/
structure Entry where
  name : Raw
  path : Raw
  state : FileState
  target : Option Raw

inductive Order where
  | name | size | version | ending | none
deriving DecidableEq, Repr

inductive Quoting where
  | literal | visible | escapes | text | shell
deriving DecidableEq, Repr

/-- How files are listed. -/
structure Style where
  /-- names with a dot in front are shown, and the two that every directory has -/
  hidden : Bool := false
  dots : Bool := false
  asFiles : Bool := false
  /-- directories below a directory are listed too -/
  deep : Bool := false
  follow : Bool := false
  reversed : Bool := false
  order : Order := .name
  quoting : Quoting := .literal
  /-- marks behind names: of all kinds, or of directories -/
  marks : Bool := false
  slashes : Bool := false
  commas : Bool := false
  across : Bool := false
  long : Bool := false
  owner : Bool := true
  group : Bool := true
  numbers : Bool := false
  blocks : Bool := false
  inodes : Bool := false
  human : Bool := false
  /-- patterns of names that are passed over -/
  without : List Raw := []
  stop : Char := '\n'

/-! ### Names -/

/-- Names with numbers in them are put in the order of the numbers. -/
def versionLess : Nat → Raw → Raw → Bool
  | 0, _, _ => false
  | _, [], ys => ys ≠ []
  | _, _ :: _, [] => false
  | n + 1, x :: xs, y :: ys =>
    if x.isDigit && y.isDigit then
      let take := fun (cs : Raw) => cs.takeWhile Char.isDigit
      let a := Numeral.ofDigits 10 (take (x :: xs))
      let b := Numeral.ofDigits 10 (take (y :: ys))
      if a = b then versionLess n ((x :: xs).drop (take (x :: xs)).length)
        ((y :: ys).drop (take (y :: ys)).length)
      else a < b
    else if x = y then versionLess n xs ys
    else if x.isDigit ≠ y.isDigit then x.isDigit
    else if x.isAlpha ≠ y.isAlpha then x.isAlpha
    else x < y

def ending (name : Raw) : Raw :=
  if name.contains '.' then (name.reverse.takeWhile (· ≠ '.')).reverse else []

def Style.before (y : Style) (a b : Entry) : Bool :=
  let byName : Bool := !(b.name < a.name)
  let ordered := match y.order with
    | .size => if a.state.size = b.state.size then byName else b.state.size < a.state.size
    | .version =>
      if versionLess (a.name.length + 1) a.name b.name then true
      else if versionLess (a.name.length + 1) b.name a.name then false
      else byName
    | .ending =>
      if ending a.name = ending b.name then byName else !(ending b.name < ending a.name)
    | _ => byName
  ordered

def Style.sorted (y : Style) (es : List Entry) : List Entry :=
  let es := if y.order = .none then es else es.mergeSort y.before
  if y.reversed then es.reverse else es

def escaped (blanks : Bool) (quote : Option Char) (name : Raw) : Raw :=
  name.flatMap fun c =>
    if c = '\\' || some c = quote then ['\\', c]
    else if c = ' ' then (if blanks then ['\\', ' '] else [' '])
    else match EscapeStyle.commonLetters.find? fun l => l.2 = c.toNat && l.1 ≠ 'e' with
      | some l => ['\\', l.1]
      | none =>
        if c < ' ' || '~' < c then '\\' :: Numeral.padZeros 3 (Numeral.natText 8 c.toNat) else [c]

def Style.quoted (y : Style) (name : Raw) : Raw :=
  match y.quoting with
  | .literal => name
  | .visible => name.map fun c => if c < ' ' || '~' < c then '?' else c
  | .escapes => escaped true none name
  | .text => '"' :: escaped false (some '"') name ++ ['"']
  | .shell => Quotation.word name

/-- The mark of the kind of a file. -/
def Style.mark (y : Style) (f : FileState) : Raw :=
  match f.kind with
  | .directory => if y.marks || y.slashes then ['/'] else []
  | .regular => if y.marks && Disk.mayRun f.rights then ['*'] else []
  | .link => if y.marks && !y.long then ['@'] else []
  | .pipe => if y.marks then ['|'] else []
  | .device => []

/-! ### Rows -/

/-- A size with a letter for its magnitude. -/
def magnitude (n : Nat) : Raw :=
  if n < 1024 then Numeral.natText 10 n
  else
    let powers := (List.range 8).filter fun p => Nat.pow 1024 (p + 1) ≤ n
    let p := powers.length
    let unit := Nat.pow 1024 p
    let tenths := (n * 10 + unit - 1) / unit
    let letter := ['K', 'M', 'G', 'T', 'P', 'E', 'Z', 'Y'].getD (p - 1) 'K'
    (if tenths < 100 then
        Numeral.natText 10 (tenths / 10) ++ '.' :: Numeral.natText 10 (tenths % 10)
      else Numeral.natText 10 ((n + unit - 1) / unit)) ++ [letter]

/-- How much of the machine a file takes, in kilobytes. -/
def kilobytes (f : FileState) : Nat :=
  match f.kind with
  | .directory | .regular => (f.size + 4095) / 4096 * 4
  | _ => 0

def right (width : Nat) (t : Raw) : Raw := List.replicate (width - t.length) ' ' ++ t

/-- A size, or the two numbers of a device. -/
def Style.sizeText (y : Style) (s : Scene) (e : Entry) : Raw :=
  let facts := Status.Facts.of s e.path e.state
  if e.state.kind = .device then
    Numeral.natText 10 facts.device.1 ++ ", ".toList ++ Numeral.natText 10 facts.device.2
  else if y.human then magnitude e.state.size
  else Numeral.natText 10 e.state.size

/-- The columns of a file before its name. -/
def Style.columns (y : Style) (s : Scene) (e : Entry) : List Raw :=
  let facts := Status.Facts.of s e.path e.state
  let name := fun (shown : Bool) =>
    if shown then [if y.numbers then ['0'] else "root".toList] else []
  (if y.inodes then [Numeral.natText 10 facts.number] else []) ++
  (if y.blocks then [if y.human then magnitude (1024 * kilobytes e.state)
    else Numeral.natText 10 (kilobytes e.state)] else []) ++
  if y.long then
    [facts.rightsText, Numeral.natText 10 facts.names] ++ name y.owner ++ name y.group ++
      [y.sizeText s e, Status.Facts.time.text "%b %e %H:%M".toList]
  else []

def Style.shown (y : Style) (e : Entry) : Raw :=
  y.quoted e.name ++ y.mark e.state ++ match y.long, e.target with
    | true, some t => " -> ".toList ++ y.quoted t
    | _, _ => []

/-- Rows of files, with their columns in line. -/
def Style.rows (y : Style) (s : Scene) (es : List Entry) : Raw :=
  let rows := es.map fun e => (y.columns s e, y.shown e)
  let widths := rows.foldl (fun (ws : List Nat) r =>
    if ws = [] then r.1.map List.length
    else ws.zipWith max (r.1.map List.length)) []
  let lines := rows.map fun r =>
    (r.1.zip widths).flatMap (fun (t, w) => right w t ++ [' ']) ++ r.2
  if y.commas then
    (if lines = [] then [] else [',', ' '].intercalate lines ++ ['\n'])
  else if y.across then
    (if lines = [] then [] else [' ', ' '].intercalate lines ++ ['\n'])
  else lines.flatMap (· ++ [y.stop])

/-! ### Directories -/

/-- What is known of the file at a path, or why nothing is. -/
def Style.entry (y : Style) (s : Scene) (top : Bool) (path name : Raw) : Except Errno Entry :=
  let looks := y.follow || top && !y.long && !y.asFiles && !y.marks
  let found := match s.state? looks path with
    | .error e => if looks && !y.follow then s.state? false path else .error e
    | r => r
  found.map fun f =>
    ⟨name, path, f, if f.kind = .link then (PathName.linkText? s path).toOption else none⟩

/-- The names in a directory. -/
def namesIn (s : Scene) (path : Raw) : List Raw :=
  match s.disk.resolve s.place (Raw.toOctets path) with
  | .ok (.inode n) =>
    match s.disk.content? n with
    | some .streams => s.streams.map fun t => Numeral.natText 10 t.1
    | _ => (s.disk.entries n).map fun e => Raw.ofOctets e.1
  | _ => []

/-- Whether a name in a directory is passed over. A dot in front is matched only by itself. -/
def Style.skips (y : Style) (name : Raw) : Bool :=
  !y.hidden && name.head? = some '.' || y.without.any fun p =>
    (name.head? ≠ some '.' || p.head? = some '.') &&
      Shell.Pattern.isMatch { caret := true } (p.map (·, false)) name

/-- What a directory holds, in rows, and below it what its directories hold. -/
def Style.directory (y : Style) (s : Scene) : Nat → Bool → Raw → Raw
  | 0, _, _ => []
  | fuel + 1, headed, path =>
    let names := (if y.dots then [['.'], ['.', '.']] else []) ++
      (namesIn s path).filter fun n => !y.skips n
    let es := y.sorted (names.filterMap fun n =>
      (y.entry s false (PathName.join path n) n).toOption)
    let total := (es.map fun e => kilobytes e.state).foldl (· + ·) 0
    let head := if headed then y.quoted path ++ [':', '\n'] else []
    let sum := if y.long || y.blocks then
        let size := if y.human then magnitude (1024 * total) else Numeral.natText 10 total
        "total ".toList ++ size ++ ['\n']
      else []
    let below := if y.deep then
        es.filter fun e => e.state.kind = .directory && e.name ≠ ['.'] && e.name ≠ ['.', '.']
      else []
    head ++ sum ++ y.rows s es ++
      below.flatMap fun e => '\n' :: directory y s fuel true e.path

/-! ### The program -/

def orders : List (String × Order) := [
  ("none", .none), ("time", .name), ("size", .size), ("extension", .ending),
  ("version", .version), ("width", .name)]

def quotings : List (String × Quoting) := [
  ("literal", .literal), ("shell", .shell), ("shell-always", .shell), ("shell-escape", .shell),
  ("shell-escape-always", .shell), ("c", .text), ("c-maybe", .text), ("escape", .escapes),
  ("locale", .text), ("clocale", .text)]

def grammar : Letter.Grammar where
  plain := "abcdfghiklmnopqrstuvxABCDFGHLNQRSUXZ1"
  valued := "wTIyzJ"
  optional := "e"
  long := [("all", 'a'), ("almost-all", 'A'), ("escape", 'b'), ("ignore-backups", 'B'),
    ("directory", 'd'), ("classify", 'F'), ("no-group", 'G'), ("human-readable", 'h'),
    ("dereference", 'L'), ("dereference-command-line", 'H'), ("inode", 'i'), ("ignore", 'I'),
    ("literal", 'N'), ("numeric-uid-gid", 'n'), ("indicator-style", 'e'), ("quote-name", 'Q'),
    ("quoting-style", 'y'), ("reverse", 'r'), ("recursive", 'R'), ("size", 's'), ("sort", 'z'),
    ("width", 'w'), ("color", 'e'), ("si", 'h'), ("kibibytes", 'k'), ("zero", '1'),
    ("group-directories-first", 'k'), ("hide-control-chars", 'q'), ("full-time", 'l'),
    ("format", 'e'), ("file-type", 'p'), ("hide", 'J'), ("time", 'e'), ("time-style", 'e')]

def styleOf (os : List (Char × Raw)) (orderWord : Option Order) (quoteWord : Option Quoting) :
    Style :=
  let has := fun (c : Char) => Letter.has c os
  let lastOf := fun (cs : String) => Letter.last? cs os
  let format := lastOf "1mxClgno"
  let longAsked := os.any fun o => "lgno".contains o.1
  { hidden := os.any fun o => "aAf".contains o.1
    dots := (lastOf "aAf").any (· ≠ 'A')
    asFiles := has 'd'
    deep := has 'R' && !has 'd'
    follow := has 'L'
    reversed := has 'r'
    order := match lastOf "SUvXftz" with
      | some 'S' => .size
      | some 'U' | some 'f' => .none
      | some 'v' => .version
      | some 'X' => .ending
      | some 'z' => orderWord.getD .name
      | _ => .name
    quoting := match lastOf "NbQqy" with
      | some 'b' => .escapes
      | some 'Q' => .text
      | some 'q' => .visible
      | some 'y' => quoteWord.getD .literal
      | _ => .literal
    marks := lastOf "Fp" = some 'F'
    slashes := lastOf "Fp" = some 'p'
    commas := format = some 'm'
    across := format = some 'x' || format = some 'C'
    long := longAsked && format ≠ some 'm' && format ≠ some 'x' && format ≠ some 'C'
    owner := !has 'g'
    group := !has 'o' && !has 'G'
    numbers := has 'n'
    blocks := has 's'
    inodes := has 'i'
    human := has 'h'
    without := (if has 'B' then ["*~".toList, ".*~".toList] else []) ++ os.filterMap fun o =>
      if o.1 = 'I' || o.1 = 'J' && !has 'a' && !has 'A' then some o.2 else none }

/-- What is written for files and directories: complaints, files, and directories one by one. -/
def Style.list (y : Style) (self : String) (s : Scene) (names : List Raw) : Notice :=
  let names := if names = [] then [['.']] else names
  let found := names.map fun n => (n, y.entry s true n n)
  let faults := found.filterMap fun r => match r.2 with
    | .error e => some (2, self.toList ++ ": cannot access ".toList ++ Quotation.always r.1 ++
        ": ".toList ++ e.text.toList ++ ['\n'])
    | .ok _ => none
  let es := y.sorted (found.filterMap fun r => r.2.toOption)
  let isListed := fun (e : Entry) => e.state.isDirectory && !y.asFiles
  let files := es.filter fun e => !isListed e
  let directories := es.filter isListed
  let headed : Bool := 1 < names.length || y.deep
  let blocks := (if files = [] then [] else [y.rows s files]) ++
    directories.map fun e => y.directory s Disk.pathLimit headed e.path
  ⟨faults ++ [(1, ['\n'].intercalate blocks)], if faults = [] then 0 else 2⟩

/-- Lists files as words ask for, behind letters that are always given. -/
def ls (letters : String) (self : String) (s : Scene) (args : List Raw) : Notice :=
  match Letter.split grammar args with
  | .error f => f.report self 2
  | .ok (os, names) =>
    let os := letters.toList.map (·, []) ++ os
    let orderWord := (Letter.value? 'z' os).map fun v => (v, Letter.choose? orders v)
    let quoteWord := (Letter.value? 'y' os).map fun v => (v, Letter.choose? quotings v)
    match orderWord, quoteWord with
    | some (v, none), _ =>
      Letter.usage self (Letter.refusedChoice "--sort" v (orders.map Prod.fst)) 1
    | _, some (v, none) =>
      Letter.usage self (Letter.refusedChoice "--quoting-style" v (quotings.map Prod.fst)) 1
    | order, quote =>
      (styleOf os (order.bind Prod.snd) (quote.bind Prod.snd)).list self s names

end ServiceStack.Listing
