import ServiceStack.Machine.Signal
import ServiceStack.Machine.Tool.Feed
import ServiceStack.Machine.Tool.Letter
import ServiceStack.Machine.Tool.Size

/-!
The first or the last part of texts, counted in lines or in bytes.
-/

namespace ServiceStack.Part

/-- What is taken of each text. -/
structure Style where
  bytes : Bool := false
  count : Nat := 10
  /-- from the other side: all but the last, or all from some place on -/
  inverted : Bool := false
  stop : Char := '\n'
  /-- whether names stand before the parts; otherwise they do if there are several -/
  titled : Option Bool := none
deriving Repr

/-- The lines of a text, each with what ends it. -/
def segments (stop : Char) (text : Raw) : List Raw := go [] text
where
  go (line : Raw) : Raw → List Raw
    | [] => if line = [] then [] else [line.reverse]
    | c :: cs => if c = stop then (stop :: line).reverse :: go [] cs else go (c :: line) cs

def Style.firstOf (y : Style) {α : Type} (xs : List α) : List α :=
  if y.inverted then xs.take (xs.length - y.count) else xs.take y.count

def Style.lastOf (y : Style) {α : Type} (xs : List α) : List α := xs.drop (xs.length - y.count)

/-- The name of a text as it is told. -/
def shownName (name : Raw) : Raw := if name = ['-'] then "standard input".toList else name

def quoted (name : Raw) : Raw := Quotation.always (shownName name)

def title (first : Bool) (name : Raw) : Raw :=
  (if first then [] else ['\n']) ++ "==> ".toList ++ shownName name ++ " <==\n".toList

/-! ### What is written -/

/-- Why a text was left: a fault of reading, or one of writing. -/
inductive Trouble where
  | reading (e : Errno)
  | writing (e : Errno)

abbrev Copied := Except Trouble Unit

def send (text : Raw) : Act Copied := do
  match ← Act.write 1 text with
  | .ok () => return .ok ()
  | .error e => return .error (.writing e)

/-- How much is read at once. -/
def blockSize : Nat := 8192

/-- Writes so many bytes of a stream, and reads no more. -/
def sendBytes (stream : Nat) : Nat → Nat → Act Copied
  | 0, _ | _, 0 => return .ok ()
  | fuel + 1, n => do
    match ← Act.ask (.read stream (min n blockSize)) with
    | .error .EINTR => sendBytes stream fuel n
    | .error e => return .error (.reading e)
    | .ok [] => return .ok ()
    | .ok block =>
      match ← send block with
      | .ok () => sendBytes stream fuel (n - block.length)
      | r => return r

/-- Writes so many lines of a stream, and gives back what was read beyond them. -/
def sendLines (stop : Char) (stream : Nat) : Nat → Nat → Act Copied
  | 0, _ | _, 0 => return .ok ()
  | fuel + 1, n => do
    match ← Act.ask (.read stream blockSize) with
    | .error .EINTR => sendLines stop stream fuel n
    | .error e => return .error (.reading e)
    | .ok [] => return .ok ()
    | .ok block =>
      let part := ((segments stop block).take n).flatten
      let left := n - part.count stop
      if left = 0 && part.length < block.length then
        let _ ← Act.ask (.back stream (block.length - part.length))
      match ← send part with
      | .ok () => sendLines stop stream fuel left
      | r => return r

/-- Writes a stream without so many bytes or lines at its start. -/
def sendBehind (y : Style) (stream : Nat) : Nat → Nat → Act Copied
  | 0, _ => return .ok ()
  | fuel + 1, n => do
    match ← Act.ask (.read stream blockSize) with
    | .error .EINTR => sendBehind y stream fuel n
    | .error e => return .error (.reading e)
    | .ok [] => return .ok ()
    | .ok block =>
      let front := if y.bytes then block.take n else ((segments y.stop block).take n).flatten
      let left := n - if y.bytes then front.length else front.count y.stop
      match ← send (if n = 0 then block else block.drop front.length) with
      | .ok () => sendBehind y stream fuel left
      | r => return r

/-- Writes what a function makes of a whole stream. -/
def sendWhole (stream : Nat) (f : Raw → Raw) : Act Copied := do
  match ← Act.readAll stream with
  | .error e => return .error (.reading e)
  | .ok text => send (f text)

def Style.pick (y : Style) (f : {α : Type} → List α → List α) (text : Raw) : Raw :=
  if y.bytes then f text else (f (segments y.stop text)).flatten

def Style.sendHead (y : Style) (stream : Nat) : Act Copied :=
  if y.inverted then sendWhole stream (y.pick y.firstOf)
  else if y.bytes then sendBytes stream Act.patience y.count
  else sendLines y.stop stream Act.patience y.count

def Style.sendTail (y : Style) (stream : Nat) : Act Copied :=
  if y.inverted then sendBehind y stream Act.patience (y.count - 1)
  else sendWhole stream (y.pick y.lastOf)

/-- Writes the parts of some files. Tells the code and how many of them were opened. -/
def parts (self : String) (y : Style) (take : Nat → Act Copied) (opening : String) :
    Bool → List Raw → Act (Nat × Nat)
  | _, [] => return (0, 0)
  | first, name :: names => do
    let warn (text : Raw) : Act Unit := Notice.warn (self.toList ++ ": ".toList ++ text)
    let opened : Except Errno Nat ← if name = ['-'] then pure (.ok 0) else Act.openToRead name
    match opened with
    | .error e =>
      warn ("cannot open ".toList ++ quoted name ++ " for reading: ".toList ++ e.text.toList)
      return (1, (← parts self y take opening first names).2)
    | .ok stream =>
      let titles ← if y.titled = some true then send (title first name) else pure (.ok ())
      let r ← match titles with
        | .ok () => take stream
        | r => pure r
      if stream ≠ 0 then Act.close stream
      match r with
      | .error (.writing e) =>
        warn ("write error: ".toList ++ e.text.toList)
        return (1, 0)
      | .error (.reading e) =>
        let what := if e = .EBADF then opening else "error reading"
        warn (what.toList ++ " ".toList ++ quoted name ++ ": ".toList ++ e.text.toList)
        let rest ← parts self y take opening false names
        if name = ['-'] && e = .EBADF then warn ("-: ".toList ++ e.text.toList)
        return (1, rest.2)
      | .ok () =>
        let rest ← parts self y take opening false names
        return (rest.1, rest.2 + 1)

/-! ### The words of the programs -/

/-- What a program is told by one of its options. -/
def Style.heed (plus : Char) (y : Style) (o : Char × Raw) : Except Raw Style := do
  match o.1 with
  | 'c' | 'n' =>
    let bytes := o.1 = 'c'
    let inverted := o.2.head? = some plus
    let digits := if inverted && plus = '-' || plus = '+' && o.2.head? = some '-' then o.2.tail
      else o.2
    let what := if bytes then "invalid number of bytes" else "invalid number of lines"
    match Size.read? Size.usual digits with
    | .ok count => return { y with bytes, inverted, count }
    | .error f => throw (f.text what digits)
  | 'q' => return { y with titled := some false }
  | 'v' => return { y with titled := some true }
  | 'z' => return { y with stop := '\x00' }
  | _ => return y

def Style.heedAll (plus : Char) (os : List (Char × Raw)) (y : Style) : Except Raw Style :=
  os.foldlM (Style.heed plus) y

/-- Names stand before the parts of several files unless it was asked otherwise. -/
def Style.settle (y : Style) (names : List Raw) : Style :=
  { y with titled := some (y.titled.getD (1 < names.length)) }

/-- What a first word of a dash, digits and letters tells. -/
def Style.ofWord (ds : Raw) : Style → Raw → Except Raw Style
  | y, [] =>
    match Size.read? Size.usual ds with
    | .ok count => .ok { y with count }
    | .error f => .error (f.text (if y.bytes then "invalid number of bytes"
        else "invalid number of lines") ds)
  | y, c :: cs =>
    let digits := ds.takeWhile Char.isDigit
    match c with
    | 'c' => Style.ofWord digits { y with bytes := true } cs
    | 'b' | 'k' | 'm' => Style.ofWord (digits ++ [c]) { y with bytes := true } cs
    | 'l' => Style.ofWord ds { y with bytes := false } cs
    | 'q' => Style.ofWord ds { y with titled := some false } cs
    | 'v' => Style.ofWord ds { y with titled := some true } cs
    | 'z' => Style.ofWord ds { y with stop := '\x00' } cs
    | c => .error ("invalid trailing option -- ".toList ++ [c])

def headGrammar : Letter.Grammar where
  plain := "qvz0123456789"
  valued := "cn"
  long := [("bytes", 'c'), ("lines", 'n'), ("quiet", 'q'), ("silent", 'q'), ("verbose", 'v'),
    ("zero-terminated", 'z')]

def head (self : String) (args : List Raw) : Act Nat := do
  let refuse (text : Raw) : Act Nat :=
    (Notice.complain (self.toList ++ ": ".toList ++ text) 1).act self 1
  let first : Except Raw Style × List Raw := match args with
    | ('-' :: d :: w) :: rest =>
      if d.isDigit then
        let ds := (d :: w).takeWhile Char.isDigit
        (Style.ofWord ds {} ((d :: w).drop ds.length), rest)
      else (.ok {}, args)
    | _ => (.ok {}, args)
  match first.1, Letter.split headGrammar first.2 with
  | .error t, _ =>
    if "invalid trailing".toList.isPrefixOf t then (Letter.usage self t 1).act self 1 else refuse t
  | _, .error f => (f.report self 1).act self 1
  | .ok y, .ok (os, names) =>
    match os.find? (·.1.isDigit) with
    | some o => (Letter.usage self ("invalid trailing option -- ".toList ++ [o.1]) 1).act self 1
    | none =>
      match y.heedAll '-' os with
      | .error t => refuse t
      | .ok y =>
        let names := if names = [] then [['-']] else names
        let y := y.settle names
        return (← parts self y y.sendHead "error reading" true names).1

/-! ### The last part -/

def tailGrammar : Letter.Grammar where
  plain := "fFqvzR0123456789"
  valued := "cnspu"
  optional := "="
  long := [("bytes", 'c'), ("lines", 'n'), ("quiet", 'q'), ("silent", 'q'), ("verbose", 'v'),
    ("zero-terminated", 'z'), ("follow", '='), ("retry", 'R'), ("sleep-interval", 's'),
    ("pid", 'p'), ("max-unchanged-stats", 'u')]

/-- An old way to ask for a part: a sign, digits, a unit and perhaps that the file is followed. -/
def oldForm? (args : List Raw) : Option (Style × Bool × List Raw) :=
  let fits : Bool := match args with
    | [_] => true
    | [_, b] => b.head? ≠ some '-' || b = ['-'] || b = ['-', '-']
    | [_, b, _] => b = ['-', '-']
    | _ => false
  match args with
  | (sign :: w) :: rest =>
    let ds := w.takeWhile Char.isDigit
    let after := w.drop ds.length
    let unit := after.head?.filter fun c => "bcl".contains c
    let after := if unit.isSome then after.tail else after
    let follows := after.head? = some 'f'
    let after := if follows then after.tail else after
    let plain := sign = '-' && (w = [] || w.head? = some 'c' && w.tail = [])
    if !fits || after ≠ [] || plain || !(sign = '-' || sign = '+') then none
    else
      let n := if ds = [] then 10 else Numeral.ofDigits 10 ds
      let rest := if rest.head? = some ['-', '-'] then rest.tail else rest
      some ({ bytes := unit.any (· ≠ 'l'), inverted := sign = '+'
              count := if unit = some 'b' then n * 512 else n }, follows, rest)
  | _ => none

/-- Waits as long as files can be followed. -/
def follow (self : String) (retries : Bool) (opened : Nat) (names : List Raw) (code : Nat) :
    Act Nat := do
  let scene ← Act.look
  let input := match scene.streams.lookup 0 with
    | some (.pipe _) | none => false
    | _ => true
  let lasting := retries || names.any fun name => name ≠ ['-'] || input
  if opened = 0 && !retries then
    Notice.warn (self.toList ++ ": no files remaining".toList)
    return 1
  else if lasting then
    let _ ← Act.ask .pause
    return code
  else return code

def tail (self : String) (args : List Raw) : Act Nat := do
  let refuse (text : Raw) : Act Nat :=
    (Notice.complain (self.toList ++ ": ".toList ++ text) 1).act self 1
  let run (y : Style) (follows retries : Bool) (names : List Raw) : Act Nat := do
    let names := if names = [] then [['-']] else names
    let y := y.settle names
    if y.count = 0 && !y.inverted && !follows then return 0
    else
      let (code, opened) ← parts self y y.sendTail "cannot fstat" true names
      if follows then follow self retries opened names code else return code
  match oldForm? args with
  | some (y, follows, names) => run y follows false names
  | none =>
    match Letter.split tailGrammar args with
    | .error f => (f.report self 1).act self 1
    | .ok (os, names) =>
      match os.find? (·.1.isDigit), Style.heedAll '+' os {} with
      | some o, _ => refuse ("option used in invalid context -- ".toList ++ [o.1])
      | none, .error t => refuse t
      | none, .ok y =>
        let follows := os.any fun o => "fF=".contains o.1
        let isBad := fun (a : Raw) => match Numeral.fraction? a with
          | some (false, _, []) => false
          | _ => true
        match (Letter.value? 's' os).filter isBad with
        | some a => refuse ("invalid number of seconds: ".toList ++ Quotation.text a)
        | none =>
          let retries := Letter.has 'F' os || Letter.has 'R' os
          if Letter.has 'R' os && !follows then
            Notice.warn (self.toList ++
              ": warning: --retry ignored; --retry is useful only when following".toList)
          run y follows (follows && retries) names

end ServiceStack.Part
