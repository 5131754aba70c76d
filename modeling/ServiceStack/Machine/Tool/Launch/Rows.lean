import ServiceStack.Machine.Tool.Launch.Basic

/-!
A command for each row of words of the input. Words are taken apart as they are read, and a command
is run as soon as its row is full. Quotes and backslashes keep blanks unless the words have an end
of their own.
-/

namespace ServiceStack.Launch

/-! ### Words of the input -/

/-- What is found in the input. -/
inductive Found where
  | word (w : Raw)
  /-- the end of a line that counts -/
  | line
  /-- the word that stands for the end of the input -/
  | last
  | unmatched (quote : Char)
  | tooLong
  /-- a byte of zero, for the first time -/
  | zero

/-- How words are taken apart. -/
structure Cut where
  /-- what ends each word, if that is one byte -/
  stop : Option Char := none
  /-- the word at which the input ends -/
  last : Option Raw := none
  /-- each line is one word -/
  lines : Bool := false
  /-- the longest word -/
  most : Nat

/-- Where the reading of words stands. -/
inductive Stance where
  | space
  | plain
  | quote (q : Char)
  | escape
deriving DecidableEq, Repr

structure Scan where
  stance : Stance := .space
  /-- the word that is read, its latest byte first -/
  word : Raw := []
  size : Nat := 0
  /-- whether any of a word was seen -/
  seen : Bool := false
  previous : Char := '\x00'
  /-- whether no word of this line was found before -/
  first : Bool := true
  warned : Bool := false
  ended : Bool := false

/-- A word up to a byte of zero, which no argument can hold. -/
def Scan.text (s : Scan) : Raw := s.word.reverse.takeWhile (· ≠ '\x00')

def Scan.keep (k : Cut) (s : Scan) (c : Char) : Scan × List Found :=
  if k.most ≤ s.size then ({ s with ended := true }, [.tooLong])
  else
    let isFirst := c = '\x00' && !s.warned && k.stop.isNone
    ({ s with word := c :: s.word, size := s.size + 1, warned := s.warned || isFirst },
      if isFirst then [.zero] else [])

/-- A word that ended, after which another one begins. -/
def Scan.close (k : Cut) (ends : Bool) (s : Scan) : Scan × List Found :=
  let fresh := { s with word := [], size := 0, seen := false, stance := .space, first := ends }
  if k.last = some s.text then ({ fresh with ended := true }, [.last])
  else (fresh, [.word s.text])

/-- The next byte of words that are ended by one byte. -/
def Scan.stepApart (k : Cut) (stop : Char) (s : Scan) (c : Char) : Scan × List Found :=
  if c = stop then ({ s with word := [], size := 0 }, [.word s.text, .line]) else s.keep k c

def Scan.stepPlain (k : Cut) (s : Scan) (c : Char) : Scan × List Found :=
  let s := { s with stance := .plain }
  if c = '\n' then
    let counts := s.previous ≠ ' ' && s.previous ≠ '\t'
    if s.word = [] && !s.seen then ({ s with stance := .space }, [])
    else
      let r := s.close k true
      (r.1, r.2 ++ if counts then [.line] else [])
  else
    let s := { s with seen := true }
    if !k.lines && (c = ' ' || c = '\t') then s.close k false
    else if c = '\\' then ({ s with stance := .escape }, [])
    else if c = '\'' || c = '"' then ({ s with stance := .quote c }, [])
    else s.keep k c

def Scan.step (k : Cut) (s : Scan) (c : Char) : Scan × List Found :=
  if s.ended then (s, [])
  else match k.stop with
    | some stop => s.stepApart k stop c
    | none =>
      let r := match s.stance with
        | .space => if Raw.isBlank c then (s, []) else s.stepPlain k c
        | .plain => s.stepPlain k c
        | .quote q =>
          if c = '\n' then ({ s with ended := true }, [.unmatched q])
          else if c = q then ({ s with stance := .plain, seen := true }, [])
          else s.keep k c
        | .escape => { s with stance := .plain }.keep k c
      ({ r.1 with previous := c }, r.2)

/-- What is found in a block, the first first. -/
def Scan.block (k : Cut) (s : Scan) (text : Raw) : Scan × List Found :=
  let r := text.foldl (fun (r : Scan × List Found) c =>
    let next := r.1.step k c
    (next.1, next.2.reverse ++ r.2)) (s, [])
  (r.1, r.2.reverse)

/-- What is found at the end of the input. -/
def Scan.finish (k : Cut) (s : Scan) : List Found :=
  if s.ended || s.word = [] then []
  else match s.stance with
    | .quote q => [.unmatched q]
    | _ => if s.first && k.stop.isNone && k.last = some s.text then [.last] else [.word s.text]

/-! ### Rows -/

/-- How commands are made of words. -/
structure Rows where
  name : Raw
  front : List Raw
  cut : Cut
  /-- the most words of a row, or lines -/
  words : Option Nat := none
  lines : Option Nat := none
  /-- the mark in whose place a word is put -/
  mark : Option Raw := none
  /-- the most bytes of a row -/
  bytes : Nat
  strict : Bool := false
  shows : Bool := false
  asks : Bool := false
  /-- whether a command is run although there are no words -/
  always : Bool := true
  keepsInput : Bool := false

/-- The row that is gathered, its latest word first. -/
structure Row where
  words : List Raw := []
  count : Nat := 0
  size : Nat := 0
  lines : Nat := 0
  runs : Nat := 0
  code : Nat := 0

/-- Whether the reading goes on, or the code to end with. -/
abbrev Step := Except Nat Row

/-- A text with another in the place of a mark. -/
def replaceMark (mark new : Raw) : Nat → Raw → Raw
  | 0, text => text
  | _, [] => []
  | n + 1, c :: cs =>
    if mark ≠ [] && mark.isPrefixOf (c :: cs) then
      new ++ replaceMark mark new n ((c :: cs).drop mark.length)
    else c :: replaceMark mark new n cs

variable (perform : Performer) (c : Call) (y : Rows)

def sizeOf (words : List Raw) : Nat := (words.map fun w => w.length + 1).foldl (· + ·) 0

/-- Tells something and ends with a code. -/
def quit (text : Raw) (code : Nat) : Act Step := do
  Notice.warn ((self c).toList ++ ": ".toList ++ text)
  return .error code

/-- Runs a command. -/
def runRow (args : List Raw) (r : Row) : Act Step := do
  let next : Row := { runs := r.runs + 1, code := r.code }
  if y.shows || y.asks then
    let text := [' '].intercalate ((y.name :: args).map Quotation.word)
    let _ ← Act.write 2 (text ++ if y.asks then [] else ['\n'])
  if y.asks then quit c "failed to open /dev/tty for reading: No such device or address".toList 1
  else
    let scene ← Act.look
    match scene.startWith (searchPath c.environment) y.name args c.environment with
    | .error e =>
      Notice.warn (Notice.faultLine (self c).toList y.name e)
      return .error (refusalCode e)
    | .ok _ =>
      let child ← Act.fork do
        if !y.keepsInput then
          Act.close 0
          let _ ← Act.openToRead "/dev/null".toList
        let e ← exec perform c.environment y.name args
        return refusalCode e
      let ended (e : Ending) : Act Step := do
        match e with
        | .exit 0 => return .ok next
        | .exit 255 => quit c (y.name ++ ": exited with status 255; aborting".toList) 124
        | .exit _ => return .ok { next with code := 123 }
        | .signal n =>
          quit c (y.name ++ ": terminated by signal ".toList ++ Numeral.natText 10 n) 125
      match ← awaitChild child Act.patience with
      | some e => ended e
      | none => return .ok next

def runWords (r : Row) : Act Step := runRow perform c y (y.front ++ r.words.reverse) r

/-- Tells a mistake of the input and ends, but runs what was gathered before. -/
def breakOff (text : Raw) (r : Row) : Act Step := do
  let stop ← quit c text 1
  if y.mark.isNone && r.count ≠ 0 && !y.strict then
    let _ ← runWords perform c y r
  return stop

def quoteFault (q : Char) : Raw :=
  ("unmatched " ++ (if q = '"' then "double" else "single") ++
    " quote; by default quotes are special to xargs unless you use the -0 option").toList

def zeroFault : Raw :=
  ("WARNING: a NUL character occurred in the input.  It cannot be passed through in the " ++
    "argument list.  Did you mean to use the --null option?").toList

/-- Adds a word to the row. -/
def addWord (w : Raw) (r : Row) : Act Step := do
  match y.mark with
  | some mark =>
    runRow perform c y (y.front.map fun a => replaceMark mark w (a.length + 1) a) r
  | none =>
    let base := sizeOf (y.name :: y.front)
    let isFull := y.bytes < base + r.size + w.length + 1
    if isFull && r.count = 0 then
      quit c "can not fit single argument within argument list size limit".toList 1
    else if isFull && y.strict && (y.words.isSome || y.lines.isSome) then
      quit c "argument list too long".toList 1
    else
      match ← if isFull then runWords perform c y r else pure (.ok r) with
      | .error code => return .error code
      | .ok s =>
        let s := { s with
          words := w :: s.words, count := s.count + 1, size := s.size + w.length + 1
          lines := r.lines }
        if y.words = some s.count then runWords perform c y s else return .ok s

def heedFound (r : Row) : Found → Act Step
  | .word w => addWord perform c y w r
  | .line => do
    let r := { r with lines := r.lines + 1 }
    if y.lines.any (· ≤ r.lines) && r.count ≠ 0 then runWords perform c y r else return .ok r
  | .last => return .ok r
  | .unmatched q => breakOff perform c y (quoteFault q) r
  | .tooLong => breakOff perform c y "argument line too long".toList r
  | .zero => do
    Notice.warn ((self c).toList ++ ": ".toList ++ zeroFault)
    return .ok r

def heedEach : List Found → Row → Act Step
  | [], r => return .ok r
  | f :: fs, r => do
    match ← heedFound perform c y r f with
    | .ok r => heedEach fs r
    | stop => return stop

/-- Reads the input and runs commands. -/
def runRows (stream : Nat) : Nat → Scan → Row → Act Nat
  | 0, _, r => return r.code
  | n + 1, s, r => do
    let read ← if s.ended then pure (.ok []) else Act.ask (.read stream Act.blockSize)
    match read with
    | .error .EINTR => runRows stream n s r
    | .ok (d :: ds) =>
      let (s, found) := s.block y.cut (d :: ds)
      match ← heedEach perform c y found r with
      | .error code => return code
      | .ok r => runRows stream n s r
    | e =>
      match ← heedEach perform c y (s.finish y.cut) r with
      | .error code => return code
      | .ok r =>
        let some := r.count ≠ 0 || y.always && y.mark.isNone && r.runs = 0
        let done ← if some then runWords perform c y r else pure (.ok r)
        match done, e with
        | .error code, _ => return code
        | .ok r, .ok _ => return r.code
        | .ok _, .error f =>
          let why := if f = .EBADF then ": ".toList ++ f.text.toList else []
          Notice.warn ((self c).toList ++ ": error closing file".toList ++ why)
          return 1

/-! ### The words of the program -/

def rowsGrammar : Letter.Grammar where
  plain := "0rtxpo"
  valued := "nLPsdEIa="
  optional := "eil"
  long := [("null", '0'), ("arg-file", 'a'), ("delimiter", 'd'), ("eof", 'e'), ("replace", 'i'),
    ("max-lines", 'l'), ("max-args", 'n'), ("open-tty", 'o'), ("interactive", 'p'),
    ("max-procs", 'P'), ("no-run-if-empty", 'r'), ("max-chars", 's'), ("verbose", 't'),
    ("exit", 'x'), ("process-slot-var", '=')]
  strict := true

/-- The byte that a text between words names. -/
def delimiter? (d : Raw) : Except Raw Char :=
  let bad := "Invalid input delimiter specification ".toList ++ d ++
    (": the delimiter must be either a single character or an escape sequence starting with " ++
      "\\.").toList
  match d with
  | [c] => .ok c
  | '\\' :: e :: ds =>
    let simple := [('a', 7), ('b', 8), ('f', 12), ('n', 10), ('r', 13), ('t', 9), ('v', 11),
      ('\\', 92)]
    match simple.lookup e, ds with
    | some n, [] => .ok (Char.ofNat n)
    | _, _ =>
      let (base, ds) := if e = 'x' then (16, ds) else (8, e :: ds)
      let row := Numeral.digits base ds
      if row.1 = [] then
        .error
          ("Invalid escape sequence ".toList ++ d ++ " in input delimiter specification.".toList)
      else if row.2 ≠ [] then .error bad
      else .ok (Raw.byte (Numeral.ofDigits base row.1))
  | _ => .error bad

/-- A number of at least so much. -/
def numberOf (letter : Char) (least : Nat) (a : Raw) : Except Raw Nat :=
  match Numeral.decimal? a with
  | none => .error ("invalid number \"".toList ++ a ++ "\" for -".toList ++ [letter] ++
      " option".toList)
  | some n =>
    if n < least then .error ("value ".toList ++ a ++ " for -".toList ++ [letter] ++
      " option should be >= ".toList ++ Numeral.natText 10 least)
    else .ok n.toNat

/-- How long a row may be if nothing else is asked for, and in any case. -/
def usualBytes : Nat := 131072

def mostBytes : Nat := 2092978

/-- What the options tell, one after another, and warnings. -/
def heedOption (r : Rows × List Raw) (o : Char × Raw) : Except (Bool × Raw) (Rows × List Raw) := do
  let (y, remarks) := r
  let number := fun (letter : Char) (least : Nat) =>
    (numberOf letter least o.2).mapError fun t => (true, t)
  let clash := fun (isSet : Bool) (text old : String) =>
    if isSet then remarks ++ [("warning: options " ++ text ++
      " are mutually exclusive, ignoring previous " ++ old ++ " value").toList] else remarks
  let replace := fun (mark : Raw) =>
    let rs := clash y.lines.isSome "--max-lines and --replace/-I/-i" "--max-lines"
    let rs := if y.words.isSome then
        clash true "--max-args and --replace/-I/-i" "--max-args"
      else rs
    ({ y with mark := some mark, words := none, lines := none }, rs)
  match o.1 with
  | '0' => return ({ y with cut := { y.cut with stop := some '\x00' } }, remarks)
  | 'd' =>
    let d ← (delimiter? o.2).mapError fun t => (false, t)
    return ({ y with cut := { y.cut with stop := some d } }, remarks)
  | 'E' | 'e' =>
    return ({ y with cut := { y.cut with last := if o.2 = [] then none else some o.2 } }, remarks)
  | 'I' => return replace o.2
  | 'i' => return replace (if o.2 = [] then ['\x7b', '\x7d'] else o.2)
  | 'L' =>
    let n ← number 'L' 1
    return ({ y with lines := some n, words := none, mark := none },
      clash y.mark.isSome "--replace and -L" "--replace")
  | 'l' =>
    let n ← if o.2 = [] then pure 1 else number 'l' 1
    return ({ y with lines := some n, words := none, mark := none },
      clash y.mark.isSome "--replace and --max-lines/-l" "--replace")
  | 'n' =>
    let n ← number 'n' 1
    return ({ y with words := some n, lines := none, mark := none },
      clash y.mark.isSome "--replace and --max-args/-n" "--replace")
  | 'P' =>
    let _ ← number 'P' 0
    return (y, remarks)
  | 's' =>
    let n ← number 's' 1
    if mostBytes < n then
      return ({ y with bytes := mostBytes }, remarks ++ ["value ".toList ++ o.2 ++
        " for -s option should be <= ".toList ++ Numeral.natText 10 mostBytes])
    else return ({ y with bytes := n }, remarks)
  | 'r' => return ({ y with always := false }, remarks)
  | 't' => return ({ y with shows := true }, remarks)
  | 'p' => return ({ y with asks := true }, remarks)
  | 'x' => return ({ y with strict := true }, remarks)
  | _ => return r

def xargs : Act Nat := do
  match Letter.split rowsGrammar c.args with
  | .error f => fault c f 1
  | .ok (os, rest) =>
    let name := rest.headD "echo".toList
    let start : Rows := {
      name, front := rest.tail, cut := { most := 0 }, bytes := usualBytes }
    match os.foldlM heedOption (start, []) with
    | .error (helps, t) =>
      if helps then (Letter.usage (self c) t 1).act (self c) 1
      else (Notice.complain ((self c).toList ++ ": ".toList ++ t) 1).act (self c) 1
    | .ok (y, remarks) =>
      for t in remarks do
        Notice.warn ((self c).toList ++ ": ".toList ++ t)
      let base := if y.mark.isSome then 0 else sizeOf (name :: y.front)
      let most := y.bytes - base - 1
      let cut := { y.cut with most, lines := y.mark.isSome }
      let file := Letter.value? 'a' os
      let environment := match Letter.value? '=' os with
        | some x => setVariable c.environment x ['0']
        | none => c.environment
      let y := { y with cut, keepsInput := file.isSome, strict := y.strict || y.mark.isSome }
      let c := { c with environment }
      let run (stream : Nat) : Act Nat :=
        if y.mark.isNone && y.bytes < base then do
          Notice.warn ((self c).toList ++
            ": cannot fit single argument within argument list size limit".toList)
          return 1
        else runRows perform c y stream Act.patience {} {}
      match file with
      | none => run 0
      | some ['-'] => run 0
      | some f =>
        match ← Act.openToRead f with
        | .error e =>
          Notice.warn ((self c).toList ++ ": Cannot open input file ".toList ++
            Quotation.always f ++ ": ".toList ++ e.text.toList)
          return 1
        | .ok stream =>
          match ← Act.ask (.keep stream) with
          | .ok own =>
            Act.close stream
            run own
          | .error _ => run stream

end ServiceStack.Launch
