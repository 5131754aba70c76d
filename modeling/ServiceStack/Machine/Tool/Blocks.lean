import ServiceStack.Machine.Tool.Filing.Making

/-!
The program that copies blocks. What is read goes through conversions, and is gathered into blocks
of the output; if both sides have blocks of one size and nothing is converted, each block is passed
on as it came.
-/

namespace ServiceStack.Blocks

/-- A number of blocks, or of bytes. -/
structure Amount where
  count : Nat := 0
  bytes : Bool := false
deriving DecidableEq, Repr

/-- What is copied, and how. -/
structure Job where
  input : Option Raw := none
  output : Option Raw := none
  readSize : Nat := 512
  writeSize : Nat := 512
  /-- both sizes at once -/
  jointSize : Option Nat := none
  /-- the length of a record, if lines are changed into records or back -/
  width : Nat := 0
  most : Option Amount := none
  skip : Amount := {}
  seek : Amount := {}
  conversions : List Raw := []
  inFlags : List Raw := []
  outFlags : List Raw := []
  status : Raw := []

/-! ### Words -/

/-- A number, which may be a product, and whether it counts bytes. -/
def number? (a : Raw) : Option Amount :=
  let parts := a.splitOn 'x'
  let last := parts.getLast?.getD []
  let bytes : Bool := last.getLast? = some 'B' && last.dropLast.getLast? ≠ some 'B'
  let read := fun (p : Raw) =>
    match Size.read? "bcEGkKMPQRTwYZ0" p with
    | .ok n => some n
    | .error _ => none
  let plain := match read last with
    | some n => some n
    | none => if bytes then read last.dropLast else none
  match plain, parts.dropLast.mapM read with
  | some n, some ns => some ⟨ns.foldl (· * ·) n, bytes⟩
  | _, _ => none

def conversionWords : List String := [
  "ascii", "ebcdic", "ibm", "block", "unblock", "lcase", "ucase", "sparse", "swab", "sync", "excl",
  "nocreat", "notrunc", "noerror", "fdatasync", "fsync"]

def flagWords : List String := [
  "append", "binary", "cio", "direct", "directory", "dsync", "noatime", "nocache", "noctty",
  "nofollow", "nolinks", "nonblock", "sync", "text"]

def inFlagWords : List String := flagWords ++ ["fullblock", "count_bytes", "skip_bytes"]

def outFlagWords : List String := flagWords ++ ["seek_bytes"]

def levels : List String := ["none", "noxfer", "progress"]

/-- Two conversions that exclude each other. -/
def rivals : List (List String) := [
  ["ascii", "ebcdic", "ibm"], ["block", "unblock"], ["lcase", "ucase"], ["excl", "nocreat"]]

/-- Why the words are refused, and whether help is offered. -/
abbrev Refusal := Raw × Bool

/-- Words between commas that are all known. -/
def wordsOf (what : String) (known : List String) (v : Raw) : Except Refusal (List Raw) :=
  let words := v.splitOn ','
  match words.find? fun w => !known.contains (String.ofList w) with
  | some w => .error ("invalid ".toList ++ what.toList ++ ": ".toList ++ Quotation.text w, true)
  | none => .ok words

def numberOf (v : Raw) : Except Refusal Amount :=
  match number? v with
  | some n => .ok n
  | none => .error ("invalid number: ".toList ++ Quotation.text v, false)

/-- A number that is not zero. -/
def sizeOf (v : Raw) : Except Refusal Nat := do
  let n ← numberOf v
  if n.count = 0 then throw ("invalid number: ".toList ++ Quotation.text v, false)
  return n.count

/-- What one word changes. -/
def Job.word (j : Job) (a : Raw) : Except Refusal Job :=
  let name := String.ofList (a.takeWhile (· ≠ '='))
  let v := (a.dropWhile (· ≠ '=')).tail
  if !a.contains '=' then .error ("unrecognized operand ".toList ++ Quotation.text a, true)
  else match name with
    | "if" => .ok { j with input := some v }
    | "of" => .ok { j with output := some v }
    | "bs" => do return { j with jointSize := some (← sizeOf v) }
    | "ibs" => do return { j with readSize := ← sizeOf v }
    | "obs" => do return { j with writeSize := ← sizeOf v }
    | "cbs" => do return { j with width := ← sizeOf v }
    | "count" => do return { j with most := some (← numberOf v) }
    | "skip" | "iseek" => do return { j with skip := ← numberOf v }
    | "seek" | "oseek" => do return { j with seek := ← numberOf v }
    | "conv" => do
      let words ← wordsOf "conversion" conversionWords v
      return { j with conversions := j.conversions ++ words }
    | "iflag" => do
      let words ← wordsOf "input flag" inFlagWords v
      return { j with inFlags := j.inFlags ++ words }
    | "oflag" => do
      let words ← wordsOf "output flag" outFlagWords v
      return { j with outFlags := j.outFlags ++ words }
    | "status" =>
      if levels.contains (String.ofList v) then .ok { j with status := v }
      else .error ("invalid status level: ".toList ++ Quotation.text v, true)
    | _ => .error ("unrecognized operand ".toList ++ Quotation.text a, true)

def Job.converts (j : Job) (name : String) : Bool := j.conversions.contains name.toList

/-- What all words ask for. -/
def Job.ofWords (words : List Raw) : Except Refusal Job := do
  let j ← words.foldlM Job.word {}
  let asked := fun (group : List String) =>
    1 < (group.filter j.converts).length && (j.width ≠ 0 || !group.contains "block")
  match rivals.find? asked with
  | some [a, b] =>
    throw (("cannot combine " ++ a ++ " and " ++ b).toList, false)
  | some _ => throw ("cannot combine any two of \x7bascii,ebcdic,ibm\x7d".toList, false)
  | none =>
    let inBytes := fun (flags : List Raw) (flag : String) (n : Amount) =>
      { n with bytes := n.bytes || flags.contains flag.toList : Amount }
    return { j with
      readSize := j.jointSize.getD j.readSize
      writeSize := j.jointSize.getD j.writeSize
      skip := inBytes j.inFlags "skip_bytes" j.skip
      seek := inBytes j.outFlags "seek_bytes" j.seek
      most := j.most.map (inBytes j.inFlags "count_bytes") }

/-- Whether what is read is not passed on as it came. -/
def Job.gathers (j : Job) : Bool :=
  j.jointSize.isNone ||
    ["ascii", "ebcdic", "ibm", "block", "unblock", "lcase", "ucase", "swab"].any j.converts

/-! ### Conversions -/

/-- Where the conversion of a text stands. -/
structure Stance where
  /-- a byte whose neighbour is still to come -/
  odd : Option Char := none
  /-- the place in a record -/
  column : Nat := 0
  /-- blanks that may stand at the end of a record -/
  spaces : Nat := 0

/-- Exchanges neighbours. What is left over stays. -/
def swapped : Raw → Raw × Option Char
  | a :: b :: cs =>
    let r := swapped cs
    (b :: a :: r.1, r.2)
  | [a] => ([], some a)
  | [] => ([], none)

/-- A byte of a line that becomes a record. -/
def toRecord (width : Nat) (s : Stance) (c : Char) : Stance × Raw :=
  if c = '\n' then ({ s with column := 0 }, List.replicate (width - s.column) ' ')
  else ({ s with column := s.column + 1 }, if s.column < width then [c] else [])

/-- A byte of a record that becomes a line without blanks at its end. -/
def toLine (width : Nat) (s : Stance) (c : Char) : Stance × Raw :=
  let (s, front) : Stance × Raw :=
    if width ≤ s.column then ({ s with column := 0, spaces := 0 }, ['\n']) else (s, [])
  let s := { s with column := s.column + 1 }
  if c = ' ' then ({ s with spaces := s.spaces + 1 }, front)
  else ({ s with spaces := 0 }, front ++ List.replicate s.spaces ' ' ++ [c])

def eachByte (f : Stance → Char → Stance × Raw) (s : Stance) (text : Raw) : Stance × Raw :=
  let r := text.foldl (fun (r : Stance × List Raw) c =>
    let next := f r.1 c
    (next.1, next.2 :: r.2)) (s, [])
  (r.1, r.2.reverse.flatten)

/-- What lines and records become. -/
def Job.reshape (j : Job) (s : Stance) (text : Raw) : Stance × Raw :=
  if j.width = 0 then (s, text)
  else if j.converts "block" then eachByte (toRecord j.width) s text
  else if j.converts "unblock" then eachByte (toLine j.width) s text
  else (s, text)

/-- What a block that was read becomes. -/
def Job.convert (j : Job) (s : Stance) (block : Raw) : Stance × Raw :=
  let text := if j.converts "lcase" then block.map Char.toLower
    else if j.converts "ucase" then block.map Char.toUpper
    else block
  if j.converts "swab" then
    let r := swapped (s.odd.toList ++ text)
    j.reshape { s with odd := r.2 } r.1
  else j.reshape s text

/-- What comes at the end. -/
def Job.last (j : Job) (s : Stance) : Raw :=
  let (s, text) := j.reshape { s with odd := none } s.odd.toList
  text ++
    if j.width = 0 || s.column = 0 then []
    else if j.converts "block" then List.replicate (j.width - s.column) ' '
    else if j.converts "unblock" then ['\n']
    else []

/-! ### Copying -/

/-- What was done so far. -/
structure Progress where
  wholeIn : Nat := 0
  partIn : Nat := 0
  wholeOut : Nat := 0
  partOut : Nat := 0
  bytes : Nat := 0
  stance : Stance := {}
  /-- what is gathered for the next block -/
  held : Raw := []

/-- Reads a block, perhaps in several steps. -/
def readBlock (stream : Nat) (fills : Bool) : Nat → Nat → Raw → Act (Except Errno Raw)
  | 0, _, seen => return .ok seen
  | fuel + 1, size, seen => do
    match ← Act.ask (.read stream size) with
    | .error .EINTR => readBlock stream fills fuel size seen
    | .error e => return if seen = [] then .error e else .ok seen
    | .ok block =>
      if block = [] || !fills || size ≤ block.length then return .ok (seen ++ block)
      else readBlock stream fills fuel (size - block.length) (seen ++ block)

/-- Writes a block. -/
def Job.send (j : Job) (self : String) (out : Nat) (p : Progress) (block : Raw) :
    Act (Option Progress × Progress) := do
  if block = [] then return (some p, p)
  match ← Act.write out block with
  | .ok () =>
    let whole : Bool := j.writeSize ≤ block.length
    let p := { p with
      wholeOut := if whole then p.wholeOut + 1 else p.wholeOut
      partOut := if whole then p.partOut else p.partOut + 1
      bytes := p.bytes + block.length }
    return (some p, p)
  | .error e =>
    Notice.warn (self.toList ++ ": error writing ".toList ++
      Quotation.always (j.output.getD "standard output".toList) ++ ": ".toList ++ e.text.toList)
    return (none, p)

/-- Writes all whole blocks that were gathered. -/
def Job.drain (j : Job) (self : String) (out : Nat) : Nat → Progress →
    Act (Option Progress × Progress)
  | 0, p => return (some p, p)
  | fuel + 1, p => do
    if p.held.length < j.writeSize then return (some p, p)
    else
      let block := p.held.take j.writeSize
      match ← j.send self out p block with
      | (some p, _) => j.drain self out fuel { p with held := p.held.drop j.writeSize }
      | r => return r

/-- How much may be read next; nothing if there was enough. -/
def Job.nextSize (j : Job) (p : Progress) : Nat :=
  match j.most with
  | none => j.readSize
  | some n =>
    let records := p.wholeIn + p.partIn
    if !n.bytes then (if records < n.count then j.readSize else 0)
    else if records < n.count / j.readSize then j.readSize
    else if records = n.count / j.readSize then n.count % j.readSize
    else 0

/-- Copies block after block. Tells whether all went well. -/
def Job.copy (j : Job) (self : String) (source out : Nat) : Nat → Progress → Act (Bool × Progress)
  | 0, p => return (true, p)
  | fuel + 1, p => do
    let size := j.nextSize p
    let fills := j.inFlags.contains "fullblock".toList
    let got ← if size = 0 then pure (.ok []) else readBlock source fills Act.patience size []
    match got with
    | .error e =>
      Notice.warn (self.toList ++ ": error reading ".toList ++
        Quotation.always (j.input.getD "standard input".toList) ++ ": ".toList ++ e.text.toList)
      return (false, p)
    | .ok [] =>
      let p := { p with held := p.held ++ j.last p.stance }
      match ← j.drain self out (p.held.length + 1) p with
      | (none, p) => return (false, p)
      | (some p, _) =>
        let r ← j.send self out p p.held
        return (r.1.isSome, r.2)
    | .ok block =>
      let whole : Bool := j.readSize ≤ block.length
      let p := { p with
        wholeIn := if whole then p.wholeIn + 1 else p.wholeIn
        partIn := if whole then p.partIn else p.partIn + 1 }
      let filler := if j.converts "block" || j.converts "unblock" then ' ' else '\x00'
      let block := if j.converts "sync" then
          block ++ List.replicate (j.readSize - block.length) filler
        else block
      if !j.gathers then
        match ← j.send self out p block with
        | (some p, _) => j.copy self source out fuel p
        | (none, p) => return (false, p)
      else
        let r := j.convert p.stance block
        let p := { p with stance := r.1, held := p.held ++ r.2 }
        match ← j.drain self out (p.held.length + 1) p with
        | (some p, _) => j.copy self source out fuel p
        | (none, p) => return (false, p)

/-! ### The program -/

/-- Passes over what is not to be read, block by block or byte by byte. -/
def skipBlocks (stream size : Nat) (bytes : Bool) : Nat → Nat → Act Unit
  | 0, _ | _, 0 => return ()
  | fuel + 1, left => do
    match ← Act.ask (.read stream (if bytes then min left size else size)) with
    | .error .EINTR => skipBlocks stream size bytes fuel left
    | .error _ | .ok [] => return ()
    | .ok block => skipBlocks stream size bytes fuel (left - if bytes then block.length else 1)

/-- Opens the output, with what stands before the place where writing begins. -/
def Job.openOutput (j : Job) (name : Raw) (before : Nat) : Act (Except Errno Nat) := do
  let keeps := j.converts "notrunc"
  let old ← if before = 0 || keeps then pure [] else do
    match ← Act.readFile name with
    | .ok text => pure (text.take before)
    | .error _ => pure []
  let opened ← Act.ask (.open name {
    reads := keeps && before ≠ 0, writes := true, creates := !j.converts "nocreat"
    fresh := j.converts "excl", truncates := !keeps
    appends := j.outFlags.contains "append".toList })
  match opened with
  | .error e => return .error e
  | .ok stream =>
    let seen ← if keeps && before ≠ 0 then do
        match ← readBlock stream true Act.patience before [] with
        | .ok text => pure text.length
        | .error _ => pure 0
      else do
        let _ ← Act.write stream old
        pure old.length
    let _ ← Act.write stream (List.replicate (before - seen) '\x00')
    return .ok stream

def sizeText (n : Nat) : Raw :=
  let scaled := fun (base : Nat) (letters : List String) =>
    let powers := (List.range 6).filter fun p => Nat.pow base (p + 1) ≤ n
    let p := powers.length
    let unit := Nat.pow base p
    let tenths := (n * 10 + unit / 2) / unit
    (if tenths < 100 then
        Numeral.natText 10 (tenths / 10) ++ '.' :: Numeral.natText 10 (tenths % 10)
      else Numeral.natText 10 ((n + unit / 2) / unit)) ++ (letters.getD (p - 1) "").toList
  let plain := Numeral.natText 10 n ++ (if n = 1 then " byte" else " bytes").toList
  if n < 1000 then plain
  else plain ++ " (".toList ++ scaled 1000 [" kB", " MB", " GB", " TB", " PB", " EB"] ++
    (if n < 1024 then [] else
      ", ".toList ++ scaled 1024 [" KiB", " MiB", " GiB", " TiB", " PiB", " EiB"]) ++ [')']

/-- What is told at the end. -/
def Job.summary (j : Job) (p : Progress) (nanoseconds : Nat) : Raw :=
  if j.status = "none".toList then []
  else
    let row := fun (whole part : Nat) (what : String) =>
      Numeral.natText 10 whole ++ '+' :: Numeral.natText 10 part ++ what.toList
    let counts := row p.wholeIn p.partIn " records in\n" ++
      row p.wholeOut p.partOut " records out\n"
    if j.status = "noxfer".toList then counts
    else
      let micros := nanoseconds / 1000 + 1
      counts ++ sizeText p.bytes ++ " copied, ".toList ++ Numeral.natText 10 (micros / 1000000) ++
        '.' :: Numeral.padZeros 6 (Numeral.natText 10 (micros % 1000000)) ++ " s, ".toList ++
        Numeral.natText 10 (p.bytes * 1000 / micros) ++ ".0 kB/s\n".toList

def bytesOf (a : Amount) (size : Nat) : Nat := if a.bytes then a.count else a.count * size

/-- The words behind two dashes or before them. A word that begins with one dash is no operand. -/
def operands (self : String) (args : List Raw) : Except Notice (List Raw) :=
  match Letter.split {} args with
  | .error f => .error (f.report self 1)
  | .ok (_, words) => .ok words

def Job.run (j : Job) (self : String) (source out : Nat) : Act Nat := do
  let start ← Act.time
  skipBlocks source j.readSize j.skip.bytes Act.patience j.skip.count
  let (good, p) ← j.copy self source out Act.patience {}
  let now ← Act.time
  let _ ← Act.write 2 (j.summary p (now - start))
  let isShut : Bool := source = 0 && ((← Act.look).streams.lookup 0).isNone
  if isShut then
    Notice.warn (self.toList ++ ": closing input file 'standard input': ".toList ++
      (Errno.EBADF).text.toList)
  return if good && !isShut then 0 else 1

def dd (self : String) (args : List Raw) : Act Nat := do
  let words := operands self args
  match words with
  | .error r => r.act self 1
  | .ok words =>
    match Job.ofWords words with
    | .error (t, helps) =>
      (if helps then Letter.usage self t 1
        else .complain (self.toList ++ ": ".toList ++ t) 1 : Notice).act self 1
    | .ok j =>
      let refuse (name : Raw) (e : Errno) : Act Nat := do
        let _ ← Filing.failed self ("failed to open ".toList ++ Quotation.always name ++
          ": ".toList ++ e.text.toList)
        return 1
      let source : Except Errno Nat ← match j.input with
        | some name => Act.openToRead name
        | none => pure (.ok 0)
      let out : Except Errno Nat ← match j.output, source with
        | some name, .ok _ => j.openOutput name (bytesOf j.seek j.writeSize)
        | _, _ => pure (.ok 1)
      match source, out with
      | .error e, _ => refuse (j.input.getD []) e
      | _, .error e => refuse (j.output.getD []) e
      | .ok source, .ok out => j.run self source out

end ServiceStack.Blocks
