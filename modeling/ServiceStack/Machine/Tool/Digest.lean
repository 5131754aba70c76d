import ServiceStack.Machine.Tool.PathName
import ServiceStack.Machine.Tool.Reading
import ServiceStack.Text.Base
import ServiceStack.Text.Digest.Narrow
import ServiceStack.Text.Digest.Sum
import ServiceStack.Text.Digest.Wide

/-!
The programs that tell digests of files and verify such tables.
-/

namespace ServiceStack.Digest

/-- A digest by its name. -/
structure Kind where
  name : String
  digest : Raw → Raw
  /-- bytes of the digest -/
  size : Nat

def Kind.named : List (String × Kind) := [
  ("md5", ⟨"MD5", Md5.digest, 16⟩), ("sha1", ⟨"SHA1", Sha1.digest, 20⟩),
  ("sha224", ⟨"SHA224", Sha2.digest224, 28⟩), ("sha256", ⟨"SHA256", Sha2.digest256, 32⟩),
  ("sha384", ⟨"SHA384", Sha2.digest384, 48⟩), ("sha512", ⟨"SHA512", Sha2.digest512, 64⟩),
  ("blake2b", ⟨"BLAKE2b", Blake.digest 64, 64⟩), ("sm3", ⟨"SM3", Sm3.digest, 32⟩)]

def Kind.find (name : String) : Kind := (named.lookup name).getD ⟨"MD5", Md5.digest, 16⟩

/-- The kind with a digest of so many bytes, which its name then tells. -/
def Kind.cut (k : Kind) (size : Nat) : Kind :=
  if size = 0 ∨ size = k.size then k
  else ⟨k.name ++ "-" ++ toString (size * 8), Blake.digest size, size⟩

/-! ### Tables of digests -/

/-- Whether a name has to be changed to stand in one line. -/
def isCrooked (name : Raw) : Bool := name.any fun c => c = '\\' || c = '\n' || c = '\r'

def straightened (name : Raw) : Raw :=
  name.flatMap fun
    | '\\' => ['\\', '\\']
    | '\n' => ['\\', 'n']
    | '\r' => ['\\', 'r']
    | c => [c]

/-- How a table is written. -/
structure Style where
  tagged : Bool := false
  binary : Bool := false
  stop : Char := '\n'
  /-- in letters of a larger base, or not in letters at all -/
  letters : Bool := false
  raw : Bool := false

def Style.row (y : Style) (k : Kind) (name text : Raw) : Raw :=
  let digest := k.digest text
  if y.raw then digest
  else
    let changes := isCrooked name && y.stop = '\n'
    let shown := if y.letters then Base.base64.encode digest else hexadecimal digest
    let name := if changes then straightened name else name
    (if changes then ['\\'] else []) ++
    (if y.tagged then k.name.toList ++ " (".toList ++ name ++ ") = ".toList ++ shown
      else shown ++ ' ' :: (if y.binary then '*' else ' ') :: name) ++ [y.stop]

/-- A row of a table: a digest and a name. -/
structure Row where
  digest : Raw
  name : Raw
deriving Repr

def isWhite (c : Char) : Bool := c = ' ' || c = '\t'

/-- A name as it was before it was changed to stand in one line. -/
def restored? : Raw → Option Raw
  | [] => some []
  | '\\' :: '\\' :: cs => (restored? cs).map ('\\' :: ·)
  | '\\' :: 'n' :: cs => (restored? cs).map ('\n' :: ·)
  | '\\' :: 'r' :: cs => (restored? cs).map ('\r' :: ·)
  | '\\' :: _ => none
  | c :: cs => (restored? cs).map (c :: ·)

def isDigest (size : Nat) (cs : Raw) : Bool :=
  cs.length = 2 * size && cs.all (Numeral.isDigit 16)

/-- Reads a row behind the name of the kind and a bracket. -/
def taggedRow? (k : Kind) (cs : Raw) : Option Row :=
  let back := cs.reverse.dropWhile (· ≠ ')')
  match back with
  | ')' :: name =>
    let tail := (cs.drop back.length).dropWhile isWhite
    match tail with
    | '=' :: digest =>
      let digest := digest.dropWhile isWhite
      let read := Base.base64.decode digest
      if isDigest k.size digest then some ⟨digest, name.reverse⟩
      else if read.2 && read.1.length = k.size then some ⟨hexadecimal read.1, name.reverse⟩
      else none
    | _ => none
  | _ => none

/-- Reads a row of a table. -/
def row? (k : Kind) (line : Raw) : Option Row :=
  let cs := line.dropWhile isWhite
  let (changed, cs) := match cs with
    | '\\' :: rest => (true, rest)
    | _ => (false, cs)
  let tag := k.name.toList
  let found :=
    if tag.isPrefixOf cs then
      match cs.drop tag.length with
      | ' ' :: '(' :: rest | '(' :: rest => taggedRow? k rest
      | _ => none
    else
      let digest := cs.take (2 * k.size)
      match cs.drop (2 * k.size) with
      | c :: rest =>
        if !isDigest k.size digest || !isWhite c || rest = [] then none
        else match rest with
          | d :: e :: name => some ⟨digest, if d = ' ' || d = '*' then e :: name else rest⟩
          | _ => some ⟨digest, rest⟩
      | [] => none
  match found with
  | some r => if changed then (restored? r.name).map fun n => { r with name := n } else some r
  | none => none

/-! ### Verifying -/

/-- How much is told while a table is verified. -/
structure Care where
  isQuiet : Bool := false
  isMute : Bool := false
  warns : Bool := false
  isStrict : Bool := false
  passesMissing : Bool := false

/-- What has been seen of a table. -/
structure Count where
  rows : Nat := 0
  bad : Nat := 0
  unread : Nat := 0
  different : Nat := 0
  equal : Nat := 0

def plural (n : Nat) (one more : String) : Raw :=
  Numeral.natText 10 n ++ ' ' :: (if n = 1 then one else more).toList

def complainAll (self : String) (ts : List Raw) : Act Unit :=
  match ts with
  | [] => return
  | t :: ts => do
    Notice.warn (self.toList ++ ": ".toList ++ t)
    complainAll self ts

def verdict (name : Raw) (word : String) : Act Unit := do
  let front := if name.any fun c => c = '\n' || c = '\r' then '\\' :: straightened name else name
  let _ ← Act.write 1 (front ++ ": ".toList ++ word.toList ++ ['\n'])

/-- Verifies the lines of a table. -/
def verifyLines (self : String) (k : Kind) (care : Care) (table : Raw) :
    Nat → List Raw → Count → Act Count
  | _, [], count => return count
  | number, line :: lines, count => do
    let line := if line.getLast? = some '\r' then line.dropLast else line
    let next := verifyLines self k care table (number + 1) lines
    if line = [] || line.head? = some '#' then next count
    else match row? k line with
      | none =>
        if care.warns then
          complainAll self [Quotation.name table ++ ": ".toList ++ Numeral.natText 10 number ++
            ": improperly formatted ".toList ++ k.name.toList ++ " checksum line".toList]
        next { count with bad := count.bad + 1 }
      | some row =>
        let count := { count with rows := count.rows + 1 }
        match ← if row.name = ['-'] then Act.readAll 0 else Act.readFile row.name with
        | .error e =>
          if care.passesMissing && e = .ENOENT then next count
          else
            complainAll self [Quotation.name row.name ++ ": ".toList ++ e.text.toList]
            if !care.isMute then verdict row.name "FAILED open or read"
            next { count with unread := count.unread + 1 }
        | .ok text =>
          if hexadecimal (k.digest text) = row.digest.map Char.toLower then
            if !care.isMute && !care.isQuiet then verdict row.name "OK"
            next { count with equal := count.equal + 1 }
          else
            if !care.isMute then verdict row.name "FAILED"
            next { count with different := count.different + 1 }

/-- Verifies the files of a table, and whether all is well. -/
def verify (self : String) (k : Kind) (care : Care) (name : Raw) : Act Bool := do
  let table := if name = ['-'] then "standard input".toList else name
  match ← if name = ['-'] then Act.readAll 0 else Act.readFile name with
  | .error e =>
    complainAll self [Quotation.name table ++ ": ".toList ++ e.text.toList]
    return false
  | .ok text =>
    let c ← verifyLines self k care table 1 (Raw.lines text) {}
    if c.rows = 0 then
      complainAll self [Quotation.name table ++
        ": no properly formatted checksum lines found".toList]
      return false
    else
      let warning := fun (n : Nat) (one more : String) =>
        if n = 0 then [] else ["WARNING: ".toList ++ plural n one more]
      if !care.isMute then
        complainAll self
          (warning c.bad "line is improperly formatted" "lines are improperly formatted" ++
          warning c.unread "listed file could not be read" "listed files could not be read" ++
          warning c.different "computed checksum did NOT match"
            "computed checksums did NOT match" ++
          (if care.passesMissing && c.equal = 0 then
            [Quotation.name table ++ ": no file was verified".toList] else []))
      return c.equal ≠ 0 && c.different = 0 && c.unread = 0 && (!care.isStrict || c.bad = 0)

def verifyEach (self : String) (k : Kind) (care : Care) : List Raw → Act Bool
  | [] => return true
  | name :: names => do
    let good ← verify self k care name
    let rest ← verifyEach self k care names
    return good && rest

/-! ### The programs -/

/-- Options that mean something only when a table is verified. -/
def onlyVerifying : List (Char × String) :=
  [('i', "ignore-missing"), ('S', "status"), ('w', "warn"), ('q', "quiet"), ('X', "strict")]

def longOptions : List (String × Char) := [
  ("binary", 'b'), ("check", 'c'), ("ignore-missing", 'i'), ("quiet", 'q'), ("status", 'S'),
  ("strict", 'X'), ("tag", 'T'), ("text", 't'), ("warn", 'w'), ("zero", 'z')]

/-- Letters that only long words stand for. -/
def hidden : List Char := ['i', 'q', 'S', 'X', 'T', 'B', 'R', 'U']

/-- What is wrong with options that do not go together. -/
def clash? (os : List (Char × Raw)) (kindName : String) : Option String :=
  let has := fun c => Letter.has c os
  let mode := Letter.last? "btT" os
  if has 'T' && mode = some 't' then some "--tag does not support --text mode"
  else if has 'c' then
    if has 'z' then some "the --zero option is not supported when verifying checksums"
    else if has 'T' then some "the --tag option is meaningless when verifying checksums"
    else if (mode.isSome && kindName ≠ "cksum") then
      some "the --binary and --text options are meaningless when verifying checksums"
    else none
  else (onlyVerifying.find? fun o => has o.1).map fun o =>
    "the --" ++ o.2 ++ " option is meaningful only when verifying checksums"

def careOf (os : List (Char × Raw)) : Care :=
  let mood := Letter.last? "Swq" os
  { isQuiet := mood = some 'q', isMute := mood = some 'S', warns := mood = some 'w'
    isStrict := Letter.has 'X' os, passesMissing := Letter.has 'i' os }

/-- Tells a number for each file, and its name if names are given. -/
def tellSums (self : String) (names : List Raw) (stop : Char) (sum : Raw → Raw) : Act Nat :=
  Reading.act {
    program := self, names
    complaint := fun name e => Quotation.faultLine self.toList name e
    write := fun sources => (sources.map fun s =>
      sum s.text ++ (if names = [] then [] else ' ' :: s.name) ++ [stop], 0) }

/-- The sum with turned bits, and how many kilobytes there are. -/
def turningText (text : Raw) : Raw :=
  let blocks := Numeral.natText 10 ((text.length + 1023) / 1024)
  Numeral.padZeros 5 (Numeral.natText 10 (turning text)) ++
    List.replicate (6 - blocks.length) ' ' ++ blocks

def foldedText (text : Raw) : Raw :=
  Numeral.natText 10 (folded text) ++ ' ' :: Numeral.natText 10 ((text.length + 511) / 512)

def remainderText (text : Raw) : Raw :=
  Numeral.natText 10 (remainder text) ++ ' ' :: Numeral.natText 10 text.length

def sum (self : String) (args : List Raw) : Act Nat :=
  match Letter.split { plain := "rs", long := [("sysv", 's')] } args with
  | .error f => (f.report self 1).act self 1
  | .ok (os, names) =>
    tellSums self names '\n' (if Letter.last? "rs" os = some 's' then foldedText else turningText)

/-- Tells the digests of files, or verifies tables of them. -/
def tellDigests (self : String) (k : Kind) (os : List (Char × Raw)) (y : Style)
    (names : List Raw) : Act Nat := do
  if Letter.has 'c' os then
    let good ← verifyEach self k (careOf os) (if names = [] then [['-']] else names)
    return if good then 0 else 1
  else
    Reading.act {
      program := self, names
      complaint := fun name e => Quotation.faultLine self.toList name e
      write := fun sources => (sources.map fun s => y.row k s.name s.text, 0) }

/-- A length in bits as bytes, or what is wrong with it. -/
def lengthOf (self : String) (v : Raw) : Except Notice Nat :=
  let front := self.toList ++ ": ".toList
  let bad := front ++ "invalid length: ".toList ++ Quotation.text v
  match Numeral.natural? v with
  | none => .error (.complain bad 1)
  | some n =>
    if 512 < n then
      .error (.complain (bad ++ '\n' :: front ++
        "maximum digest length for 'BLAKE2b' is 512 bits".toList) 1)
    else if n % 8 ≠ 0 then
      .error (.complain (bad ++ '\n' :: front ++ "length is not a multiple of 8".toList) 1)
    else .ok (n / 8)

def styleOf (os : List (Char × Raw)) (tagged : Bool) : Style where
  tagged := tagged
  binary := Letter.last? "btT" os = some 'b'
  stop := if Letter.has 'z' os then '\x00' else '\n'
  letters := Letter.has 'B' os
  raw := Letter.has 'R' os

/-- The program for one kind of digest. -/
def digestOf (kind : String) (self : String) (args : List Raw) : Act Nat :=
  let told (r : Notice) : Act Nat := r.act self 1
  let isBlake : Bool := kind = "blake2b"
  let g : Letter.Grammar := {
    plain := "bctwz".append (String.ofList hidden)
    valued := if isBlake then "l" else ""
    long := if isBlake then longOptions ++ [("length", 'l')] else longOptions }
  match unknown? args, Letter.split g args with
  | some c, _ => told ((Letter.Fault.unknown c).report self 1)
  | none, .error f => told (f.report self 1)
  | none, .ok (os, names) =>
    match clash? os kind, (Letter.value? 'l' os).map (lengthOf self) with
    | _, some (.error r) => told r
    | some t, _ => told (Letter.usage self t.toList 1)
    | none, size =>
      let k := (Kind.find kind).cut (match size with
        | some (.ok n) => n
        | _ => 0)
      tellDigests self k os (styleOf os (Letter.has 'T' os)) names
where
  /-- A letter that only a long word can stand for. -/
  unknown? (args : List Raw) : Option Char :=
    (args.takeWhile (· ≠ ['-', '-'])).findSome? fun
      | '-' :: '-' :: _ => none
      | '-' :: cs => cs.find? hidden.contains
      | _ => none

def choices : List String :=
  ["bsd", "sysv", "crc"] ++ Kind.named.map Prod.fst

/-- The program that tells digests of any kind, and sums of bits unless it is told otherwise. -/
def cksum (self : String) (args : List Raw) : Act Nat :=
  let told (r : Notice) : Act Nat := r.act self 1
  let g : Letter.Grammar := {
    plain := "bctwz".append (String.ofList hidden)
    valued := "al"
    long := longOptions ++ [("algorithm", 'a'), ("base64", 'B'), ("raw", 'R'), ("untagged", 'U'),
      ("debug", 'D'), ("length", 'l')] }
  match digestOf.unknown? args, Letter.split g args with
  | some c, _ => told ((Letter.Fault.unknown c).report self 1)
  | none, .error f => told (f.report self 1)
  | none, .ok (os, names) =>
    let a := (Letter.value? 'a' os).getD "crc".toList
    let stop := if Letter.has 'z' os then '\x00' else '\n'
    match Letter.choose? (choices.map fun w => (w, w)) a with
    | none => told (Letter.usage self (Letter.refusedChoice "--algorithm" a choices) 1)
    | some "bsd" => tellSums self names stop turningText
    | some "sysv" => tellSums self names stop foldedText
    | some "crc" => tellSums self names stop remainderText
    | some name =>
      match clash? os "cksum", (Letter.value? 'l' os).map (lengthOf self) with
      | _, some (.error r) => told r
      | some t, _ => told (Letter.usage self t.toList 1)
      | none, size =>
        let k := (Kind.find name).cut (match size with
          | some (.ok n) => n
          | _ => 0)
        tellDigests self k os (styleOf os (Letter.last? "UT" os ≠ some 'U')) names

end ServiceStack.Digest
