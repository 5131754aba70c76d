import ServiceStack.Machine.Scenery
import ServiceStack.Machine.Tool.PathName
import ServiceStack.Machine.Tool.Size
import ServiceStack.Text.Difference
import ServiceStack.Text.Calendar

/-!
The programs that tell where two files differ: the first byte, all bytes, or the lines that lead
from one to the other.
-/

namespace ServiceStack.Compare

/-- Two texts with their names, or why one of them cannot be read. -/
def readBoth (a b : Raw) : Act (Except (Raw × Errno) (Raw × Raw)) := do
  let read (name : Raw) : Act (Except Errno Raw) :=
    if name = ['-'] then Act.readAll 0 else Act.readFile name
  match ← read a with
  | .error e => return .error (a, e)
  | .ok x =>
    if a = ['-'] ∧ b = ['-'] then return .ok (x, x)
    match ← read b with
    | .error e => return .error (b, e)
    | .ok y => return .ok (x, y)

def trouble (self : String) (t : Raw) : Notice :=
  .complain (self.toList ++ ": ".toList ++ t) 2

/-- A complaint about the words of a program. -/
def misuse (self : String) (t : Raw) : Notice :=
  trouble self (t ++ '\n' :: self.toList ++ ": Try '".toList ++ self.toList ++
    " --help' for more information.".toList)

def missing (self : String) (before : Raw) : Notice :=
  misuse self ("missing operand after ".toList ++ Quotation.text before)

/-! ### Bytes -/

def byteGrammar : Letter.Grammar where
  plain := "bclsz"
  valued := "in"
  long := [("print-bytes", 'b'), ("print-chars", 'b'), ("ignore-initial", 'i'), ("verbose", 'l'),
    ("bytes", 'n'), ("quiet", 's'), ("silent", 's')]

/-- A byte as it is shown beside its number. -/
def shownByte (c : Char) : Raw :=
  let n := c.toNat
  let low := fun (n : Nat) =>
    if n < 32 then ['^', Char.ofNat (n + 64)] else if n = 127 then ['^', '?'] else [Char.ofNat n]
  if n < 128 then low n else ['M', '-'] ++ low (n - 128)

def octal (c : Char) : Raw :=
  let ds := Numeral.natText 8 c.toNat
  List.replicate (3 - ds.length) ' ' ++ ds

/-- The places of bytes that differ, from a number on. -/
def differing : Nat → Raw → Raw → List (Nat × Char × Char)
  | n, x :: xs, y :: ys =>
    if x = y then differing (n + 1) xs ys else (n, x, y) :: differing (n + 1) xs ys
  | _, _, _ => []

/-- What is told of the end of the shorter text. -/
def endRemark (name text : Raw) (numbersOnly : Bool) : Raw :=
  "EOF on ".toList ++ name ++
    if text = [] then " which is empty".toList
    else
      let lines := text.count '\n'
      " after byte ".toList ++ Numeral.natText 10 text.length ++
        if numbersOnly then []
        else if text.getLast? = some '\n' then ", line ".toList ++ Numeral.natText 10 lines
        else ", in line ".toList ++ Numeral.natText 10 (lines + 1)

/-- How the bytes of two texts compare. -/
def compareBytes (self : String) (os : List (Char × Raw)) (a b x y : Raw) : Notice :=
  let bytes := Letter.has 'b' os
  let places := differing 1 x y
  let shorter := if x.length < y.length then some (a, x)
    else if y.length < x.length then some (b, y)
    else none
  let remark := match shorter with
    | some (name, text) =>
      [(2, self.toList ++ ": ".toList ++ endRemark name text (Letter.has 'l' os) ++ ['\n'])]
    | none => []
  let code := if places = [] && shorter.isNone then 0 else 1
  if Letter.has 's' os then .silent code
  else if Letter.has 'l' os then
    let width := (Numeral.natText 10 (min x.length y.length)).length
    let row := fun (p : Nat × Char × Char) =>
      let n := Numeral.natText 10 p.1
      let first := shownByte p.2.1
      List.replicate (width - n.length) ' ' ++ n ++ ' ' :: octal p.2.1 ++
      (if bytes then ' ' :: first ++ List.replicate (4 - first.length) ' ' else []) ++
      ' ' :: octal p.2.2 ++ (if bytes then ' ' :: shownByte p.2.2 else []) ++ ['\n']
    ⟨remark ++ [(1, places.flatMap row)], code⟩
  else match places with
    | (n, c, d) :: _ =>
      let line := (x.take (n - 1)).count '\n' + 1
      .say (a ++ ' ' :: b ++ " differ: ".toList ++ (if bytes then "byte " else "char ").toList ++
        Numeral.natText 10 n ++ ", line ".toList ++ Numeral.natText 10 line ++
        (if bytes then " is ".toList ++ octal c ++ ' ' :: shownByte c ++ ' ' :: octal d ++
          ' ' :: shownByte d
        else []) ++ ['\n']) code
    | [] => ⟨remark, code⟩

/-- How many bytes are passed over, in the first text and in the second. -/
def skips? (a : Raw) : Option (Nat × Nat) :=
  let size := fun (a : Raw) => (Size.read? Size.usual a).toOption
  match a.splitOn ':' with
  | [x] => (size x).map fun n => (n, n)
  | [x, y] => (size x).bind fun m => (size y).map fun n => (m, n)
  | _ => none

def cmp (self : String) (args : List Raw) : Act Nat := do
  let told (r : Notice) : Act Nat := r.act self 2
  match Letter.split byteGrammar args with
  | .error f => told (misuse self f.text)
  | .ok (_, []) => told (missing self self.toList)
  | .ok (os, a :: more) =>
    let b := more.headD ['-']
    match more.drop 3 with
    | c :: _ => told (misuse self ("extra operand ".toList ++ Quotation.text c))
    | [] =>
      let given := match more.tail with
        | [] => Letter.value? 'i' os
        | [m] => some (m ++ ":0".toList)
        | m :: n :: _ => some (m ++ ':' :: n)
      let bad := fun (option : String) (v : Raw) =>
        misuse self ("invalid ".toList ++ option.toList ++ " value ".toList ++ Quotation.text v)
      match (given.getD ['0'], skips? (given.getD ['0'])),
          (Letter.value? 'n' os).map fun v => (v, (Size.read? Size.usual v).toOption) with
      | (v, none), _ => told (bad "--ignore-initial" v)
      | _, some (v, none) => told (bad "--bytes" v)
      | (_, some (m, n)), limit =>
        match ← readBoth a b with
        | .error (name, e) =>
          if Letter.has 's' os then return 2
          told (trouble self (Quotation.name name ++ ": ".toList ++ e.text.toList))
        | .ok (x, y) =>
          let cut := fun (t : Raw) => match limit with
            | some (_, some k) => t.take k
            | _ => t
          told (compareBytes self os a b (cut (x.drop m)) (cut (y.drop n)))

/-! ### Lines -/

def lineGrammar : Letter.Grammar where
  plain := "abBdiNqrstTuwn"
  valued := "UL"
  long := [("text", 'a'), ("ignore-space-change", 'b'), ("ignore-blank-lines", 'B'),
    ("minimal", 'd'), ("ignore-case", 'i'), ("new-file", 'N'), ("brief", 'q'),
    ("recursive", 'r'), ("report-identical-files", 's'), ("expand-tabs", 't'),
    ("initial-tab", 'T'), ("unified", 'u'), ("ignore-all-space", 'w'), ("label", 'L'),
    ("normal", 'n')]

/-- The lines of a text with their line breaks. -/
def linesOf (text : Raw) : List Raw :=
  let ls := Raw.lines text
  if text.getLast? = some '\n' then ls.map (· ++ ['\n'])
  else ls.dropLast.map (· ++ ['\n']) ++ ls.getLast?.toList

/-- A line as it is compared. -/
def lineKey (os : List (Char × Raw)) (l : Raw) : Raw :=
  let blank := fun (c : Char) => c = ' ' || c = '\t' || c = '\x0b' || c = '\x0c' || c = '\r'
  let loose := Letter.has 'w' os || Letter.has 'b' os
  let l := if loose then l.filter (· ≠ '\n') else l
  let l := if Letter.has 'w' os then l.filter fun c => !blank c
    else if Letter.has 'b' os then
      (l.reverse.dropWhile blank).reverse.splitBy (fun c d => blank c && blank d) |>.flatMap
        fun g => if g.any blank then [' '] else g
    else l
  if Letter.has 'i' os then l.map Char.toLower else l

/-- A line behind a mark; a missing line break is told. -/
def marked (mark : String) (l : Raw) : Raw :=
  mark.toList ++ l ++
    if l.getLast? = some '\n' then [] else "\n\\ No newline at end of file\n".toList

open Difference (Edit)

/-- The numbers of some lines, or of the line before if there are none. -/
def rangeText (start count : Nat) : Raw :=
  if count < 2 then Numeral.natText 10 (start + count)
  else Numeral.natText 10 (start + 1) ++ ',' :: Numeral.natText 10 (start + count)

def slice (ls : Array Raw) (start count : Nat) : List Raw :=
  (List.range count).filterMap fun k => ls[start + k]?

/-- An edit by itself. -/
def editText (old new : Array Raw) (e : Edit) : Raw :=
  let letter := if e.newCount = 0 then 'd' else if e.oldCount = 0 then 'a' else 'c'
  rangeText e.old e.oldCount ++ letter :: rangeText e.new e.newCount ++ '\n' ::
    (slice old e.old e.oldCount).flatMap (marked "< ") ++
    (if letter = 'c' then "---\n".toList else []) ++
    (slice new e.new e.newCount).flatMap (marked "> ")

/-- Edits that stand so near to each other that they are told together. -/
def clusters (context : Nat) : List Edit → List (List Edit)
  | [] => []
  | e :: es =>
    match clusters context es with
    | (f :: fs) :: more =>
      if f.old ≤ e.old + e.oldCount + 2 * context then (e :: f :: fs) :: more
      else [e] :: (f :: fs) :: more
    | _ => [[e]]

def headRange (start count : Nat) : Raw :=
  if count = 1 then Numeral.natText 10 (start + 1)
  else Numeral.natText 10 (if count = 0 then start else start + 1) ++ ',' ::
    Numeral.natText 10 count

/-- Edits with lines around them. -/
def clusterText (old new : Array Raw) (context : Nat) (es : List Edit) : Raw :=
  match es, es.getLast? with
  | first :: _, some last =>
    let lead := min context first.old
    let tail := min context (old.size - (last.old + last.oldCount))
    let start := first.old - lead
    let stop := last.old + last.oldCount + tail
    let newStart := first.new - lead
    let newStop := last.new + last.newCount + tail
    let body := es.foldl (fun (r : Nat × Raw) e =>
      (e.old + e.oldCount,
        r.2 ++ (slice old r.1 (e.old - r.1)).flatMap (marked " ") ++
          (slice old e.old e.oldCount).flatMap (marked "-") ++
          (slice new e.new e.newCount).flatMap (marked "+"))) (start, [])
    "@@ -".toList ++ headRange start (stop - start) ++ " +".toList ++
      headRange newStart (newStop - newStart) ++ " @@\n".toList ++ body.2 ++
      (slice old body.1 (stop - body.1)).flatMap (marked " ")
  | _, _ => []

/-- How many lines are equal at the start. -/
def sharedStart : List Raw → List Raw → Nat
  | a :: as, b :: bs => if a = b then sharedStart as bs + 1 else 0
  | _, _ => 0

/-- The edits between two rows of lines. Equal lines at the start and at the end are left out, all
but some of them, and so are not moved into an edit. -/
def editsBetween (key : Raw → Raw) (context : Nat) (old new : List Raw) : List Edit :=
  let front := sharedStart old new - context
  let old := old.drop front
  let new := new.drop front
  let isOpen := fun (ls : List Raw) => ls.getLast?.any fun l => l.getLast? ≠ some '\n'
  let back := if isOpen old = isOpen new then sharedStart old.reverse new.reverse - context else 0
  let keys := fun (ls : List Raw) => ((ls.take (ls.length - back)).map key).toArray
  (Difference.edits (keys old) (keys new)).map fun e =>
    { e with old := e.old + front, new := e.new + front }

/-- What is told of two texts that differ. -/
def differenceText (os : List (Char × Raw)) (a b x y : Raw) (stamp : Raw) : Option Raw :=
  let unified : Bool := (Letter.last? "unU" os).any (· ≠ 'n')
  let context := if unified then ((Letter.value? 'U' os).bind Numeral.natural?).getD 3 else 0
  let es := editsBetween (lineKey os) context (linesOf x) (linesOf y)
  let old := (linesOf x).toArray
  let new := (linesOf y).toArray
  let blankEdit := fun (e : Edit) =>
    (slice old e.old e.oldCount ++ slice new e.new e.newCount).all (· = ['\n'])
  let es := if Letter.has 'B' os then es.filter fun e => !blankEdit e else es
  if es = [] then none
  else if unified then
    let labels := (os.filter (·.1 = 'L')).map Prod.snd
    let header := fun (k : Nat) (name : Raw) => labels.getD k (name ++ '\t' :: stamp)
    some ("--- ".toList ++ header 0 a ++ "\n+++ ".toList ++ header 1 b ++ '\n' ::
      (clusters context es).flatMap (clusterText old new context))
  else some (es.flatMap (editText old new))

def isBinary (t : Raw) : Bool := t.contains '\x00'

def compareLines (os : List (Char × Raw)) (a b x y : Raw) (stamp : Raw) : Notice :=
  let pair := fun (front back : String) =>
    front.toList ++ a ++ " and ".toList ++ b ++ back.toList
  let same := if Letter.has 's' os then
      Notice.say (pair "Files " " are identical\n") 0
    else .silent 0
  if x = y then same
  else if !Letter.has 'a' os && (isBinary x || isBinary y) then
    .say (pair (if Letter.has 'q' os then "Files " else "Binary files ") " differ\n") 1
  else match differenceText os a b x y stamp with
    | none => same
    | some t => .say (if Letter.has 'q' os then pair "Files " " differ\n" else t) 1

def diff (self : String) (args : List Raw) : Act Nat := do
  let told (r : Notice) : Act Nat := r.act self 2
  match Letter.split lineGrammar args with
  | .error f => told (misuse self f.text)
  | .ok (_, []) => told (missing self self.toList)
  | .ok (_, [a]) => told (missing self a)
  | .ok (_, _ :: _ :: c :: _) => told (misuse self ("extra operand ".toList ++ Quotation.text c))
  | .ok (os, [a, b]) =>
    let scene ← Act.look
    let inside := fun (directory name : Raw) => PathName.join directory (PathName.last name [])
    let (a, b) := match scene.isDirectory a, scene.isDirectory b with
      | true, false => (inside a b, b)
      | false, true => (a, inside b a)
      | _, _ => (a, b)
    let (s, nano) ← Act.clock
    let stamp := (Moment.ofSeconds s nano).text "%Y-%m-%d %H:%M:%S.%N %z".toList
    match ← readBoth a b with
    | .error (name, e) =>
      told (trouble self (Quotation.name name ++ ": ".toList ++ e.text.toList))
    | .ok (x, y) => told (compareLines os a b x y stamp)

end ServiceStack.Compare
