import ServiceStack.Machine.Tool.Reading
import ServiceStack.Machine.Tool.Quotation
import ServiceStack.Text.Numeral

/-!
The program that writes numbers with a letter for their magnitude, and reads such numbers. Numbers
are fractions of whole numbers; what is written is rounded as the program is told.
-/

namespace ServiceStack.Scale

inductive Kind where
  | none
  | auto
  | si
  | iec
  /-- each letter is followed by an `i` -/
  | iecI
deriving DecidableEq, Repr

def Kind.base : Kind → Nat
  | .iec | .iecI => 1024
  | _ => 1000

inductive Rounding where
  | up | down | fromZero | towardsZero | nearest
deriving DecidableEq, Repr

def letters : List Char := ['K', 'M', 'G', 'T', 'P', 'E', 'Z', 'Y', 'R', 'Q']

/-- A number, and how many places its text has. -/
structure Amount where
  negative : Bool
  num : Nat
  den : Nat
  places : Nat

/-- A field of a format. -/
structure Format where
  front : Raw := []
  back : Raw := []
  zeros : Nat := 0
  width : Int := 0
  places : Option Nat := none

/-- What the program is asked to do. -/
structure Wish where
  source : Kind := .none
  goal : Kind := .none
  sourceUnit : Nat := 1
  goalUnit : Nat := 1
  rounding : Rounding := .fromZero
  suffix : Raw := []
  format : Format := {}
  /-- the mark between fields, unless fields stand between blanks -/
  mark : Option Char := none
  fields : List (Nat × Option Nat) := [(1, some 1)]

/-! ### Reading a number -/

/-- The power of a base that a letter stands for. -/
def powerOf? (c : Char) : Option Nat := (letters.findIdx? (· = c)).map (· + 1)

/-- Reads a number with its letter, or tells what is wrong with it. -/
def Wish.read (w : Wish) (text : Raw) : Except Raw Amount :=
  let shown := Quotation.text text
  let (negative, cs) := match text with
    | '-' :: cs => (true, cs)
    | cs => (false, cs)
  let whole := cs.takeWhile Char.isDigit
  let rest := cs.drop whole.length
  let (places, rest, sound) : Raw × Raw × Bool := match rest with
    | '.' :: more =>
      let ds := more.takeWhile Char.isDigit
      (ds, more.drop ds.length, ds ≠ [])
    | _ => ([], rest, whole ≠ [])
  let digits := Numeral.ofDigits 10 (whole ++ places)
  let bare : Amount := ⟨negative, digits, Nat.pow 10 places.length, places.length⟩
  if !sound then .error ("invalid number: ".toList ++ shown)
  else match rest.dropWhile Raw.isBlank with
    | [] => .ok bare
    | c :: more =>
      match powerOf? c with
      | none => .error ("invalid suffix in input: ".toList ++ shown)
      | some power =>
        if w.source = .none then
          .error ("rejecting suffix in input: ".toList ++ shown ++
            " (consider using --from)".toList)
        else
          let marked : Bool := more.head? = some 'i' && (w.source = .auto || w.source = .iecI)
          let base := if w.source = .auto then (if marked then 1024 else 1000) else w.source.base
          let more := if marked then more.tail else more
          if w.source = .iecI && !marked then
            .error ("missing 'i' suffix in input: ".toList ++ shown ++
              " (e.g Ki/Mi/Gi)".toList)
          else if more ≠ [] then
            .error ("invalid suffix in input ".toList ++ shown ++ ": ".toList ++
              Quotation.text more)
          else .ok { bare with num := digits * Nat.pow base power, places := 0 }

/-! ### Writing a number -/

/-- A fraction as a whole number. -/
def Rounding.whole (r : Rounding) (negative : Bool) (num den : Nat) : Nat :=
  let below := num / den
  let above := (num + den - 1) / den
  match r with
  | .up => if negative then below else above
  | .down => if negative then above else below
  | .fromZero => above
  | .towardsZero => below
  | .nearest => (2 * num + den) / (2 * den)

/-- Divides by a base until the number is below it. -/
def normal (base num : Nat) : Nat → Nat → Nat → Nat × Nat
  | 0, den, power => (den, power)
  | n + 1, den, power =>
    if base * den ≤ num then normal base num n (den * base) (power + 1) else (den, power)

def signed (zeros : Nat) (negative : Bool) (ds : Raw) : Raw :=
  let front := if negative then ['-'] else []
  front ++ Numeral.padZeros (zeros - front.length) ds

/-- The text of a number, without padding. -/
def Wish.write (w : Wish) (a : Amount) : Raw :=
  let num := a.num * w.sourceUnit
  let den := a.den * w.goalUnit
  let zeros := w.format.zeros
  if w.goal = .none then
    let places := w.format.places.getD a.places
    let n := w.rounding.whole a.negative (num * Nat.pow 10 places) den
    signed zeros (a.negative && n ≠ 0) (Numeral.fixed false places n (Nat.pow 10 places)) ++
      w.suffix
  else
    let base := w.goal.base
    let (den, power) := normal base num 30 den 0
    let adjust := match w.format.places with
      | some p => min (power * 3) p
      | none => if num < 10 * den then 1 else 0
    let n := w.rounding.whole a.negative (num * Nat.pow 10 adjust) den
    let unit := Nat.pow 10 adjust
    let (unit, power) := if base * unit ≤ n then (unit * base, power + 1) else (unit, power)
    let pointed : Bool := n ≠ 0 && n < 10 * unit && 0 < power
    let places := w.format.places.getD (if pointed then 1 else 0)
    let letter := if power = 0 then [] else
      letters.getD (power - 1) '?' :: if w.goal = .iecI then ['i'] else []
    signed zeros a.negative (Numeral.fixed false places n unit) ++ letter ++ w.suffix

def padded (width : Int) (t : Raw) : Raw :=
  let blanks := List.replicate (width.natAbs - t.length) ' '
  if width < 0 then t ++ blanks else blanks ++ t

/-- A text as a number again, or what is wrong with it. A field behind blanks keeps its width. -/
def Wish.convert (w : Wish) (inner : Bool) (field : Raw) : Except Raw Raw :=
  let text := field.dropWhile Raw.isBlank
  let bare := if w.suffix ≠ [] && w.suffix.isSuffixOf text then
      text.take (text.length - w.suffix.length)
    else text
  (w.read bare).bind fun a =>
    let long := (Numeral.natText 10 (a.num * w.sourceUnit / (a.den * w.goalUnit))).length
    if w.goal = .none && 19 < long + a.places then
      .error ("value too large to be printed: '".toList ++
        Numeral.general false 'e' 6 (a.num * w.sourceUnit) (a.den * w.goalUnit) ++
        "' (consider using --to)".toList)
    else
      let width : Int := if w.format.width ≠ 0 then w.format.width
        else if w.mark.isNone && (inner || text.length < field.length) then field.length
        else 0
      .ok (w.format.front ++ padded width (w.write a) ++ w.format.back)

/-! ### Lines -/

def Wish.wants (w : Wish) (n : Nat) : Bool :=
  w.fields.any fun f => f.1 ≤ n && f.2.all (n ≤ ·)

/-- A field with the blanks before it, and the rest of the line. -/
def blankField (line : Raw) : Raw × Raw :=
  let front := line.takeWhile Raw.isBlank
  let body := (line.drop front.length).takeWhile fun c => !Raw.isBlank c
  (front ++ body, line.drop (front.length + body.length))

/-- A line in its fields, and the marks between them. -/
def Wish.fieldsOf (w : Wish) : Nat → Raw → List Raw
  | 0, _ => []
  | n + 1, line =>
    let (field, rest) := match w.mark with
      | some m => (line.takeWhile (· ≠ m), line.dropWhile (· ≠ m))
      | none => blankField line
    match rest with
    | [] => [field]
    | _ :: more => field :: fieldsOf w n more

/-- How a number that cannot be read is treated. -/
inductive Care where
  | abort | fail | warn | ignore
deriving DecidableEq, Repr

/-- The line with its fields written again, and what is told of those that cannot be read. -/
def Wish.line (w : Wish) (line : Raw) : Raw × List Raw :=
  let fields := (w.fieldsOf (line.length + 1) line).zipIdx.map fun (f, k) =>
    if w.wants (k + 1) then
      match w.convert (0 < k) f with
      | .ok t => (t, none)
      | .error e => (f, some e)
    else (f, none)
  ([w.mark.getD ' '].intercalate (fields.map Prod.fst), fields.filterMap Prod.snd)

/-- Writes lines in turn. -/
def writeLines (self : String) (w : Wish) (care : Care) (stop : Char) (code : Nat) :
    List Raw → List (Nat × Raw) × Nat
  | [] => ([], code)
  | l :: ls =>
    let (text, faults) := w.line l
    let told := if care = .ignore then [] else
      (if care = .abort then faults.take 1 else faults).map fun f =>
        (2, self.toList ++ ": ".toList ++ f ++ ['\n'])
    if care = .abort && faults ≠ [] then (told, 2)
    else
      let code := if care = .fail && faults ≠ [] then 2 else code
      let rest := writeLines self w care stop code ls
      (told ++ (1, text ++ [stop]) :: rest.1, rest.2)

/-! ### The program -/

def kinds : List (String × Kind) := [("none", .none), ("si", .si), ("iec", .iec), ("iec-i", .iecI)]

def sourceKinds : List (String × Kind) :=
  [("none", .none), ("auto", .auto), ("si", .si), ("iec", .iec), ("iec-i", .iecI)]

def roundings : List (String × Rounding) := [
  ("up", .up), ("down", .down), ("from-zero", .fromZero), ("towards-zero", .towardsZero),
  ("nearest", .nearest)]

def cares : List (String × Care) := [
  ("abort", .abort), ("fail", .fail), ("warn", .warn), ("ignore", .ignore)]

def grammar : Letter.Grammar where
  plain := "gvz"
  valued := "dFTUVrPSfxi"
  optional := "H"
  long := [("from", 'F'), ("from-unit", 'U'), ("to", 'T'), ("to-unit", 'V'), ("round", 'r'),
    ("padding", 'P'), ("suffix", 'S'), ("grouping", 'g'), ("delimiter", 'd'), ("field", 'f'),
    ("debug", 'v'), ("-debug", 'v'), ("header", 'H'), ("format", 'x'), ("invalid", 'i'),
    ("zero-terminated", 'z')]

/-- Ranges of fields: numbers, or two with a dash between them, one of which may be missing. -/
def rangesOf? (a : Raw) : Option (List (Nat × Option Nat)) :=
  (a.splitOn ',').mapM fun r =>
    match r.splitOn '-' with
    | [n] => (Numeral.natural? n).map fun n => (n, some n)
    | [[], []] => some (1, none)
    | [n, []] => (Numeral.natural? n).map fun n => (n, none)
    | [[], m] => (Numeral.natural? m).map fun m => (1, some m)
    | [n, m] => (Numeral.natural? n).bind fun n => (Numeral.natural? m).map fun m => (n, some m)
    | _ => none

/-- A format has one directive, which may tell a width and places. -/
def formatOf (a : Raw) : Except Raw Format :=
  let shown := Quotation.text a
  let front := a.takeWhile (· ≠ '%')
  match a.drop front.length with
  | [] => .error ("format ".toList ++ shown ++ " has no % directive".toList)
  | _ :: cs =>
    let flags := cs.takeWhile fun c => c = '\'' || c = '0' || c = ' '
    let cs := cs.drop flags.length
    let (left, cs) := match cs with
      | '-' :: more => (true, more)
      | _ => (false, cs)
    let width := cs.takeWhile Char.isDigit
    let cs := cs.drop width.length
    let (places, cs) := match cs with
      | '.' :: more =>
        let ds := more.takeWhile Char.isDigit
        (some (Numeral.ofDigits 10 ds), more.drop ds.length)
      | _ => (none, cs)
    match cs with
    | 'f' :: back =>
      let n := Numeral.ofDigits 10 width
      if back.contains '%' then
        .error ("format ".toList ++ shown ++ " has too many % directives".toList)
      else .ok {
        front, back, places
        zeros := if flags.contains '0' && !left then n else 0
        width := if left then -(n : Int) else if flags.contains '0' then 0 else n }
    | _ => .error ("invalid format ".toList ++ shown ++
        ", directive must be %[0]['][-][N][.][N]f".toList)

def unitOf? (a : Raw) : Option Nat :=
  let ds := a.takeWhile Char.isDigit
  let n := Numeral.ofDigits 10 ds
  if ds = [] ∨ n = 0 then none
  else match a.drop ds.length with
    | [] => some n
    | [c] => (powerOf? c).map fun p => n * Nat.pow 1000 p
    | [c, 'i'] => (powerOf? c).map fun p => n * Nat.pow 1024 p
    | _ => none

/-- A whole number with a sign. -/
def wholeOf? (a : Raw) : Option Int :=
  match a with
  | '-' :: ds => (Numeral.natural? ds).map fun n => -(n : Int)
  | ds => (Numeral.natural? ds).map fun n => (n : Int)

/-- What the options ask for. A refused word is told with the way to help. -/
def wishOf (self : String) (os : List (Char × Raw)) : Except Notice (Wish × Care) := do
  let complain := fun (t : String) (a : Raw) => Except.error (Notice.complain
    (self.toList ++ ": ".toList ++ t.toList ++ Quotation.text a) 1)
  let among {α : Type} (c : Char) (option : String) (words : List (String × α)) (usual : α) :
      Except Notice α :=
    match Letter.value? c os with
    | none => .ok usual
    | some v => match Letter.choose? words v with
      | some k => .ok k
      | none =>
        .error (Letter.usage self (Letter.refusedChoice option v (words.map Prod.fst)) 1)
  let source ← among 'F' "--from" sourceKinds .none
  let goal ← among 'T' "--to" kinds .none
  let rounding ← among 'r' "--round" roundings .fromZero
  let care ← among 'i' "--invalid" cares .abort
  let unit := fun (c : Char) =>
    match Letter.value? c os with
    | none => Except.ok 1
    | some v => match unitOf? v with
      | some n => .ok n
      | none => complain "invalid unit size: " v
  let sourceUnit ← unit 'U'
  let goalUnit ← unit 'V'
  let format ← match Letter.value? 'x' os with
    | none => pure {}
    | some a => (formatOf a).mapError fun t =>
        Notice.complain (self.toList ++ ": ".toList ++ t) 1
  let width ← match Letter.value? 'P' os with
    | none => pure format.width
    | some v => match wholeOf? v with
      | some n => if n = 0 then complain "invalid padding value " v else pure n
      | none => complain "invalid padding value " v
  let fields ← match Letter.value? 'f' os with
    | none => pure [(1, some 1)]
    | some v => match rangesOf? v with
      | some rs => pure rs
      | none => .error (Letter.usage self ("invalid field value ".toList ++ Quotation.text v) 1)
  let mark ← match Letter.value? 'd' os with
    | none => pure none
    | some [c] => pure (some c)
    | some [] => pure (some '\x00')
    | some _ => .error (.complain
        (self.toList ++ ": the delimiter must be a single character".toList) 1)
  return (⟨source, goal, sourceUnit, goalUnit, rounding, (Letter.value? 'S' os).getD [],
    { format with width := width }, mark, fields⟩, care)

def numfmt (self : String) (args : List Raw) : Act Nat := do
  let told (r : Notice) : Act Nat := r.act self 1
  match Letter.split grammar args with
  | .error f => told (f.report self 1)
  | .ok (os, words) =>
    match wishOf self os with
    | .error r => told r
    | .ok (w, care) =>
      let stop := if Letter.has 'z' os then '\x00' else '\n'
      if words ≠ [] then
        let r := writeLines self w care stop 0 words
        told ⟨r.1, r.2⟩
      else match ← Act.readAll 0 with
        | .error e => told (.complain
            (Notice.faultLine self.toList "error reading input".toList e) 1)
        | .ok text =>
          let lines := if stop = '\n' then Raw.lines text
            else (text.splitOn '\x00').filter (· ≠ [])
          let skipped := match Letter.value? 'H' os with
            | none => 0
            | some v => (Numeral.natural? v).getD 1
          let r := writeLines self w care stop 0 (lines.drop skipped)
          told ⟨(lines.take skipped).map (fun l => (1, l ++ [stop])) ++ r.1, r.2⟩

end ServiceStack.Scale
