import ServiceStack.Machine.Tool.Reading
import ServiceStack.Machine.Tool.Size
import ServiceStack.Text.Double

/-!
The program that shows the bytes of texts as numbers or characters. A line shows a block, once in
each form that is asked for, and begins with its place; a block that is equal to the one before it
is only hinted at.
-/

namespace ServiceStack.Dump

/-! ### Forms -/

/-- How bytes are shown: as characters, or so many of them as one number. -/
structure Form where
  /-- `a` and `c` are characters, `d` and `u` decimal, `o` octal, `x` hexadecimal, `f` fractions -/
  kind : Char
  size : Nat
  /-- the characters are shown behind the numbers -/
  trailer : Bool := false
deriving DecidableEq, Repr

/-- Names of the first bytes. -/
def names : List String := [
  "nul", "soh", "stx", "etx", "eot", "enq", "ack", "bel", "bs", "ht", "nl", "vt", "ff", "cr",
  "so", "si", "dle", "dc1", "dc2", "dc3", "dc4", "nak", "syn", "etb", "can", "em", "sub", "esc",
  "fs", "gs", "rs", "us", "sp"]

def isVisible (c : Char) : Bool := ' ' ≤ c && c ≤ '~'

def nameOf (c : Char) : Raw :=
  let n := c.toNat % 128
  match names[n]? with
  | some name => name.toList
  | none => if n = 127 then "del".toList else [Char.ofNat n]

/-- Escapes for bytes that cannot be seen. -/
def marks : List (Char × String) := [
  ('\x00', "\\0"), ('\x07', "\\a"), ('\x08', "\\b"), ('\t', "\\t"), ('\n', "\\n"),
  ('\x0b', "\\v"), ('\x0c', "\\f"), ('\r', "\\r")]

def markOf (c : Char) : Raw :=
  match marks.lookup c with
  | some m => m.toList
  | none => if isVisible c then [c] else Numeral.padZeros 3 (Numeral.natText 8 c.toNat)

/-- The fewest digits of a fraction that lead back to it. -/
def shortest (leadsBack : Nat → Nat → Bool) (num den : Nat) : Nat → Nat → Raw
  | 0, count => Numeral.general false 'e' count num den
  | fuel + 1, count =>
    let s := Numeral.scientific (count - 1) num den
    let r := Numeral.scaled 10 s.1 1 (s.2 - (count - 1 : Nat))
    if leadsBack r.1 r.2 then Numeral.general false 'e' count num den
    else shortest leadsBack num den fuel (count + 1)

/-- A binary fraction of 32 or 64 bits. -/
def fractionText (size : Nat) (bits : Nat) : Raw :=
  let narrow := size = 4
  let x := if narrow then (Float32.ofBits (UInt32.ofNat bits)).toFloat
    else Float.ofBits (UInt64.ofNat bits)
  let leadsBack := fun (num den : Nat) =>
    let y := Double.ofFraction num den
    (if narrow then y.toFloat32.toFloat else y).toBits == x.abs.toBits
  let smallest := if narrow then Float.ofBits 0x3810000000000000 else Float.ofBits 0x10000000000000
  let least := if x.abs < smallest then 1 else if narrow then 6 else 15
  let v := Double.parts x
  (if v.1 then ['-'] else []) ++ match v.2 with
    | .infinite => "inf".toList
    | .undefined => "nan".toList
    | .finite num den => if num = 0 then ['0'] else shortest leadsBack num den 17 least

namespace Form

/-- The widest text of one number. -/
def width (f : Form) : Nat :=
  let bits := 8 * f.size
  match f.kind with
  | 'a' | 'c' => 3
  | 'o' => (bits + 2) / 3
  | 'x' => 2 * f.size
  | 'u' => (Nat.toDigits 10 (Nat.pow 2 bits - 1)).length
  | 'd' => (Nat.toDigits 10 (Nat.pow 2 (bits - 1))).length + 1
  | _ => if f.size = 4 then 15 else 24

/-- The text of the bytes of one number. -/
def text (f : Form) (descending : Bool) (bs : Raw) : Raw :=
  let n := (if descending then bs else bs.reverse).foldl (fun n c => n * 256 + c.toNat) 0
  let c := bs.headD '\x00'
  match f.kind with
  | 'a' => nameOf c
  | 'c' => markOf c
  | 'o' => Numeral.padZeros f.width (Numeral.natText 8 n)
  | 'x' => Numeral.padZeros f.width (Numeral.natText 16 n)
  | 'u' => Numeral.natText 10 n
  | 'd' =>
    let limit := Nat.pow 2 (8 * f.size)
    Numeral.intText (if n < limit / 2 then n else (n : Int) - limit)
  | _ => fractionText f.size n

end Form

/-! ### Reading forms -/

def sizeLetters : List (Char × Nat) := [('C', 1), ('S', 2), ('I', 4), ('L', 8)]

def fractionLetters : List (Char × Nat) := [('F', 4), ('D', 8), ('L', 16)]

/-- The forms that a word tells, or what is wrong with it. -/
def formsOf (all : Raw) : Nat → Raw → Except Raw (List Form)
  | 0, _ | _, [] => .ok []
  | fuel + 1, c :: cs => do
    let bad := fun (words : String) => Except.error
      ("invalid type string ".toList ++ Quotation.text all ++
        ";\nthis system doesn't provide a ".toList ++ words.toList ++ " type".toList)
    let (form, rest) ← if "ac".contains c then pure (Form.mk c 1 false, cs)
      else if "doux".contains c || c = 'f' then
        let isFraction : Bool := c = 'f'
        let letters := if isFraction then fractionLetters else sizeLetters
        match cs.head?.bind (letters.lookup ·) with
        | some n => pure (Form.mk c n false, cs.tail)
        | none =>
          let ds := cs.takeWhile Char.isDigit
          let n := Numeral.ofDigits 10 ds
          if ds = [] then pure (Form.mk c (if isFraction then 8 else 4) false, cs)
          else if (if isFraction then [4, 8] else [1, 2, 4, 8]).contains n then
            pure (Form.mk c n false, cs.drop ds.length)
          else bad (toString n ++ "-byte " ++
            (if isFraction then "floating point" else "integral"))
      else .error ("invalid character '".toList ++ c :: "' in type string ".toList ++
        Quotation.text all)
    let (form, rest) := match rest with
      | 'z' :: more => ({ form with trailer := true }, more)
      | _ => (form, rest)
    return form :: (← formsOf all fuel rest)

/-- The forms that letters stand for. -/
def letterForms : List (Char × Form) := [
  ('a', ⟨'a', 1, false⟩), ('b', ⟨'o', 1, false⟩), ('B', ⟨'o', 2, false⟩), ('c', ⟨'c', 1, false⟩),
  ('D', ⟨'u', 4, false⟩), ('d', ⟨'u', 2, false⟩), ('e', ⟨'f', 8, false⟩), ('F', ⟨'f', 8, false⟩),
  ('f', ⟨'f', 4, false⟩), ('H', ⟨'x', 4, false⟩), ('X', ⟨'x', 4, false⟩), ('h', ⟨'x', 2, false⟩),
  ('x', ⟨'x', 2, false⟩), ('I', ⟨'d', 8, false⟩), ('L', ⟨'d', 8, false⟩), ('l', ⟨'d', 8, false⟩),
  ('i', ⟨'d', 4, false⟩), ('O', ⟨'o', 4, false⟩), ('o', ⟨'o', 2, false⟩), ('s', ⟨'d', 2, false⟩)]

def allForms : List (Char × Raw) → Except Raw (List Form)
  | [] => .ok []
  | (c, v) :: os => do
    let first ← if c = 't' then formsOf v v.length v else .ok (letterForms.lookup c).toList
    return first ++ (← allForms os)

/-! ### Lines -/

/-- How texts are shown. -/
structure Manner where
  forms : List Form
  /-- the base of places; none is shown if it is zero -/
  base : Nat := 8
  block : Nat := 16
  descending : Bool := false
  /-- equal blocks are shown too -/
  all : Bool := false

namespace Manner

variable (m : Manner)

def placeWidth : Nat := if m.base = 0 then 0 else if m.base = 16 then 6 else 7

def place (n : Nat) : Raw :=
  if m.base = 0 then [] else Numeral.padZeros m.placeWidth (Numeral.natText m.base n)

/-- The columns that one block takes. -/
def columns : Nat :=
  (m.forms.map fun f => (f.width + 1) * (m.block / f.size)).foldl max 0

/-- A block in one form. Blanks that are left are spread over the numbers. -/
def row (f : Form) (block : Raw) : Raw :=
  let fields := m.block / f.size
  let spare := m.columns - f.width * fields
  let filled := block ++ List.replicate (f.size - 1 - (block.length + f.size - 1) % f.size) '\x00'
  let shown := ((Raw.inGroups f.size filled).zipIdx.map fun (bs, k) =>
    let left := fields - k
    let width := f.width + spare * left / fields - spare * (left - 1) / fields
    let t := f.text m.descending bs
    List.replicate (width - t.length) ' ' ++ t).flatten
  let blank := (m.block - block.length) / f.size
  shown ++ (if f.trailer then
      List.replicate (blank * f.width + spare * blank / fields) ' ' ++ "  >".toList ++
        block.map (fun c => if isVisible c then c else '.') ++ ['<']
    else []) ++ ['\n']

def rows (n : Nat) (block : Raw) : Raw :=
  match m.forms.map (m.row · block) with
  | [] => []
  | first :: more =>
    m.place n ++ first ++ more.flatMap (List.replicate m.placeWidth ' ' ++ ·)

/-- Shows blocks. The last one, and whether it was passed over, are kept in mind. -/
def blocks : Nat → Option Raw → Bool → List Raw → Raw
  | n, _, _, [] => if m.base = 0 then [] else m.place n ++ ['\n']
  | n, last, passed, b :: bs =>
    if !m.all && last = some b && b.length = m.block then
      (if passed then [] else ['*', '\n']) ++ blocks (n + b.length) last true bs
    else m.rows n b ++ blocks (n + b.length) (some b) false bs

def text (n : Nat) (bs : Raw) : Raw := m.blocks n none false (Raw.inGroups m.block bs)

/-- Rows of bytes that can be seen, of some length and with a zero behind them. -/
def strings (least : Nat) (n : Nat) (seen : Raw) : Raw → Raw
  | [] => []
  | c :: cs =>
    if isVisible c then strings least (n + 1) (c :: seen) cs
    else
      (if c = '\x00' && least ≤ seen.length then
        (if m.base = 0 then [] else m.place (n - seen.length) ++ [' ']) ++ seen.reverse ++ ['\n']
      else []) ++ strings least (n + 1) [] cs

end Manner

/-! ### The program -/

def grammar : Letter.Grammar where
  plain := "aBbcDdeFfHhIiLlOosTvXx"
  valued := "AEjNSt"
  optional := "w"
  long := [("skip-bytes", 'j'), ("address-radix", 'A'), ("read-bytes", 'N'), ("format", 't'),
    ("output-duplicates", 'v'), ("strings", 'S'), ("traditional", 'T'), ("width", 'w'),
    ("endian", 'E')]

def baseOf? : Raw → Option Nat
  | 'd' :: _ => some 10
  | 'o' :: _ => some 8
  | 'x' :: _ => some 16
  | 'n' :: _ => some 0
  | _ => none

/-- A count of bytes, which may be octal or hexadecimal. -/
def countOf (option : String) (a : Raw) : Except Raw Nat :=
  let bad := "invalid ".toList ++ option.toList ++ " argument ".toList ++ Quotation.text a
  match a with
  | '0' :: 'x' :: ds | '0' :: 'X' :: ds =>
    if ds ≠ [] && ds.all (Numeral.isDigit 16) then .ok (Numeral.ofDigits 16 ds) else .error bad
  | '0' :: d :: ds =>
    if (d :: ds).all (Numeral.isDigit 8) then .ok (Numeral.ofDigits 8 (d :: ds)) else .error bad
  | _ =>
    match Size.read? Size.usual a with
    | .ok n => .ok n
    | .error _ => .error bad

/-- A place among the operands: octal, or decimal with a point behind it. -/
def placeOf? : Raw → Option Nat
  | '+' :: ds =>
    let row := ds.takeWhile Char.isDigit
    let scale := fun (base : Nat) (rest : Raw) =>
      if row = [] || !row.all (Numeral.isDigit base) then none
      else match rest with
        | [] => some (Numeral.ofDigits base row)
        | ['b'] => some (Numeral.ofDigits base row * 512)
        | _ => none
    match ds.drop row.length with
    | '.' :: rest => scale 10 rest
    | rest => scale 8 rest
  | _ => none

def least (xs : List Nat) : Nat := xs.foldl Nat.lcm 1

/-- What the options ask for. -/
structure Wish where
  manner : Manner
  skipped : Nat
  limit : Option Nat
  strings : Option Nat
  remark : Raw := []

def wishOf (os : List (Char × Raw)) : Except Raw Wish := do
  let base ← match Letter.value? 'A' os with
    | none => pure 8
    | some a => match baseOf? a with
      | some n => pure n
      | none => .error ("invalid output address radix '".toList ++ a.take 1 ++
          "'; it must be one character from [doxn]".toList)
  let count := fun (c : Char) =>
    match Letter.value? c os with
    | none => Except.ok none
    | some a => (countOf (String.ofList ['-', c]) a).map some
  let skipped ← count 'j'
  let limit ← count 'N'
  let strings ← count 'S'
  let forms ← allForms os
  let forms := if forms = [] then [⟨'o', 2, false⟩] else forms
  let unit := least (forms.map Form.size)
  let usual := unit * max 1 (16 / unit)
  let (block, remark) ← match Letter.value? 'w' os with
    | none => pure (usual, [])
    | some a => do
      let n ← if a = [] then pure 32 else countOf "-w" a
      if n ≠ 0 ∧ n % unit = 0 then pure (n, [])
      else pure (unit, "warning: invalid width ".toList ++ Numeral.natText 10 n ++
        "; using ".toList ++ Numeral.natText 10 unit ++ " instead".toList)
  let descending := (Letter.value? 'E' os).any fun a => a.head? = some 'b'
  return ⟨⟨forms, base, block, descending, Letter.has 'v' os⟩, skipped.getD 0, limit, strings,
    remark⟩

/-- What is shown of a text. -/
def Wish.text (w : Wish) (t : Raw) : Raw :=
  let t := t.drop w.skipped
  let t := match w.limit with
    | some n => t.take n
    | none => t
  match w.strings with
  | some n => w.manner.strings n w.skipped [] t
  | none => w.manner.text w.skipped t

def od (self : String) (args : List Raw) : Act Nat := do
  let told (r : Notice) : Act Nat := r.act self 1
  let front := self.toList ++ ": ".toList
  match Letter.split grammar args with
  | .error f => told (f.report self 1)
  | .ok (os, names) =>
    match wishOf os with
    | .error t => told (.complain (front ++ t) 1)
    | .ok w =>
      let modern := os.any fun o => "AjNStw".contains o.1
      let (w, names) := match names.reverse with
        | last :: before =>
          match if modern || 1 < before.length then none else placeOf? last with
          | some n => ({ w with skipped := n }, before.reverse)
          | none => (w, names)
        | [] => (w, names)
      if w.remark ≠ [] then Notice.warn (front ++ w.remark)
      let end? := w.limit.map (· + w.skipped)
      Reading.act {
        program := self, names
        complaint := fun name e => Quotation.faultLine self.toList name e
        enough := fun t => end?.any (· ≤ t.length)
        block := fun t => match end? with
          | some n => min (n - t.length) Act.blockSize
          | none => Act.blockSize
        used := fun t => match end? with
          | some n => min n t.length
          | none => t.length
        write := fun sources =>
          let text := sources.flatMap Source.text
          if sources.isEmpty then ([], 1)
          else if text.length < w.skipped then (Reading.atEnd sources [], 1)
          else (Reading.atEnd sources (w.text text), 0)
        remarks := fun sources =>
          if !sources.isEmpty && (sources.flatMap Source.text).length < w.skipped then
            front ++ "cannot skip past end of combined input\n".toList
          else [] }

end ServiceStack.Dump
