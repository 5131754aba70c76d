import ServiceStack.Machine.Tool.Quotation
import ServiceStack.Machine.Tool.Reading

/-!
Lines in order. A line has its place by keys, which are parts of it read as texts, numbers, months
or versions; the first key that differs counts, and then the whole line.
-/

namespace ServiceStack.Order

/-! ### What is compared -/

/-- How a key is read. -/
inductive Kind where
  | text
  | number
  | general
  | human
  | month
  | version
deriving DecidableEq, Repr

/-- What is compared of a line, brought into a form in which it is compared easily. -/
inductive Measure where
  | text (t : Raw)
  /-- a number over a power of ten -/
  | number (n : Int) (places : Nat)
  /-- what is no number comes first, then what is undefined, then all numbers -/
  | general (rank : Nat) (n : Int) (den : Nat)
  /-- first by the unit, then by the number -/
  | human (unit : Int) (n : Int) (places : Nat)
  | month (n : Nat)
  | version (t : Raw)
deriving Repr

def isGap (c : Char) : Bool := c = ' ' || c = '\t' || c = '\n'

/-- A number of digits with a point at the start of a text, and what follows. -/
def leading (t : Raw) : Int × Nat × Raw :=
  let t := t.dropWhile isGap
  let negative := t.head? = some '-'
  let whole := Numeral.digits 10 (if negative then t.tail else t)
  let part := match whole.2 with
    | '.' :: rest => Numeral.digits 10 rest
    | rest => ([], rest)
  let n : Int := Numeral.ofDigits 10 (whole.1 ++ part.1)
  (if negative then -n else n, part.1.length, part.2)

def months : List String :=
  ["JAN", "FEB", "MAR", "APR", "MAY", "JUN", "JUL", "AUG", "SEP", "OCT", "NOV", "DEC"]

def measure (k : Kind) (t : Raw) : Measure :=
  match k with
  | .text => .text t
  | .number =>
    let r := leading t
    .number r.1 r.2.1
  | .human =>
    let r := leading t
    let unit : Int := match r.2.2 with
      | c :: _ => if c = 'k' then 1 else ("KMGTPEZYRQ".toList.idxOf? c).elim 0 fun i => i + 1
      | [] => 0
    let unit := if r.1 = 0 then 0 else if r.1 < 0 then -unit else unit
    .human unit r.1 r.2.1
  | .general =>
    match Numeral.fraction? t with
    | none => .general 0 0 1
    | some (_, .undefined, _) => .general 1 0 1
    | some (negative, .infinite, _) => .general (if negative then 2 else 4) 0 1
    | some (negative, .finite num den, _) => .general 3 (if negative then -num else num) den
  | .month =>
    let name := ((t.dropWhile isGap).take 3).map Char.toUpper
    .month ((months.idxOf? (String.ofList name)).elim 0 (· + 1))
  | .version => .version t

/-! ### Versions -/

/-- The place of a byte in a version: a tilde comes before the end, letters before other bytes. -/
def versionRank : Raw → Int
  | [] => -1
  | c :: _ => if c.isDigit then 0 else if c.isAlpha then c.toNat
      else if c = '~' then -2 else c.toNat + 256

/-- Compares texts without digits and numbers in turn. -/
def compareParts : Nat → Raw → Raw → Ordering
  | 0, _, _ => .eq
  | n + 1, a, b =>
    if a = [] && b = [] then .eq
    else
      let text := fun (t : Raw) => t.head?.any fun c => !c.isDigit
      if text a || text b then
        if versionRank a ≠ versionRank b then compare (versionRank a) (versionRank b)
        else compareParts n a.tail b.tail
      else
        let da := (Numeral.digits 10 a).1
        let db := (Numeral.digits 10 b).1
        match compare (Numeral.ofDigits 10 da) (Numeral.ofDigits 10 db) with
        | .eq => compareParts n (a.drop da.length) (b.drop db.length)
        | o => o

/-- A name without the endings behind its last points. -/
def stem (t : Raw) : Raw :=
  let n := (t.zipIdx.foldl (fun (kept : Nat × Bool) x =>
    let letter := x.1.isAlpha || x.1 = '~'
    let i := x.2
    if i = 0 then (1, false)
    else if x.1 = '.' && (t[i + 1]?).any (fun c => c.isAlpha || c = '~') then (kept.1, true)
    else if kept.2 && (letter || x.1.isDigit) then (kept.1, true)
    else (i + 1, false)) (0, false)).1
  t.take n

def compareVersions (a b : Raw) : Ordering :=
  let parts := fun (a b : Raw) => compareParts (a.length + b.length + 1) a b
  let hidden := fun (t : Raw) => t.head? = some '.'
  if a = [] || b = [] then compare a.length b.length
  else if hidden a != hidden b then (if hidden a then .lt else .gt)
  else
    let rank := fun (t : Raw) => if t = ['.'] then 0 else if t = ['.', '.'] then 1 else 2
    if hidden a && (rank a < 2 || rank b < 2) then compare (rank a) (rank b)
    else match parts (stem a) (stem b) with
      | .eq => parts a b
      | o => o

namespace Measure

def compare (a b : Measure) : Ordering :=
  let tens := fun (n : Nat) => ((Nat.pow 10 n : Nat) : Int)
  match a, b with
  | .text a, .text b => Ord.compare a b
  | .number m p, .number n q => Ord.compare (m * tens q) (n * tens p)
  | .general r m c, .general s n d =>
    (Ord.compare r s).then (Ord.compare (m * d) (n * c))
  | .human u m p, .human v n q => (Ord.compare u v).then (Ord.compare (m * tens q) (n * tens p))
  | .month m, .month n => Ord.compare m n
  | .version a, .version b => compareVersions a b
  | _, _ => .eq

end Measure

/-! ### Keys -/

/-- What is made of a key before it is read, and whether its order is turned round. -/
structure Manner where
  kind : Kind := .text
  fold : Bool := false
  dictionary : Bool := false
  visible : Bool := false
  reversed : Bool := false
  /-- letters that were given -/
  letters : Raw := []

def Manner.isUsual (m : Manner) : Bool :=
  m.kind = .text && !m.fold && !m.dictionary && !m.visible && !m.reversed

/-- A part of a line: from a field and a byte of it to a field and a byte of it. -/
structure Key where
  word : Nat := 0
  byte : Nat := 0
  /-- the field behind the end, or the byte in it; none for the end of the line -/
  till : Option (Nat × Nat) := none
  skipsFirst : Bool := false
  skipsLast : Bool := false
  manner : Manner := {}

/-- What follows so many fields. -/
def afterFields (separator : Option Char) : Nat → Raw → Raw
  | 0, t => t
  | n + 1, t =>
    match separator with
    | some d => afterFields separator n ((t.dropWhile (· ≠ d)).drop 1)
    | none => afterFields separator n ((t.dropWhile isGap).dropWhile (!isGap ·))

/-- The length of a line up to the end of a key. -/
def endOf (separator : Option Char) (skips : Bool) (word byte : Nat) (t : Raw) : Nat :=
  if byte ≠ 0 then
    let rest := afterFields separator word t
    let rest := if skips then rest.dropWhile isGap else rest
    t.length - rest.length + byte
  else match separator with
    | some d =>
      let rest := afterFields separator word t
      t.length - (rest.dropWhile (· ≠ d)).length
    | none => t.length - (afterFields separator (word + 1) t).length

/-- The bytes of a key. -/
def Key.part (separator : Option Char) (k : Key) (t : Raw) : Raw :=
  let rest := afterFields separator k.word t
  let rest := if k.skipsFirst then rest.dropWhile isGap else rest
  let start := t.length - rest.length + k.byte
  let stop := match k.till with
    | none => t.length
    | some (word, byte) => endOf separator k.skipsLast word byte t
  (t.drop start).take (stop - start)

/-- The bytes that count, as they are compared. -/
def Manner.apply (m : Manner) (t : Raw) : Raw :=
  let t := if m.dictionary then t.filter fun c => c.isAlphanum || c = ' ' || c = '\t'
    else if m.visible then t.filter fun c => ' ' ≤ c && c ≤ '~' else t
  if m.fold then t.map Char.toUpper else t

def Key.measure (separator : Option Char) (k : Key) (t : Raw) : Measure :=
  Order.measure k.manner.kind (k.manner.apply (k.part separator t))

/-- An order of lines. -/
structure Rule where
  separator : Option Char := none
  keys : List Key := []
  reversed : Bool := false
  stable : Bool := false
  unique : Bool := false

/-- A line with what decides its place. -/
structure Item where
  line : Raw
  measures : List Measure

def Rule.item (r : Rule) (l : Raw) : Item := ⟨l, r.keys.map (·.measure r.separator l)⟩

def flip (reversed : Bool) (o : Ordering) : Ordering := if reversed then o.swap else o

/-- The order of two lines by their keys. -/
def Rule.compareKeys (r : Rule) (a b : Item) : Ordering :=
  go r.keys a.measures b.measures
where
  go : List Key → List Measure → List Measure → Ordering
    | k :: ks, x :: xs, y :: ys =>
      match flip k.manner.reversed (x.compare y) with
      | .eq => go ks xs ys
      | o => o
    | _, _, _ => .eq

def Rule.compare (r : Rule) (a b : Item) : Ordering :=
  match r.compareKeys a b with
  | .eq =>
    if r.keys ≠ [] && (r.stable || r.unique) then .eq
    else flip r.reversed (Ord.compare a.line b.line)
  | o => o

/-- Drops each line that has the place of the one before it. -/
def distinct (same : Item → Item → Bool) : List Item → List Item
  | [] => []
  | [l] => [l]
  | a :: b :: ls => if same a b then distinct same (a :: ls) else a :: distinct same (b :: ls)

/-- Lines in their order. -/
def Rule.sort (r : Rule) (lines : List Item) : List Item :=
  let sorted := lines.mergeSort fun a b => r.compare a b ≠ .gt
  if r.unique then distinct (fun a b => r.compare a b = .eq) sorted else sorted

/-- Lines of texts that are in order themselves. -/
def Rule.merge (r : Rule) (texts : List (List Item)) : List Item :=
  let merged := texts.foldl (fun a b => List.merge a b fun x y => r.compare x y ≠ .gt) []
  if r.unique then distinct (fun a b => r.compare a b = .eq) merged else merged

/-- The number of the first line that is out of order, and the line. -/
def Rule.disorder (r : Rule) : Nat → List Item → Option (Nat × Raw)
  | n, a :: b :: ls =>
    let o := r.compare a b
    if o = .gt || r.unique && o = .eq then some (n + 1, b.line) else r.disorder (n + 1) (b :: ls)
  | _, _ => none

/-- Texts in units that each end with some byte. -/
def unitsOf (stop : Char) (text : Raw) : List Raw :=
  let parts := text.splitOn stop
  if parts.getLast? = some [] then parts.dropLast else parts

end ServiceStack.Order
