import ServiceStack.Text.Raw

/-!
Numerals: whole numbers in base eight, ten or sixteen, and decimals that are read as exact
fractions. A fraction is brought to a binary point number of some precision before it is written,
and written in fixed places, with an exponent, or in the shorter of the two.
-/

namespace ServiceStack.Numeral

/-! ### Reading -/

def digit? (base : Nat) (c : Char) : Option Nat :=
  let n :=
    if '0' ≤ c && c ≤ '9' then c.toNat - 48
    else if 'a' ≤ c && c ≤ 'f' then c.toNat - 87
    else if 'A' ≤ c && c ≤ 'F' then c.toNat - 55
    else 99
  if n < base then some n else none

def isDigit (base : Nat) (c : Char) : Bool := (digit? base c).isSome

/-- The number that a row of digits stands for. -/
def ofDigits (base : Nat) (ds : Raw) : Nat :=
  ds.foldl (fun n c => base * n + (digit? base c).getD 0) 0

/-- A row of digits at the start of a text, and what follows. -/
def digits (base : Nat) (cs : Raw) : Raw × Raw :=
  (cs.takeWhile (isDigit base), cs.dropWhile (isDigit base))

/-- A sign or none. -/
def sign : Raw → Bool × Raw
  | '-' :: cs => (true, cs)
  | '+' :: cs => (false, cs)
  | cs => (false, cs)

/-- The base that a numeral names, and its digits: `0x` and a digit for sixteen, `0` for eight. -/
def base : Raw → Nat × Raw
  | '0' :: x :: d :: cs =>
    if (x = 'x' || x = 'X') && isDigit 16 d then (16, d :: cs) else (8, '0' :: x :: d :: cs)
  | '0' :: cs => (8, '0' :: cs)
  | cs => (10, cs)

/-- A whole number behind blanks, in the base that it names, and what follows. -/
def integer? (cs : Raw) : Option (Int × Raw) :=
  let signed := sign (cs.dropWhile Raw.isBlank)
  let named := base signed.2
  let row := digits named.1 named.2
  if row.1 = [] then none
  else
    let n : Int := ofDigits named.1 row.1
    some (if signed.1 then -n else n, row.2)

/-- A whole number in base ten that fills a text up to blanks. -/
def decimal? (cs : Raw) : Option Int :=
  let signed := sign (cs.dropWhile Raw.isBlank)
  let row := digits 10 signed.2
  if row.1 = [] || !row.2.all Raw.isBlank then none
  else
    let n : Int := ofDigits 10 row.1
    some (if signed.1 then -n else n)

/-- A text of digits alone. -/
def natural? (cs : Raw) : Option Nat :=
  if cs ≠ [] ∧ cs.all (isDigit 10) then some (ofDigits 10 cs) else none

/-- How many numbers 64 bits hold, and how many of them are negative. -/
def wordSize : Nat := 0x10000000000000000

def halfWord : Nat := 0x8000000000000000

/-! ### Fractions -/

/-- A number without its sign. -/
inductive Magnitude where
  | finite (num den : Nat)
  | infinite
  | undefined
deriving DecidableEq, Repr

/-- The greatest exponent that is read as it is. What lies beyond is without bound, or zero. -/
def exponentLimit : Nat := 5000

/-- The fraction `num / den` times a power. -/
def scaled (radix num den : Nat) (e : Int) : Nat × Nat :=
  (num * Nat.pow radix e.toNat, den * Nat.pow radix (-e).toNat)

/-- A whole number times a power. -/
def scale (radix n : Nat) (e : Int) : Magnitude :=
  if n = 0 then .finite 0 1
  else if (exponentLimit : Int) < e then .infinite
  else if e < -2 * (exponentLimit : Int) then .finite 0 1
  else
    let r := scaled radix n 1 e
    .finite r.1 r.2

/-- An exponent behind its letter, if digits follow. -/
def exponent (letter : Char) (cs : Raw) : Int × Raw :=
  match cs with
  | c :: rest =>
    let signed := sign rest
    let row := digits 10 signed.2
    if c.toLower = letter ∧ row.1 ≠ [] then
      let n : Int := ofDigits 10 row.1
      (if signed.1 then -n else n, row.2)
    else (0, cs)
  | [] => (0, [])

/-- Digits with a point or without, and an exponent; every digit behind the point counts as
`step` of the exponent's radix. -/
def pointed (base radix step : Nat) (letter : Char) (cs : Raw) : Option (Magnitude × Raw) :=
  let whole := digits base cs
  let part := match whole.2 with
    | '.' :: rest => digits base rest
    | _ => ([], whole.2)
  let ds := whole.1 ++ part.1
  if ds = [] then none
  else
    let e := exponent letter part.2
    some (scale radix (ofDigits base ds) (e.1 - (step * part.1.length : Nat)), e.2)

/-- Takes a word from the start of a text, whatever its case. -/
def word? (w : String) (cs : Raw) : Option Raw :=
  if (cs.take w.length).map Char.toLower = w.toList then some (cs.drop w.length) else none

/-- A number without its sign, and what follows it. -/
def magnitude? (cs : Raw) : Option (Magnitude × Raw) :=
  match word? "infinity" cs <|> word? "inf" cs, word? "nan" cs with
  | some rest, _ => some (.infinite, rest)
  | none, some rest => some (.undefined, rest)
  | none, none =>
    match cs with
    | '0' :: x :: rest =>
      if x = 'x' || x = 'X' then
        match pointed 16 2 4 'p' rest with
        | some r => some r
        | none => some (.finite 0 1, x :: rest)
      else pointed 10 10 1 'e' cs
    | _ => pointed 10 10 1 'e' cs

/-- A number behind blanks: its sign, its magnitude and what follows. -/
def fraction? (cs : Raw) : Option (Bool × Magnitude × Raw) :=
  let signed := sign (cs.dropWhile Raw.isBlank)
  (magnitude? signed.2).map fun r => (signed.1, r.1, r.2)

/-! ### Writing -/

/-- The whole number next to a fraction; a half goes to the even neighbour. -/
def nearest (num den : Nat) : Nat :=
  let q := num / den
  let r := 2 * (num % den)
  if r < den then q else if den < r then q + 1 else q + q % 2

/-- The greatest power of a radix that is no greater than a fraction, near a first guess. -/
def orderFrom (radix num den : Nat) (guess : Int) : Int :=
  let r := scaled radix num den (-guess)
  if r.1 < r.2 then guess - 1 else guess

/-- The fraction next to `num / den` with `bits` binary digits. -/
def toBinary (bits num den : Nat) : Nat × Nat :=
  if num = 0 then (0, 1)
  else
    let e := orderFrom 2 num den (num.log2 - den.log2)
    let shift : Int := bits - 1 - e
    let r := scaled 2 num den shift
    scaled 2 (nearest r.1 r.2) 1 (-shift)

def natText (base n : Nat) : Raw := Nat.toDigits base n

def intText (n : Int) : Raw := if n < 0 then '-' :: natText 10 n.natAbs else natText 10 n.toNat

/-- Zeros in front up to a width. -/
def padZeros (width : Nat) (ds : Raw) : Raw := List.replicate (width - ds.length) '0' ++ ds

/-- A number with some places behind the point; the point stays without places if `always`. -/
def placed (always : Bool) (places : Nat) (n : Nat) : Raw :=
  let ds := padZeros (places + 1) (natText 10 n)
  let cut := ds.length - places
  ds.take cut ++ (if places = 0 && !always then [] else ['.']) ++ ds.drop cut

def fixed (always : Bool) (places num den : Nat) : Raw :=
  placed always places (nearest (num * Nat.pow 10 places) den)

/-- The digits of a number, one before the point, and its exponent of ten. -/
def scientific (places num den : Nat) : Nat × Int :=
  if num = 0 then (0, 0)
  else
    let e := orderFrom 10 num den ((natText 10 num).length - (natText 10 den).length)
    let r := scaled 10 num den (places - e)
    let n := nearest r.1 r.2
    if Nat.pow 10 (places + 1) ≤ n then (n / 10, e + 1) else (n, e)

def exponentText (letter : Char) (e : Int) : Raw :=
  [letter, if e < 0 then '-' else '+'] ++ padZeros 2 (natText 10 e.natAbs)

def exponential (always : Bool) (letter : Char) (places num den : Nat) : Raw :=
  let s := scientific places num den
  placed always places s.1 ++ exponentText letter s.2

/-- Takes the zeros from the end of some places, and then the point. -/
def trim (ds : Raw) : Raw :=
  if ds.contains '.' then
    let kept := (ds.reverse.dropWhile (· = '0')).reverse
    if kept.getLast? = some '.' then kept.dropLast else kept
  else ds

/-- As many digits as asked for, in fixed places if the exponent is small. -/
def general (always : Bool) (letter : Char) (count num den : Nat) : Raw :=
  let count := max count 1
  let s := scientific (count - 1) num den
  let kept := if always then id else trim
  if -4 ≤ s.2 ∧ s.2 < count then
    kept (fixed always ((count : Int) - 1 - s.2).toNat num den)
  else kept (placed always (count - 1) s.1) ++ exponentText letter s.2

/-- A number in base sixteen with an exponent of two. Its first digit takes `lead` of its `bits`;
without places as many digits are written as it has. -/
def hexadecimal (bits lead : Nat) (always : Bool) (places : Option Nat) (num den : Nat) : Raw :=
  let e : Int := if num = 0 then 0 else orderFrom 2 num den (num.log2 - den.log2) - (lead - 1)
  let count := places.getD ((bits - lead) / 4)
  let r := scaled 2 num den (4 * count - e)
  let ds := padZeros (count + 1) (natText 16 (nearest r.1 r.2))
  let front := ds.take (ds.length - count)
  let part := ds.drop (ds.length - count)
  let part := if places.isSome then part else (part.reverse.dropWhile (· = '0')).reverse
  ['0', 'x'] ++ front ++ (if part = [] && !always then [] else ['.']) ++ part ++
    ['p', if e < 0 then '-' else '+'] ++ natText 10 e.natAbs

end ServiceStack.Numeral
