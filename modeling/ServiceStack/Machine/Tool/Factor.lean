import ServiceStack.Machine.Tool.Letter
import ServiceStack.Machine.Tool.Quotation
import ServiceStack.Text.Numeral

/-!
Prime factors. Small ones are found by division; what is left is tested for being prime, and split
along a row of remainders that must come back to a place where it was.
-/

namespace ServiceStack.Factor

/-- `r * a ^ e` divided by `m`, as far as it is left. -/
def power (m : Nat) : Nat → Nat → Nat → Nat → Nat
  | 0, _, _, r => r
  | n + 1, a, e, r =>
    if e = 0 then r else power m n (a * a % m) (e / 2) (if e % 2 = 1 then r * a % m else r)

/-- How often two divides a number, and what is left. -/
def halves : Nat → Nat → Nat × Nat
  | 0, n => (0, n)
  | k + 1, n =>
    if n % 2 = 1 || n = 0 then (0, n)
    else
      let r := halves k (n / 2)
      (r.1 + 1, r.2)

/-- Whether the last of some numbers is reached by squaring. -/
def reaches (m goal : Nat) : Nat → Nat → Bool
  | 0, _ => false
  | n + 1, x => x = goal || reaches m goal n (x * x % m)

/-- Numbers whose powers tell composite numbers. -/
def bases : List Nat := [2, 3, 5, 7, 11, 13, 17, 19, 23, 29, 31, 37, 41, 43, 47, 53]

/-- Whether an odd number behaves like a prime for all bases. -/
def isPrime (m : Nat) : Bool :=
  if m < 2 then false
  else if bases.contains m then true
  else if bases.any (m % · = 0) then false
  else
    let h := halves (m.log2 + 1) (m - 1)
    bases.all fun a =>
      let x := power m (m.log2 + 1) a h.2 1
      x = 1 || reaches m (m - 1) h.1 x

/-- The next number of a row of remainders. -/
def hop (m c x : Nat) : Nat := (x * x + c) % m

/-- Walks along a row at two speeds until the places differ by a divisor. -/
def walk (m c : Nat) : Nat → Nat → Nat → Option Nat
  | 0, _, _ => none
  | n + 1, x, y =>
    let x := hop m c x
    let y := hop m c (hop m c y)
    let d := Nat.gcd (if x < y then y - x else x - y) m
    if d = 1 then walk m c n x y else if d = m then none else some d

/-- The most hops on a row, and the most rows. -/
def hopLimit : Nat := 2000000

def divisor? (m : Nat) : Option Nat :=
  (List.range 20).findSome? fun c => walk m (c + 1) hopLimit 2 2

/-- The prime factors of a number without small ones. -/
def split : Nat → Nat → List Nat
  | 0, m => [m]
  | n + 1, m =>
    if m < 2 then []
    else if isPrime m then [m]
    else match divisor? m with
      | some d => split n d ++ split n (m / d)
      | none => [m]

/-- Takes out all divisors up to a bound, and tells what is left. -/
def small (bound : Nat) : Nat → Nat → Nat → List Nat → List Nat × Nat
  | 0, _, m, found => (found, m)
  | n + 1, d, m, found =>
    if bound < d then (found, m)
    else if m < d * d then (if 1 < m then m :: found else found, 1)
    else if m % d = 0 then small bound n d (m / d) (d :: found)
    else small bound n (if d = 2 then 3 else d + 2) m found

/-- Divisors up to here are looked for one by one. -/
def smallBound : Nat := 4000

/-- The prime factors of a number in their order. -/
def primes (m : Nat) : List Nat :=
  if m < 2 then []
  else
    let r := small smallBound (smallBound + m.log2 + 1) 2 m []
    (r.1 ++ split (m.log2 + 1) r.2).mergeSort (· ≤ ·)

/-- Equal numbers that follow each other, and how many they are. -/
def runs : List Nat → List (Nat × Nat)
  | [] => []
  | p :: ps =>
    match runs ps with
    | (q, k) :: rest => if p = q then (p, k + 1) :: rest else (p, 1) :: (q, k) :: rest
    | [] => [(p, 1)]

def line (powers : Bool) (m : Nat) : Raw :=
  let ps := primes m
  let text := Numeral.natText 10
  let shown := if powers then
      (runs ps).map fun (p, k) => text p ++ if k = 1 then [] else '^' :: text k
    else ps.map text
  text m ++ ':' :: shown.flatMap (' ' :: ·) ++ ['\n']

/-- A whole number behind blanks and perhaps a plus. -/
def number? (a : Raw) : Option Nat :=
  match a.dropWhile (· = ' ') with
  | '+' :: ds => Numeral.natural? ds
  | ds => Numeral.natural? ds

def grammar : Letter.Grammar := { plain := "h", long := [("exponents", 'h')] }

def factor (self : String) (args : List Raw) : Act Nat := do
  match Letter.split grammar args with
  | .error f => (f.report self 1).act self 1
  | .ok (os, words) =>
    let words ← if words ≠ [] then pure words else do
      let text ← Act.readAll 0
      pure (((text.toOption.getD []).splitOnP fun c => " \t\n".contains c).filter (· ≠ []))
    let wrong := words.filter (number? · |>.isNone)
    let complaints := wrong.map fun a => (2, self.toList ++ ": ".toList ++ Quotation.text a ++
      " is not a valid positive integer\n".toList)
    let lines := (words.filterMap number?).map (line (Letter.has 'h' os))
    Notice.act self ⟨complaints ++ [(1, lines.flatten)], if wrong = [] then 0 else 1⟩ 1

end ServiceStack.Factor
