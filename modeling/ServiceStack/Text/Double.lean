import ServiceStack.Text.Numeral

/-!
Binary numbers of 64 bits as exact fractions, and the numbers next to fractions.
-/

namespace ServiceStack.Double

open Numeral (Magnitude)

/-- Bits of a number behind its exponent. -/
def width : Nat := 52

/-- The exponents run over so many values, half of them below zero. -/
def exponents : Nat := 2048

/-- The last place of the smallest numbers is two to the power of this, below zero. -/
def depth : Nat := 1074

/-- The sign of a number and what it is without it. -/
def parts (x : Float) : Bool × Magnitude :=
  let bits := x.toBits.toNat
  let field := bits / Nat.pow 2 width
  let low := bits % Nat.pow 2 width
  let e := field % exponents
  let m : Magnitude :=
    if e = exponents - 1 then (if low = 0 then .infinite else .undefined)
    else
      let r := Numeral.scaled 2 (if e = 0 then low else low + Nat.pow 2 width) 1
        ((if e = 0 then 1 else e : Nat) - (depth + 1 : Nat))
      .finite r.1 r.2
  (exponents ≤ field, m)

def infinity : Float := 1.0 / 0.0

def undefined : Float := 0.0 / 0.0

/-- The number next to a fraction. -/
def ofFraction (num den : Nat) : Float :=
  if num = 0 then 0
  else
    let e := Numeral.orderFrom 2 num den (num.log2 - den.log2)
    let shift : Int := if (depth : Int) < width - e then depth else width - e
    let r := Numeral.scaled 2 num den shift
    (Float.ofNat (Numeral.nearest r.1 r.2)).scaleB (-shift)

def ofParts (v : Bool × Magnitude) : Float :=
  let x := match v.2 with
    | .finite num den => ofFraction num den
    | .infinite => infinity
    | .undefined => undefined
  if v.1 then -x else x

def ofInt (n : Int) : Float := ofParts (n < 0, .finite n.natAbs 1)

/-- A number without the places behind its point. -/
def whole (x : Float) : Float := if x < 0 then x.ceil else x.floor

/-- The whole number that a number is, if it is one. -/
def whole? (x : Float) : Option Int :=
  match parts x with
  | (negative, .finite num den) =>
    if num % den = 0 then
      let n : Int := (num / den : Nat)
      some (if negative then -n else n)
    else none
  | _ => none

/-- A number as a whole number between bounds. -/
def clamped (low high : Int) (x : Float) : Int :=
  match parts x with
  | (negative, .finite num den) =>
    let n : Int := (num / den : Nat)
    max low (min high (if negative then -n else n))
  | (negative, _) => if negative then low else high

/-- What a division leaves. It has the sign of the first number. -/
def remainder (x y : Float) : Float :=
  match parts x, parts y with
  | (negative, .finite a b), (_, .finite c d) =>
    if c = 0 then undefined
    else ofParts (negative, .finite (a * d % (c * b)) (b * d))
  | (_, .finite _ _), (_, .infinite) => x
  | _, _ => undefined

/-- The number at the start of a text, or zero. -/
def ofText (t : Raw) : Float :=
  match Numeral.fraction? t with
  | some (negative, m, _) => ofParts (negative, m)
  | none => 0

end ServiceStack.Double
