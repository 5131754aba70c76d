import ServiceStack.Machine.Shell.Syntax
import ServiceStack.Text.Numeral

/-!
Words that stand for several words: alternatives between braces, and rows of numbers or letters.
What is quoted or expanded is carried along as it is.
-/

namespace ServiceStack.Shell.Brace

/-- A character that may be a sign, or a part that is none. -/
inductive Bit where
  | char (c : Char)
  | part (p : Part)

namespace Bit

def is (c : Char) : Bit → Bool
  | .char d => c = d
  | .part _ => false

def char? : Bit → Option Char
  | .char c => some c
  | .part _ => none

def ofPart : Part → List Bit
  | .text false s => s.map .char
  | p => [.part p]

def toPart : Bit → Part
  | .char c => .text false [c]
  | .part p => p

end Bit

def toWord (bs : List Bit) : Word := bs.foldr (fun b w => b.toPart.join w) []

/-- The alternatives behind an opening brace, up to the brace that closes them, and what follows. -/
def alternatives? : Nat → List Bit → List Bit → Option (List (List Bit) × List Bit)
  | _, _, [] => none
  | depth, held, b :: bs =>
    if b.is '{' then alternatives? (depth + 1) (b :: held) bs
    else if b.is '}' then
      if depth = 0 then some ([held.reverse], bs) else alternatives? (depth - 1) (b :: held) bs
    else if b.is ',' && depth = 0 then
      (alternatives? 0 [] bs).map fun r => (held.reverse :: r.1, r.2)
    else alternatives? depth (b :: held) bs

/-- A row of numbers from one to another, both of which are in it if the step leads there. -/
def row (a b step : Int) : List Int :=
  let size := (b - a).natAbs / step.natAbs
  (List.range (size + 1)).map fun (i : Nat) =>
    if a ≤ b then a + i * step.natAbs else a - i * step.natAbs

def numeral? (t : Raw) : Option Int :=
  if t.head? = some '+' then (Numeral.natural? t.tail).map fun n => (n : Int)
  else Numeral.decimal? t

/-- A number of some width, filled with zeros. -/
def padded (width : Nat) (n : Int) : Raw :=
  if n < 0 then '-' :: Numeral.padZeros (width - 1) (Numeral.natText 10 n.natAbs)
  else Numeral.padZeros width (Numeral.natText 10 n.toNat)

/-- The texts of a row between braces. -/
def rowTexts? (t : Raw) : Option (List Raw) :=
  let cut := fun (t : Raw) => (String.ofList t).splitOn ".." |>.map String.toList
  let step? := fun (s : Option Raw) => match s with
    | none => some 1
    | some s => (numeral? s).map fun n => if n = 0 then 1 else n
  match cut t with
  | a :: b :: more =>
    if 1 < more.length then none
    else (step? more.head?).bind fun step =>
      match numeral? a, numeral? b with
      | some m, some n =>
        let fills := fun (t : Raw) =>
          let ds := if t.head? = some '-' then t.tail else t
          1 < ds.length && ds.head? = some '0'
        let width := if fills a || fills b then max a.length b.length else 0
        some ((row m n step).map (padded width))
      | _, _ =>
        match a, b with
        | [c], [d] =>
          if c.isAlpha && d.isAlpha then
            some ((row c.toNat d.toNat step).map fun n => [Char.ofNat n.toNat])
          else none
        | _, _ => none
  | _ => none

/-- The rows of bits that a row of bits stands for. -/
def expandBits : Nat → List Bit → List (List Bit)
  | 0, bs => [bs]
  | n + 1, bs =>
    let front := bs.takeWhile fun b => !b.is '{'
    match bs.drop front.length with
    | [] => [bs]
    | o :: rest =>
      let literal := (expandBits n rest).map fun t => front ++ o :: t
      let spread := fun (inner : List (List Bit)) (after : List Bit) =>
        let tails := expandBits n after
        inner.flatMap fun i => tails.map fun t => front ++ i ++ t
      match alternatives? 0 [] rest with
      | some ([], _) | none => literal
      | some ([single], after) =>
        match single.mapM Bit.char? with
        | none => literal
        | some t =>
          match rowTexts? t with
          | some texts => spread (texts.map (·.map Bit.char)) after
          | none => literal
      | some (several, after) => spread (several.flatMap (expandBits n)) after

/-- The words that a word stands for. -/
def expand (w : Word) : List Word :=
  let bs := w.flatMap Bit.ofPart
  if bs.any (Bit.is '{') then
    ((expandBits (bs.length + 1) bs).map toWord).filter fun w => !w.isEmpty
  else [w]

end ServiceStack.Shell.Brace
