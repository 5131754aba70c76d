/-!
How alike two words are, on a scale from 0 to 1: how many of their characters match, how many of the
matches are in order, and how many characters they begin with in common. The measure is a quotient
of small numbers and is kept exact.
-/

namespace ServiceStack.Text

/-- The matches between a typed word and a known one: which places of the known word are taken,
the place taken last, and how many places were taken out of order. -/
structure Matches where
  taken : List Nat
  last : Nat
  crossed : Nat

/-- The first free place of `word` within `reach` of place `i` that holds `c`. -/
def partner? (word : List Char) (reach i : Nat) (c : Char) (taken : List Nat) : Option Nat :=
  (List.range word.length).find? fun j =>
    i ≤ j + reach && j ≤ i + reach && word[j]? == some c && !taken.contains j

/-- One more character of the typed word. A match below the match before it is crossed. -/
def Matches.take (word : List Char) (reach : Nat) (m : Matches) (x : Char × Nat) : Matches :=
  match partner? word reach x.2 x.1 m.taken with
  | none => m
  | some j => ⟨j :: m.taken, j, m.crossed + if j < m.last then 1 else 0⟩

/-- Characters count as matching within half the longer length, less one. -/
def reach (a b : List Char) : Nat := max a.length b.length / 2 - 1

def pairing (typed word : List Char) : Matches :=
  typed.zipIdx.foldl (Matches.take word (reach typed word)) ⟨[], 0, 0⟩

/-- The mean of the matched share of each word and the share of matches that are in order. -/
def agreement (typed word : List Char) : Rat :=
  if typed = word then 1
  else if typed.length ≤ 1 ∧ word.length ≤ 1 then 0
  else
    let r := pairing typed word
    let m := r.taken.length
    if m = 0 then 0
    else ((m : Rat) / typed.length + (m : Rat) / word.length + ((m : Rat) - r.crossed) / m) / 3

/-- The length of the common beginning. -/
def commonStart : List Char → List Char → Nat
  | a :: as, b :: bs => if a = b then commonStart as bs + 1 else 0
  | _, _ => 0

/-- The agreement of two words, raised for what they begin with in common: each character of it takes
a tenth of the distance from 1 away. -/
def likeness (typed word : List Char) : Rat :=
  let plain := agreement typed word
  let raised := plain + (commonStart typed word : Rat) / 10 * (1 - plain)
  if raised < 1 then raised else 1

/-- A word more alike than four fifths replaces a best one that is less alike. -/
def nearer {α : Type} (best : Option (Rat × α)) (x : Rat × α) : Option (Rat × α) :=
  if x.1 > 4 / 5 ∧ best.all (fun b => b.1 < x.1) = true then some x else best

/-- The candidate whose word is most alike to what was typed, the first of equals, if one is alike
enough. -/
def closest? {α : Type} (typed : List Char) (word : α → List Char) (candidates : List α) :
    Option α :=
  ((candidates.map fun a => (likeness typed (word a), a)).foldl nearer none).map (·.2)

end ServiceStack.Text
