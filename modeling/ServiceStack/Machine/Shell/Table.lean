import ServiceStack.Text.Numeral

/-!
Tables of values. The places of a table are numbers, in their order, or any texts, in the order of a
number that is made of each text.
-/

namespace ServiceStack.Shell

/-- Values by their places. -/
structure Table where
  /-- whether the places are texts -/
  keyed : Bool := false
  items : List (Raw × Raw) := []
deriving DecidableEq, Repr

namespace Table

/-- The number of a text, by which texts are put into so many rows. -/
def rowOf (key : Raw) : Nat :=
  (key.foldl (fun n c => (n * 16777619 % 4294967296) ^^^ c.toNat) 2166136261) % 1024

/-- By this number the places of a table are in order. -/
def rank (keyed : Bool) (key : Raw) : Nat :=
  if keyed then rowOf key else (Numeral.natural? key).getD 0

def get? (t : Table) (key : Raw) : Option Raw := t.items.lookup key

def values (t : Table) : List Raw := t.items.map Prod.snd

/-- Gives a value to a place. A new place comes before others of its number. -/
def put (t : Table) (key value : Raw) : Table :=
  if (t.get? key).isSome then
    { t with items := t.items.map fun i => if i.1 = key then (key, value) else i }
  else
    let n := rank t.keyed key
    let before := t.items.takeWhile fun i => rank t.keyed i.1 < n
    { t with items := before ++ (key, value) :: t.items.drop before.length }

def erase (t : Table) (key : Raw) : Table := { t with items := t.items.filter (·.1 ≠ key) }

/-- The number behind the last place. -/
def next (t : Table) : Nat :=
  match t.items.getLast? with
  | some i => (Numeral.natural? i.1).getD 0 + 1
  | none => 0

/-- A table of values at the places 0, 1, 2 and so on. -/
def ofValues (vs : List Raw) : Table :=
  { items := vs.zipIdx.map fun v => (Numeral.natText 10 v.2, v.1) }

end Table

end ServiceStack.Shell
