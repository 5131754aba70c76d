import ServiceStack.Text.Raw
import Std.Data.HashSet

/-!
The edits that lead from one row of items to another, as few as possible. Items that only one row
has are edits in any case. For the others, paths of equal items are followed from both ends until
they meet, and the rows on either side of the meeting are compared in the same way. At last each
run of edits is moved as far back as equal items let it, and runs that touch become one.
-/

namespace ServiceStack.Difference

/-- Which items of the two rows are edited. -/
structure Marks where
  old : Array Bool
  new : Array Bool
deriving Repr

/-- Parts of two rows. -/
structure Box where
  x : Int
  xEnd : Int
  y : Int
  yEnd : Int

/-- How far paths have come on the diagonals between two. -/
structure Front where
  reach : Array Int
  shift : Int
  low : Int
  high : Int

namespace Front

def at? (f : Front) (d : Int) : Option Int := f.reach[(d + f.shift).toNat]?

def get (f : Front) (d : Int) : Int := (f.at? d).getD 0

def set (f : Front) (d v : Int) : Front :=
  { f with reach := f.reach.setIfInBounds (d + f.shift).toNat v }

/-- One more diagonal on each side, as long as there is one. -/
def widened (f : Front) (least most outside : Int) : Front :=
  let f := if least < f.low then ({ f with low := f.low - 1 } : Front).set (f.low - 2) outside
    else { f with low := f.low + 1 }
  if f.high < most then ({ f with high := f.high + 1 } : Front).set (f.high + 2) outside
  else { f with high := f.high - 1 }

/-- Every second diagonal, the highest first. -/
def diagonals (f : Front) : List Int :=
  (List.range ((f.high - f.low) / 2 + 1).toNat).map fun (k : Nat) => f.high - 2 * (k : Int)

def covers (f : Front) (d : Int) : Bool := f.low ≤ d && d ≤ f.high

end Front

section Paths

variable (same : Int → Int → Bool) (b : Box)

/-- The end of a path of equal items on a diagonal. -/
def forth (d : Int) : Nat → Int → Int
  | 0, x => x
  | n + 1, x => if x < b.xEnd && x - d < b.yEnd && same x (x - d) then forth d n (x + 1) else x

/-- The start of a path of equal items on a diagonal. -/
def back (d : Int) : Nat → Int → Int
  | 0, x => x
  | n + 1, x =>
    if b.x < x && b.y < x - d && same (x - 1) (x - d - 1) then back d n (x - 1) else x

def size : Nat := (b.xEnd - b.x + (b.yEnd - b.y)).toNat + 1

/-- One more edit on each path from the start, or the place where it meets one from the end. -/
def stepForth (other : Front) (meets : Bool) (f : Front) : List Int → Front × Option (Int × Int)
  | [] => (f, none)
  | d :: ds =>
    let low := f.get (d - 1)
    let high := f.get (d + 1)
    let x := forth same b d (size b) (if low < high then high else low + 1)
    if meets && other.covers d && other.get d ≤ x then (f, some (x, x - d))
    else stepForth other meets (f.set d x) ds

/-- One more edit on each path from the end, or the place where it meets one from the start. -/
def stepBack (other : Front) (meets : Bool) (f : Front) : List Int → Front × Option (Int × Int)
  | [] => (f, none)
  | d :: ds =>
    let low := f.get (d - 1)
    let high := f.get (d + 1)
    let x := back same b d (size b) (if low < high then low else high - 1)
    if meets && other.covers d && x ≤ other.get d then (f, some (x, x - d))
    else stepBack other meets (f.set d x) ds

/-- Where a shortest way from the start to the end can be cut in two. -/
def meeting (least most : Int) (odd : Bool) : Nat → Front → Front → Int × Int
  | 0, _, _ => (b.x, b.y)
  | n + 1, f, g =>
    let f := f.widened least most (-1)
    match stepForth same b g odd f f.diagonals with
    | (_, some p) => p
    | (f, none) =>
      let g := g.widened least most (b.xEnd + b.yEnd + 1)
      match stepBack same b f (!odd) g g.diagonals with
      | (_, some p) => p
      | (g, none) => meeting least most odd n f g

def cut : Int × Int :=
  let least := b.x - b.yEnd
  let most := b.xEnd - b.y
  let first := b.x - b.y
  let last := b.xEnd - b.yEnd
  let blank : Front := ⟨Array.replicate (most - least + 3).toNat 0, 1 - least, 0, 0⟩
  let f := ({ blank with low := first, high := first } : Front).set first b.x
  let g := ({ blank with low := last, high := last } : Front).set last b.xEnd
  meeting same b least most ((first - last) % 2 ≠ 0) (size b) f g

end Paths

/-- The items of parts of two rows that are edited. -/
def compare (same : Int → Int → Bool) : Nat → Box → List Nat × List Nat
  | 0, _ => ([], [])
  | n + 1, b =>
    let d := b.x - b.y
    let x := forth same b d (size b) b.x
    let b := { b with x := x, y := x - d }
    let e := b.xEnd - b.yEnd
    let xEnd := back same b e (size b) b.xEnd
    let b := { b with xEnd := xEnd, yEnd := xEnd - e }
    let row := fun (i j : Int) => (List.range (j - i).toNat).map fun k => i.toNat + k
    if b.x = b.xEnd then ([], row b.y b.yEnd)
    else if b.y = b.yEnd then (row b.x b.xEnd, [])
    else
      let (x, y) := cut same b
      let first := compare same n { b with xEnd := x, yEnd := y }
      let second := compare same n { b with x := x, y := y }
      (first.1 ++ second.1, first.2 ++ second.2)

/-! ### Moving runs of edits -/

section Moving

variable {α : Type} [BEq α] (items : Array α) (other : Array Bool)

def isMarked (marks : Array Bool) (n : Nat) : Bool := marks.getD n false

/-- The first place from some place on that is not marked. -/
def after (marks : Array Bool) : Nat → Nat → Nat
  | 0, n => n
  | fuel + 1, n => if isMarked marks n then after marks fuel (n + 1) else n

/-- The start of the marks right before a place. -/
def before (marks : Array Bool) : Nat → Nat
  | 0 => 0
  | n + 1 => if isMarked marks n then before marks n else n + 1

/-- The last place before some place that is not marked. -/
def previous (marks : Array Bool) : Nat → Nat
  | 0 => 0
  | n + 1 => if isMarked marks n then previous marks n else n

/-- A run of edits: where it starts and ends, and the place in the other row that belongs to its
end. -/
structure Run where
  marks : Array Bool
  start : Nat
  stop : Nat
  place : Nat
  /-- the last end at which the other row has edits too -/
  partner : Nat

def Run.same (i j : Nat) : Bool := items[i]? == items[j]?

/-- Moves a run back while the item before it equals its last one. -/
def Run.moveBack : Nat → Run → Run
  | 0, r => r
  | n + 1, r =>
    if 0 < r.start && same items (r.start - 1) (r.stop - 1) then
      let marks := (r.marks.setIfInBounds (r.start - 1) true).setIfInBounds (r.stop - 1) false
      moveBack n { r with
        marks := marks, start := before marks (r.start - 1), stop := r.stop - 1
        place := previous other r.place }
    else r

/-- Moves a run on while the item behind it equals its first one. -/
def Run.moveOn : Nat → Run → Run
  | 0, r => r
  | n + 1, r =>
    if r.stop < items.size && same items r.start r.stop then
      let marks := (r.marks.setIfInBounds r.start false).setIfInBounds r.stop true
      let stop := after marks items.size (r.stop + 1)
      let place := after other other.size (r.place + 1)
      moveOn n { r with
        marks := marks, start := r.start + 1, stop := stop, place := place
        partner := if r.place + 1 < place then stop else r.partner }
    else r

/-- Moves a run to and fro until it grows no more. -/
def Run.grown : Nat → Run → Run
  | 0, r => r
  | n + 1, r =>
    let length := r.stop - r.start
    let s := moveBack items other items.size r
    let s := { s with
      partner := if 0 < s.place && isMarked other (s.place - 1) then s.stop else items.size }
    let s := moveOn items other items.size s
    if s.stop - s.start = length then s else grown n s

/-- Moves a run back to the edits of the other row. -/
def Run.joined : Nat → Run → Run
  | 0, r => r
  | n + 1, r =>
    if r.partner < r.stop then
      joined n { r with
        marks := (r.marks.setIfInBounds (r.start - 1) true).setIfInBounds (r.stop - 1) false
        start := r.start - 1, stop := r.stop - 1, place := previous other r.place }
    else r

/-- Moves all runs from a place on. -/
def moved : Nat → Array Bool → Nat → Nat → Array Bool
  | 0, marks, _, _ => marks
  | n + 1, marks, i, j =>
    if items.size ≤ i then marks
    else if !isMarked marks i then moved n marks (i + 1) (after other other.size j + 1)
    else
      let stop := after marks items.size i
      let r : Run := ⟨marks, i, stop, after other other.size j, items.size⟩
      let r := Run.joined other items.size (Run.grown items other items.size r)
      moved n r.marks r.stop r.place

end Moving

/-! ### Edits -/

/-- Items that are replaced: where, and how many, in each row. -/
structure Edit where
  old : Nat
  oldCount : Nat
  new : Nat
  newCount : Nat
deriving DecidableEq, Repr

/-- The edits that marks tell. -/
def editsFrom (m : Marks) : Nat → Nat → Nat → List Edit
  | 0, _, _ => []
  | n + 1, i, j =>
    if m.old.size ≤ i ∧ m.new.size ≤ j then []
    else
      let iEnd := after m.old m.old.size i
      let jEnd := after m.new m.new.size j
      let rest := editsFrom m n (iEnd + 1) (jEnd + 1)
      if iEnd = i ∧ jEnd = j then rest else ⟨i, iEnd - i, j, jEnd - j⟩ :: rest

local instance itemHashing : Hashable Raw := Raw.hashing

/-- The edits that lead from one row to another. -/
def edits (old new : Array Raw) : List Edit :=
  let shared := fun (these those : Array Raw) =>
    let known := Std.HashSet.ofList those.toList
    ((List.range these.size).filter fun k => known.contains (these.getD k [])).toArray
  let xs := shared old new
  let ys := shared new old
  let same := fun (x y : Int) =>
    old[xs.getD x.toNat 0]? == new[ys.getD y.toNat 0]?
  let r := compare same (xs.size + ys.size + 1) ⟨0, xs.size, 0, ys.size⟩
  let marks := fun (size : Nat) (kept : Array Nat) (edited : List Nat) =>
    let edited := Std.HashSet.ofList edited
    kept.toList.zipIdx.foldl
      (fun (m : Array Bool) k => if edited.contains k.2 then m else m.setIfInBounds k.1 false)
      (Array.replicate size true)
  let oldMarks := marks old.size xs r.1
  let newMarks := marks new.size ys r.2
  let steps := old.size + new.size + 1
  let oldMarks := moved old newMarks steps oldMarks 0 0
  let newMarks := moved new oldMarks steps newMarks 0 0
  editsFrom ⟨oldMarks, newMarks⟩ steps 0 0

end ServiceStack.Difference
