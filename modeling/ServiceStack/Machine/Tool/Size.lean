import ServiceStack.Failure.Errno
import ServiceStack.Machine.Tool.Quotation

/-!
Sizes: numbers behind which a letter may tell what they count.
-/

namespace ServiceStack.Size

/-- Why a text is no size. -/
inductive Fault where
  | invalid
  | tooLarge
deriving DecidableEq, Repr

/-- The powers of 1024, or of 1000, that letters stand for. -/
def powers : List (Char × Nat) := [
  ('k', 1), ('K', 1), ('m', 2), ('M', 2), ('g', 3), ('G', 3), ('t', 4), ('T', 4), ('P', 5),
  ('E', 6), ('Z', 7), ('Y', 8), ('R', 9), ('Q', 10)]

/-- What a unit stands for, if its letter is among those that are allowed. -/
def unit? (letters : String) : Raw → Option Nat
  | [] => some 1
  | c :: cs =>
    if !letters.contains c then none
    else match powers.lookup c, cs with
      | some p, [] | some p, ['i', 'B'] => some (Nat.pow 1024 p)
      | some p, ['B'] => some (Nat.pow 1000 p)
      | none, [] => [('b', 512), ('c', 1), ('w', 2), ('B', 1024)].lookup c
      | _, _ => none

/-- The letters that most programs allow. -/
def usual : String := "bkKmMGTPEZYRQ"

/-- A size of at most 64 bits. A letter alone stands for one of its units. -/
def read? (letters : String) (a : Raw) : Except Fault Nat :=
  let bare := a.dropWhile Raw.isBlank
  let bare := if bare.head? = some '+' then bare.tail else bare
  let row := Numeral.digits 10 bare
  if row.1 = [] && !(a.head?.any fun c => letters.contains c) then .error .invalid
  else match unit? letters row.2 with
    | none => .error .invalid
    | some u =>
      let n := u * (if row.1 = [] then 1 else Numeral.ofDigits 10 row.1)
      if Numeral.wordSize ≤ n then .error .tooLarge else .ok n

/-- What is told of a text that is no size. -/
def Fault.text (what : String) (a : Raw) : Fault → Raw
  | .invalid => what.toList ++ ": ".toList ++ Quotation.text a
  | .tooLarge => what.toList ++ ": ".toList ++ Quotation.text a ++ ": ".toList ++
      (Errno.EOVERFLOW).text.toList

end ServiceStack.Size
