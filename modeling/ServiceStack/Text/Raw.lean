import ServiceStack.Text.Utf8

/-!
Bytes as characters. Programs cut, compare and number the bytes that they are given; they are easier
to read when each byte is held as the character of its number.
-/

namespace ServiceStack

/-- A row of bytes, each held as the character of its number. -/
abbrev Raw := List Char

namespace Raw

def ofOctets (bs : Octets) : Raw := bs.map fun b => Char.ofNat b.toNat

def toOctets (r : Raw) : Octets := r.map fun c => UInt8.ofNat c.toNat

/-- The character of a byte. Numbers of more than a byte lose their high bits. -/
def byte (n : Nat) : Char := Char.ofNat (n % 256)

/-- Texts are spread by a number to which every character adds. -/
@[reducible] def hashing : Hashable Raw :=
  ⟨fun t => t.foldl (fun h c => mixHash h c.toNat.toUInt64) 7⟩

/-! ### Rows of lines and words -/

def isBlank (c : Char) : Bool :=
  c = ' ' || c = '\t' || c = '\n' || c = '\x0b' || c = '\x0c' || c = '\r'

/-- The lines of a text. What follows the last line break is a line if it is not empty. -/
def lines : Raw → List Raw
  | [] => []
  | '\n' :: cs => [] :: lines cs
  | c :: cs =>
    match lines cs with
    | [] => [[c]]
    | l :: ls => (c :: l) :: ls

/-- A list in groups of some size; the last may be smaller. -/
def groups {α : Type} (size : Nat) : Nat → List α → List (List α)
  | 0, _ | _, [] => []
  | n + 1, xs => xs.take size :: groups size n (xs.drop size)

/-- The groups of a list that are told by its length. -/
def inGroups {α : Type} (size : Nat) (xs : List α) : List (List α) := groups size xs.length xs

end Raw

end ServiceStack
