import ServiceStack.Text.Numeral

/-!
Digests of texts: numbers of a fixed size that hardly two texts share. A text is filled up to whole
blocks of words, and each block is mixed into a state, word by word. Here stand the blocks and the
words; each kind of digest says how it mixes.
-/

namespace ServiceStack.Digest

/-- The number that bytes stand for, the highest first. -/
def ofBytes (bs : Raw) : Nat := bs.foldl (fun n c => n * 256 + c.toNat) 0

/-- A number in so many bytes, the highest first. -/
def toBytes : Nat → Nat → Raw
  | 0, _ => []
  | size + 1, n => toBytes size (n / 256) ++ [Raw.byte n]

/-- The digits of bytes, two for each. -/
def hexadecimal (bs : Raw) : Raw :=
  bs.flatMap fun c => Numeral.padZeros 2 (Numeral.natText 16 c.toNat)

/-- How a text becomes blocks of sixteen words. -/
structure Layout where
  /-- the bytes of a word -/
  size : Nat
  /-- whether the highest byte of a word comes first -/
  descending : Bool

namespace Layout

def number (y : Layout) (bs : Raw) : Nat := ofBytes (if y.descending then bs else bs.reverse)

def bytes (y : Layout) (size n : Nat) : Raw :=
  if y.descending then toBytes size n else (toBytes size n).reverse

/-- A text with a mark behind it, as many zeros as it needs, and its length in bits, which takes
two words. -/
def filled (y : Layout) (text : Raw) : Raw :=
  let block := 16 * y.size
  let used := (text.length + 1 + 2 * y.size) % block
  let zeros := if used = 0 then 0 else block - used
  text ++ '\x80' :: List.replicate zeros '\x00' ++ y.bytes (2 * y.size) (text.length * 8)

/-- The blocks of a text, as words. -/
def blocks (y : Layout) (text : Raw) : List (List Nat) :=
  Raw.inGroups 16 ((Raw.inGroups y.size (y.filled text)).map y.number)

end Layout

end ServiceStack.Digest
