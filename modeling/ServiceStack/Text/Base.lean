import ServiceStack.Text.Raw

/-!
Bytes in letters: a group of bytes is a number, which is written in the digits of a larger base.
What is missing of the last group is told by marks.
-/

namespace ServiceStack

/-- An alphabet, the bytes of a group and its letters, and the mark for a missing letter. -/
structure Base where
  letters : Raw
  bytes : Nat
  size : Nat
  mark : Option Char := some '='
  /-- the lowest digit of a group comes first -/
  ascending : Bool := false

namespace Base

def capitals : Raw := "ABCDEFGHIJKLMNOPQRSTUVWXYZ".toList

def digitLetters : Raw := "0123456789".toList

def base64 : Base where
  letters := capitals ++ capitals.map Char.toLower ++ digitLetters ++ ['+', '/']
  bytes := 3
  size := 4

/-- The letters that may stand in names of files. -/
def base64url : Base :=
  { base64 with letters := base64.letters.take 62 ++ ['-', '_'] }

def base32 : Base where
  letters := capitals ++ "234567".toList
  bytes := 5
  size := 8

/-- The letters whose order is that of the bytes. -/
def base32hex : Base := { base32 with letters := digitLetters ++ capitals.take 22 }

def base16 : Base where
  letters := digitLetters ++ capitals.take 6
  bytes := 1
  size := 2
  mark := none

/-- Single bits, the highest or the lowest first. -/
def bits (ascending : Bool) : Base where
  letters := ['0', '1']
  bytes := 1
  size := 8
  mark := none
  ascending := ascending

/-- Only whole groups can be written. -/
def base85 : Base where
  letters := digitLetters ++ capitals.map Char.toLower ++ capitals ++
    ".-:+=^!/*?&<>()[]\x7b\x7d@%$#".toList
  bytes := 4
  size := 5
  mark := none

variable (b : Base)

/-- The lowest digits of a number in a base, the highest first. -/
def digits (base : Nat) : Nat → Nat → List Nat
  | 0, _ => []
  | k + 1, n => digits base k (n / base) ++ [n % base]

def ordered (xs : List Nat) : List Nat := if b.ascending then xs.reverse else xs

/-- How many letters so many bytes of a group need. -/
def lettersFor (count : Nat) : Nat := (count * b.size + b.bytes - 1) / b.bytes

/-- One group of bytes in letters. -/
def encodeGroup (bs : Raw) : Raw :=
  let full := bs ++ List.replicate (b.bytes - bs.length) '\x00'
  let n := full.foldl (fun n c => n * 256 + c.toNat) 0
  let shown := (b.ordered (digits b.letters.length b.size n)).map fun d => b.letters.getD d '?'
  let used := b.lettersFor bs.length
  shown.take used ++ match b.mark with
    | some c => List.replicate (b.size - used) c
    | none => []

def encode (text : Raw) : Raw := (Raw.inGroups b.bytes text).flatMap b.encodeGroup

def digit? (c : Char) : Option Nat := b.letters.findIdx? (· = c)

/-- One group of letters in bytes, and whether it was whole and sound. Of a group of eight nothing
is read unless all its letters are there. -/
def decodeGroup (cs : Raw) : Raw × Bool :=
  let shown := cs.takeWhile fun c => (b.digit? c).isSome
  let marks := cs.drop shown.length
  let count := (List.range (b.bytes + 1)).reverse.find? fun n => b.lettersFor n ≤ shown.length
  let count := if b.size = 8 && cs.length < b.size then 0 else count.getD 0
  let ds := shown.filterMap b.digit? ++ List.replicate (b.size - shown.length) 0
  let n := (b.ordered ds).foldl (fun n d => n * b.letters.length + d) 0
  let sound := cs.length = b.size && marks.all (some · = b.mark) &&
    b.lettersFor count = shown.length && 0 < count
  (((digits 256 b.bytes n).take count).map Raw.byte, sound)

/-- The bytes of letters as far as they are sound, and whether all are. -/
def decodeGroups : List Raw → Raw × Bool
  | [] => ([], true)
  | cs :: more =>
    let r := b.decodeGroup cs
    if r.2 then
      let rest := decodeGroups more
      (r.1 ++ rest.1, rest.2)
    else (r.1, false)

def decode (cs : Raw) : Raw × Bool := b.decodeGroups (Raw.inGroups b.size cs)

end Base

end ServiceStack
