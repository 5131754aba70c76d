import ServiceStack.Text.Digest.Basic

/-!
The digests of 224 bits and more that mix eight words of 32 or 64 bits, in one or two ways. Their
constants are the first bits of the fractions of roots of primes.
-/

namespace ServiceStack.Digest

/-! ### Roots -/

/-- The largest number whose power is at most some number, found bit by bit. -/
def rootFrom (power n : Nat) : Nat → Nat → Nat
  | 0, found => found
  | bit + 1, found =>
    let more := found + Nat.pow 2 bit
    rootFrom power n bit (if Nat.pow more power ≤ n then more else found)

def isPrime (n : Nat) : Bool := 2 ≤ n && (List.range n).all fun d => d < 2 || n % d ≠ 0

def primes (count : Nat) : List Nat := ((List.range 420).filter isPrime).take count

/-- The first 64 bits of the fraction of a root. -/
def rootFraction (power p : Nat) : Nat :=
  rootFrom power (p * Nat.pow 2 (64 * power)) 70 0 % Nat.pow 2 64

/-- The first 64 bits of the fractions of the cube roots of the first 80 primes. -/
def cubeRoots : List Nat := (primes 80).map (rootFraction 3)

/-- The first 64 bits of the fractions of the square roots of the first 16 primes. -/
def squareRoots : List Nat := (primes 16).map (rootFraction 2)

/-! ### Eight words -/

/-- Words that can be mixed. -/
class MixedWord (α : Type) where
  ofNat : Nat → α
  toNat : α → Nat
  sum : α → α → α
  difference : α → α → α
  meet : α → α → α
  complement : α → α
  turn : α → Nat → α
  shift : α → Nat → α
  /-- how far words are turned, and at last shifted: of the state, and of the words of a block -/
  turns : List Nat
  rounds : Nat
  layout : Layout
  constants : List α

instance : MixedWord UInt32 where
  ofNat := UInt32.ofNat
  toNat := UInt32.toNat
  sum := (· + ·)
  difference := (· ^^^ ·)
  meet := (· &&& ·)
  complement := (~~~ ·)
  turn w n := (w >>> UInt32.ofNat n) ||| (w <<< UInt32.ofNat (32 - n))
  shift w n := w >>> UInt32.ofNat n
  turns := [2, 13, 22, 6, 11, 25, 7, 18, 3, 17, 19, 10]
  rounds := 64
  layout := ⟨4, true⟩
  constants := (cubeRoots.take 64).map fun n => UInt32.ofNat (n / Nat.pow 2 32)

instance : MixedWord UInt64 where
  ofNat := UInt64.ofNat
  toNat := UInt64.toNat
  sum := (· + ·)
  difference := (· ^^^ ·)
  meet := (· &&& ·)
  complement := (~~~ ·)
  turn w n := (w >>> UInt64.ofNat n) ||| (w <<< UInt64.ofNat (64 - n))
  shift w n := w >>> UInt64.ofNat n
  turns := [28, 34, 39, 14, 18, 41, 1, 8, 7, 19, 61, 6]
  rounds := 80
  layout := ⟨8, true⟩
  constants := cubeRoots.map UInt64.ofNat

structure Eight (α : Type) where
  a : α
  b : α
  c : α
  d : α
  e : α
  f : α
  g : α
  h : α

namespace Eight

variable {α : Type} [MixedWord α]

open MixedWord

def toList (s : Eight α) : List α := [s.a, s.b, s.c, s.d, s.e, s.f, s.g, s.h]

def ofList (xs : List α) : Eight α :=
  let get := fun (n : Nat) => xs.getD n (ofNat 0)
  ⟨get 0, get 1, get 2, get 3, get 4, get 5, get 6, get 7⟩

/-- Three words from one, by the turns from a place on. -/
def spread (place : Nat) (ends : Bool) (w : α) : α :=
  let far := fun (n : Nat) => (turns α).getD (place + n) 0
  difference (turn w (far 0)) (difference (turn w (far 1))
    (if ends then shift w (far 2) else turn w (far 2)))

def step (s : Eight α) (k : α) : Eight α :=
  let choice := difference (meet s.e s.f) (meet (complement s.e) s.g)
  let most := difference (meet s.a s.b) (difference (meet s.a s.c) (meet s.b s.c))
  let first := sum s.h (sum (spread 3 false s.e) (sum choice k))
  let second := sum (spread 0 false s.a) most
  ⟨sum first second, s.a, s.b, s.c, sum s.d first, s.e, s.f, s.g⟩

/-- The words of a block, and those that follow from them. -/
def schedule : Nat → Array α → Array α
  | 0, ws => ws
  | n + 1, ws =>
    let back := fun (k : Nat) => ws.getD (ws.size - k) (ofNat 0)
    schedule n (ws.push (sum (spread 9 true (back 2)) (sum (back 7)
      (sum (spread 6 true (back 15)) (back 16)))))

def mix (constants : List α) (s : Eight α) (block : List Nat) : Eight α :=
  let words := schedule (rounds α - 16) (block.map fun n => (ofNat n : α)).toArray
  let r := (words.toList.zipWith sum constants).foldl step s
  ofList (s.toList.zipWith sum r.toList)

/-- The bytes of the digest of a text, from a state. -/
def digest (start : Eight α) (size : Nat) (text : Raw) : Raw :=
  let s := ((layout α).blocks text).foldl (mix (constants : List α)) start
  (s.toList.flatMap fun w => (layout α).bytes (layout α).size (toNat w)).take size

end Eight

namespace Sha2

def narrow (high : Bool) (roots : List Nat) : Eight UInt32 :=
  .ofList (roots.map fun n => UInt32.ofNat (if high then n / Nat.pow 2 32 else n))

def wide (roots : List Nat) : Eight UInt64 := .ofList (roots.map UInt64.ofNat)

def digest224 : Raw → Raw := (narrow false (squareRoots.drop 8)).digest 28

def digest256 : Raw → Raw := (narrow true (squareRoots.take 8)).digest 32

def digest384 : Raw → Raw := (wide (squareRoots.drop 8)).digest 48

def digest512 : Raw → Raw := (wide (squareRoots.take 8)).digest 64

end Sha2

/-! ### Sixteen words, in columns and in diagonals -/

namespace Blake

open MixedWord (turn)

def layout : Layout := ⟨8, false⟩

/-- In which order each round takes the words of a block. -/
def orders : List (List Nat) := [
  [0, 1, 2, 3, 4, 5, 6, 7, 8, 9, 10, 11, 12, 13, 14, 15],
  [14, 10, 4, 8, 9, 15, 13, 6, 1, 12, 0, 2, 11, 7, 5, 3],
  [11, 8, 12, 0, 5, 2, 15, 13, 10, 14, 3, 6, 7, 1, 9, 4],
  [7, 9, 3, 1, 13, 12, 11, 14, 2, 6, 5, 10, 4, 0, 15, 8],
  [9, 0, 5, 7, 2, 4, 10, 15, 14, 1, 11, 12, 6, 8, 3, 13],
  [2, 12, 6, 10, 0, 11, 8, 3, 4, 13, 7, 5, 15, 14, 1, 9],
  [12, 5, 1, 15, 14, 13, 4, 10, 0, 7, 6, 3, 9, 2, 8, 11],
  [13, 11, 7, 14, 12, 1, 3, 9, 5, 0, 15, 4, 8, 6, 2, 10],
  [6, 15, 14, 9, 11, 3, 0, 8, 12, 2, 13, 7, 1, 4, 10, 5],
  [10, 2, 8, 4, 7, 6, 1, 5, 15, 11, 9, 14, 3, 12, 13, 0]]

/-- The columns and the diagonals of four rows. -/
def lines : List (Nat × Nat × Nat × Nat) := [
  (0, 4, 8, 12), (1, 5, 9, 13), (2, 6, 10, 14), (3, 7, 11, 15),
  (0, 5, 10, 15), (1, 6, 11, 12), (2, 7, 8, 13), (3, 4, 9, 14)]

def start : Array UInt64 := ((squareRoots.take 8).map UInt64.ofNat).toArray

/-- Mixes two words into a line. -/
def stir (v : Array UInt64) (line : Nat × Nat × Nat × Nat) (x y : UInt64) : Array UInt64 :=
  let (i, j, k, l) := line
  let get := fun (n : Nat) => v.getD n 0
  let a := get i + get j + x
  let d := turn (get l ^^^ a) 32
  let c := get k + d
  let b := turn (get j ^^^ c) 24
  let a := a + b + y
  let d := turn (d ^^^ a) 16
  let c := c + d
  let b := turn (b ^^^ c) 63
  (((v.setIfInBounds i a).setIfInBounds j b).setIfInBounds k c).setIfInBounds l d

def mixRound (block : Array UInt64) (v : Array UInt64) (order : List Nat) : Array UInt64 :=
  (lines.zip (Raw.inGroups 2 order)).foldl (fun v p =>
    let word := fun (n : Nat) => block.getD (p.2.getD n 0) 0
    stir v p.1 (word 0) (word 1)) v

/-- Mixes a block into a state, after so many bytes; the last block is marked. -/
def mix (s : Array UInt64) (block : List Nat) (count : Nat) (last : Bool) : Array UInt64 :=
  let block := (block.map UInt64.ofNat).toArray
  let v := s ++ start
  let v := v.modify 12 (· ^^^ UInt64.ofNat count)
  let v := if last then v.modify 14 (~~~ ·) else v
  let v := (orders ++ orders.take 2).foldl (mixRound block) v
  (List.range 8).foldl (fun s n => s.modify n fun w => w ^^^ v.getD n 0 ^^^ v.getD (n + 8) 0) s

def mixAll (length : Nat) : Nat → List (List Nat) → Array UInt64 → Array UInt64
  | _, [], s => s
  | count, b :: bs, s =>
    mixAll length (count + 128) bs (mix s b (min (count + 128) length) (bs = []))

/-- The first bytes of the digest of a text; their number goes into the digest. -/
def digest (size : Nat) (text : Raw) : Raw :=
  let missing := if text = [] then 128 else (128 - text.length % 128) % 128
  let words := (Raw.inGroups 8 (text ++ List.replicate missing '\x00')).map layout.number
  let s := start.modify 0 (· ^^^ UInt64.ofNat (0x01010000 + size))
  ((mixAll text.length 0 (Raw.inGroups 16 words) s).toList.flatMap
    fun w => layout.bytes 8 w.toNat).take size

end Blake

end ServiceStack.Digest
