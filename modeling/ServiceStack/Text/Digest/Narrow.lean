import ServiceStack.Text.Digest.Basic

/-!
Digests of 128, 160 and 256 bits that mix words of 32 bits and change their way of mixing once or
more.
-/

namespace ServiceStack.Digest

def rotated (w : UInt32) (n : Nat) : UInt32 :=
  (w <<< UInt32.ofNat n) ||| (w >>> UInt32.ofNat (32 - n))

/-- The choice of one of two words by the bits of the first. -/
def chosen (x y z : UInt32) : UInt32 := (x &&& y) ||| (~~~x &&& z)

/-- The bits that at least two words have. -/
def majority (x y z : UInt32) : UInt32 := (x &&& y) ||| (x &&& z) ||| (y &&& z)

namespace Md5

def layout : Layout := ⟨4, false⟩

structure State where
  a : UInt32
  b : UInt32
  c : UInt32
  d : UInt32

def start : State := ⟨0x67452301, 0xEFCDAB89, 0x98BADCFE, 0x10325476⟩

/-- The fractions of the sines of the first whole numbers, without sign. -/
def addends : List UInt32 := [
  0xD76AA478, 0xE8C7B756, 0x242070DB, 0xC1BDCEEE, 0xF57C0FAF, 0x4787C62A, 0xA8304613, 0xFD469501,
  0x698098D8, 0x8B44F7AF, 0xFFFF5BB1, 0x895CD7BE, 0x6B901122, 0xFD987193, 0xA679438E, 0x49B40821,
  0xF61E2562, 0xC040B340, 0x265E5A51, 0xE9B6C7AA, 0xD62F105D, 0x02441453, 0xD8A1E681, 0xE7D3FBC8,
  0x21E1CDE6, 0xC33707D6, 0xF4D50D87, 0x455A14ED, 0xA9E3E905, 0xFCEFA3F8, 0x676F02D9, 0x8D2A4C8A,
  0xFFFA3942, 0x8771F681, 0x6D9D6122, 0xFDE5380C, 0xA4BEEA44, 0x4BDECFA9, 0xF6BB4B60, 0xBEBFBC70,
  0x289B7EC6, 0xEAA127FA, 0xD4EF3085, 0x04881D05, 0xD9D4D039, 0xE6DB99E5, 0x1FA27CF8, 0xC4AC5665,
  0xF4292244, 0x432AFF97, 0xAB9423A7, 0xFC93A039, 0x655B59C3, 0x8F0CCC92, 0xFFEFF47D, 0x85845DD1,
  0x6FA87E4F, 0xFE2CE6E0, 0xA3014314, 0x4E0811A1, 0xF7537E82, 0xBD3AF235, 0x2AD7D2BB, 0xEB86D391]

/-- How far words are turned, in each of the four turns. -/
def turns : List (List Nat) := [[7, 12, 17, 22], [5, 9, 14, 20], [4, 11, 16, 23], [6, 10, 15, 21]]

/-- One step: its number and its addend. -/
def step (block : Array UInt32) (s : State) (n : Nat) (k : UInt32) : State :=
  let (mixed, place) : UInt32 × Nat := match n / 16 with
    | 0 => (chosen s.b s.c s.d, n)
    | 1 => (chosen s.d s.b s.c, 5 * n + 1)
    | 2 => (s.b ^^^ s.c ^^^ s.d, 3 * n + 5)
    | _ => (s.c ^^^ (s.b ||| ~~~s.d), 7 * n)
  let word := block.getD (place % 16) 0
  let turn := ((turns.getD (n / 16) []).getD (n % 4) 0)
  ⟨s.d, s.b + rotated (s.a + mixed + k + word) turn, s.b, s.c⟩

def mix (s : State) (block : List Nat) : State :=
  let block := (block.map UInt32.ofNat).toArray
  let r := addends.zipIdx.foldl (fun (t : State) k => step block t k.2 k.1) s
  ⟨s.a + r.a, s.b + r.b, s.c + r.c, s.d + r.d⟩

def digest (text : Raw) : Raw :=
  let s := (layout.blocks text).foldl mix start
  [s.a, s.b, s.c, s.d].flatMap fun w => layout.bytes 4 w.toNat

end Md5

namespace Sha1

def layout : Layout := ⟨4, true⟩

structure State where
  a : UInt32
  b : UInt32
  c : UInt32
  d : UInt32
  e : UInt32

def start : State := ⟨0x67452301, 0xEFCDAB89, 0x98BADCFE, 0x10325476, 0xC3D2E1F0⟩

def step (s : State) (n : Nat) (word : UInt32) : State :=
  let (mixed, k) : UInt32 × UInt32 := match n / 20 with
    | 0 => (chosen s.b s.c s.d, 0x5A827999)
    | 1 => (s.b ^^^ s.c ^^^ s.d, 0x6ED9EBA1)
    | 2 => (majority s.b s.c s.d, 0x8F1BBCDC)
    | _ => (s.b ^^^ s.c ^^^ s.d, 0xCA62C1D6)
  ⟨rotated s.a 5 + mixed + s.e + k + word, s.a, rotated s.b 30, s.c, s.d⟩

/-- The words of a block, and those that follow from them, the last first. -/
def schedule : Nat → Array UInt32 → Array UInt32
  | 0, ws => ws
  | n + 1, ws =>
    let back := fun (k : Nat) => ws.getD (ws.size - k) 0
    schedule n (ws.push (rotated (back 3 ^^^ back 8 ^^^ back 14 ^^^ back 16) 1))

def mix (s : State) (block : List Nat) : State :=
  let words := schedule 64 (block.map UInt32.ofNat).toArray
  let r := words.toList.zipIdx.foldl (fun (t : State) w => step t w.2 w.1) s
  ⟨s.a + r.a, s.b + r.b, s.c + r.c, s.d + r.d, s.e + r.e⟩

def digest (text : Raw) : Raw :=
  let s := (layout.blocks text).foldl mix start
  [s.a, s.b, s.c, s.d, s.e].flatMap fun w => layout.bytes 4 w.toNat

end Sha1

namespace Sm3

def layout : Layout := ⟨4, true⟩

structure State where
  a : UInt32
  b : UInt32
  c : UInt32
  d : UInt32
  e : UInt32
  f : UInt32
  g : UInt32
  h : UInt32

def State.words (s : State) : List UInt32 := [s.a, s.b, s.c, s.d, s.e, s.f, s.g, s.h]

def State.ofWords (ws : List UInt32) : State :=
  let get := fun (n : Nat) => ws.getD n 0
  ⟨get 0, get 1, get 2, get 3, get 4, get 5, get 6, get 7⟩

def start : State :=
  ⟨0x7380166F, 0x4914B2B9, 0x172442D7, 0xDA8A0600, 0xA96F30BC, 0x163138AA, 0xE38DEE4D, 0xB0FB0E4E⟩

/-- A word, and it turned in two ways, in one. -/
def spread (m n : Nat) (w : UInt32) : UInt32 := w ^^^ rotated w m ^^^ rotated w n

/-- One step: its number, and the words of its place and of the fourth place behind it. -/
def step (s : State) (n : Nat) (word later : UInt32) : State :=
  let early : Bool := n < 16
  let k : UInt32 := if early then 0x79CC4519 else 0x7A879D8A
  let first := rotated (rotated s.a 12 + s.e + rotated k (n % 32)) 7
  let second := first ^^^ rotated s.a 12
  let most := if early then s.a ^^^ s.b ^^^ s.c else majority s.a s.b s.c
  let choice := if early then s.e ^^^ s.f ^^^ s.g else chosen s.e s.f s.g
  ⟨most + s.d + second + (word ^^^ later), s.a, rotated s.b 9, s.c,
    spread 9 17 (choice + s.h + first + word), s.e, rotated s.f 19, s.g⟩

def schedule : Nat → Array UInt32 → Array UInt32
  | 0, ws => ws
  | n + 1, ws =>
    let back := fun (k : Nat) => ws.getD (ws.size - k) 0
    schedule n (ws.push (spread 15 23 (back 16 ^^^ back 9 ^^^ rotated (back 3) 15) ^^^
      rotated (back 13) 7 ^^^ back 6))

def mix (s : State) (block : List Nat) : State :=
  let words := (schedule 52 (block.map UInt32.ofNat).toArray).toList
  let r := (words.zip (words.drop 4)).zipIdx.foldl
    (fun (t : State) w => step t w.2 w.1.1 w.1.2) s
  .ofWords (s.words.zipWith (· ^^^ ·) r.words)

def digest (text : Raw) : Raw :=
  let s := (layout.blocks text).foldl mix start
  s.words.flatMap fun w => layout.bytes 4 w.toNat

end Sm3

end ServiceStack.Digest
