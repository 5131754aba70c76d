/-!
Octets and text.

Names, arguments and paths are octets, in which any byte may stand. They are read as UTF-8 one
byte at a time: `feed` takes one byte, `close` closes the input. What a byte completes is a
`Piece`: a character, or a *malformed* subpart. A malformed subpart is as long as it can be, that
is, it ends before the first byte that cannot follow. `lossy` shows each of them as one U+FFFD,
`decode?` refuses them.
-/

namespace ServiceStack

abbrev Octets := List UInt8

namespace Utf8

/-- The octets of a character. -/
abbrev encodeChar (c : Char) : Octets := String.utf8EncodeChar c

/-- The octets of a text. -/
def encode (s : String) : Octets := s.toList.flatMap encodeChar

/-- What a stretch of the input reads as. -/
inductive Piece where
  | char (c : Char)
  | malformed
deriving DecidableEq, Repr

/-- Which bytes may come next in an unfinished character. All of them lie between `80` and `BF`;
the second byte is held tighter where a shorter form, a surrogate or a too large number
would begin. -/
inductive Next where
  | any
  | fromA0
  | upTo9F
  | from90
  | upTo8F
deriving DecidableEq, Repr

def Next.low : Next → UInt8
  | .fromA0 => 0xA0
  | .from90 => 0x90
  | _ => 0x80

def Next.high : Next → UInt8
  | .upTo9F => 0x9F
  | .upTo8F => 0x8F
  | _ => 0xBF

def Next.admits (n : Next) (b : UInt8) : Bool := n.low ≤ b && b ≤ n.high

/-- Where the reading stands: between characters, or inside one, with the number read so far and
how many bytes follow the next one. -/
inductive State where
  | ground
  | inside (next : Next) (after : Nat) (acc : Nat)
deriving DecidableEq, Repr

/-- The reading of a byte that stands where a character begins. -/
def lead (b : UInt8) : List Piece × State :=
  let n := b.toNat
  if n < 0x80 then ([.char (Char.ofNat n)], .ground)
  else if n < 0xC2 then ([.malformed], .ground)
  else if n < 0xE0 then ([], .inside .any 0 (n - 0xC0))
  else if n = 0xE0 then ([], .inside .fromA0 1 0)
  else if n = 0xED then ([], .inside .upTo9F 1 0xD)
  else if n < 0xF0 then ([], .inside .any 1 (n - 0xE0))
  else if n = 0xF0 then ([], .inside .from90 2 0)
  else if n < 0xF4 then ([], .inside .any 2 (n - 0xF0))
  else if n = 0xF4 then ([], .inside .upTo8F 2 4)
  else ([.malformed], .ground)

/-- The reading of one more byte. A byte that cannot follow ends a malformed subpart and is read
as the beginning of the next character. -/
def feed : State → UInt8 → List Piece × State
  | .ground, b => lead b
  | .inside next after acc, b =>
    if next.admits b then
      let acc := acc * 64 + (b.toNat - 0x80)
      match after with
      | 0 => ([.char (Char.ofNat acc)], .ground)
      | k + 1 => ([], .inside .any k acc)
    else (.malformed :: (lead b).1, (lead b).2)

/-- What the end of the input leaves. -/
def close : State → List Piece
  | .ground => []
  | .inside .. => [.malformed]

def piecesFrom : State → Octets → List Piece
  | s, [] => close s
  | s, b :: bs => (feed s b).1 ++ piecesFrom (feed s b).2 bs

def pieces (bs : Octets) : List Piece := piecesFrom .ground bs

def Piece.shown : Piece → Char
  | .char c => c
  | .malformed => '\uFFFD'

def Piece.char? : Piece → Option Char
  | .char c => some c
  | .malformed => none

/-- The text of octets, each malformed subpart as one U+FFFD. -/
def lossyChars (bs : Octets) : List Char := (pieces bs).map Piece.shown

def lossy (bs : Octets) : String := String.ofList (lossyChars bs)

/-- The text of octets that are UTF-8 throughout. -/
def decode? (bs : Octets) : Option String := ((pieces bs).mapM Piece.char?).map String.ofList

def isValid (bs : Octets) : Bool := (decode? bs).isSome

@[simp] theorem piecesFrom_nil (s : State) : piecesFrom s [] = close s := rfl

@[simp] theorem piecesFrom_cons (s : State) (b : UInt8) (bs : Octets) :
    piecesFrom s (b :: bs) = (feed s b).1 ++ piecesFrom (feed s b).2 bs := rfl

/-- A space closes whatever is unfinished and stands for itself. -/
theorem feed_space (s : State) : feed s 0x20 = (close s ++ [.char ' '], .ground) := by
  cases s with
  | ground => rfl
  | inside next after acc => cases next <;> rfl

/-- What stands before a space and what stands behind it are read apart. -/
theorem piecesFrom_append_space (s : State) (xs ys : Octets) :
    piecesFrom s (xs ++ 0x20 :: ys) =
      piecesFrom s xs ++ .char ' ' :: piecesFrom .ground ys := by
  induction xs generalizing s with
  | nil => simp [feed_space]
  | cons x xs ih => simp [ih]

end Utf8

end ServiceStack
