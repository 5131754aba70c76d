import ServiceStack.Text.Digest.Basic

/-!
Sums over the bytes of a text that tell whether it has changed by accident.
-/

namespace ServiceStack.Digest

/-- The remainder of a text and its length by a polynomial over single bits. -/
def polynomial : UInt32 := 0x04C11DB7

def reduced : Nat → UInt32 → UInt32
  | 0, r => r
  | n + 1, r => reduced n ((r <<< 1) ^^^ (if r &&& 0x80000000 ≠ 0 then polynomial else 0))

/-- The remainders of all bytes. -/
def remainders : Array UInt32 :=
  ((List.range 256).map fun n => reduced 8 (UInt32.ofNat n <<< 24)).toArray

/-- The bytes of a length, the lowest first, without zeros behind them. -/
def lengthBytes : Nat → Nat → Raw
  | 0, _ | _, 0 => []
  | fuel + 1, n => Raw.byte n :: lengthBytes fuel (n / 256)

def remainder (text : Raw) : Nat :=
  let table := remainders
  let add := fun (r : UInt32) (c : Char) =>
    (r <<< 8) ^^^ table.getD ((r >>> 24).toNat ^^^ c.toNat % 256) 0
  (~~~ ((text ++ lengthBytes 16 text.length).foldl add 0)).toNat

/-- A sum of 16 bits that is turned by one bit before each byte. -/
def turning (text : Raw) : Nat :=
  text.foldl (fun n c => (n / 2 + n % 2 * 32768 + c.toNat) % 65536) 0

/-- The sum of all bytes, folded twice into 16 bits. -/
def folded (text : Raw) : Nat :=
  let n := text.foldl (fun n c => n + c.toNat) 0 % Nat.pow 2 32
  let fold := fun (n : Nat) => n % 65536 + n / 65536
  fold (fold n)

end ServiceStack.Digest
