import Mathlib.Algebra.Ring.Nat
import ServiceStack.Text.Utf8

/-!
Text in ASCII reads only from its own bytes.

The invariant is on what an unfinished character may still become: all the numbers it can end at
are characters beyond ASCII. So whatever begins with a byte from `80` on shows something beyond
ASCII, a character or the mark of a malformed subpart.
-/

namespace ServiceStack.Utf8

/-- The least number that an unfinished character can end at. -/
def State.least : State → Nat
  | .ground => 0
  | .inside next after acc => (acc * 64 + (next.low.toNat - 0x80)) * 64 ^ after

/-- The number behind the greatest one that an unfinished character can end at. -/
def State.bound : State → Nat
  | .ground => 0
  | .inside next after acc => (acc * 64 + (next.high.toNat - 0x80) + 1) * 64 ^ after

/-- An unfinished character ends beyond ASCII, and at no surrogate. -/
structure State.Beyond (s : State) : Prop where
  ascii : 0x80 ≤ s.least
  surrogates : s.bound ≤ 0xD800 ∨ 0xE000 ≤ s.least
  bound : s.bound ≤ 0x110000

lemma toNat_ofNat {n : Nat} (h : n.isValidChar) : (Char.ofNat n).toNat = n := by
  rw [Char.ofNat, dif_pos h]
  rfl

lemma le_of_admits {next : Next} {b : UInt8} (h : next.admits b = true) :
    next.low.toNat ≤ b.toNat ∧ b.toNat ≤ next.high.toNat := by
  simpa [Next.admits, UInt8.le_iff_toNat_le] using h

lemma le_low (next : Next) : 0x80 ≤ next.low.toNat := by cases next <;> decide

lemma least_le_of_admits {next : Next} {b : UInt8} (h : next.admits b = true) (acc k : Nat) :
    (State.inside next (k + 1) acc).least ≤
        (State.inside .any k (acc * 64 + (b.toNat - 0x80))).least ∧
      (State.inside .any k (acc * 64 + (b.toNat - 0x80))).bound ≤
        (State.inside next (k + 1) acc).bound := by
  obtain ⟨hl, hh⟩ := le_of_admits h
  have hany : Next.any.low.toNat = 0x80 ∧ Next.any.high.toNat = 0xBF := ⟨rfl, rfl⟩
  simp only [State.least, State.bound, hany, Nat.pow_succ]
  rw [Nat.mul_comm (64 ^ k) 64, ← Nat.mul_assoc, ← Nat.mul_assoc]
  exact ⟨Nat.mul_le_mul_right _ (by omega), Nat.mul_le_mul_right _ (by omega)⟩

lemma State.Beyond.inside {next : Next} {b : UInt8} {acc k : Nat}
    (hs : (State.inside next (k + 1) acc).Beyond) (h : next.admits b = true) :
    (State.inside .any k (acc * 64 + (b.toNat - 0x80))).Beyond := by
  obtain ⟨hl, hb⟩ := least_le_of_admits h acc k
  obtain ⟨ha, hsur, hbd⟩ := hs
  exact ⟨by omega, by omega, by omega⟩

lemma State.Beyond.complete {next : Next} {b : UInt8} {acc : Nat}
    (hs : (State.inside next 0 acc).Beyond) (h : next.admits b = true) :
    0x80 ≤ (Char.ofNat (acc * 64 + (b.toNat - 0x80))).toNat := by
  obtain ⟨hl, hh⟩ := le_of_admits h
  have hlow := le_low next
  obtain ⟨ha, hsur, hbd⟩ := hs
  simp only [State.least, State.bound, Nat.pow_zero, Nat.mul_one] at ha hsur hbd
  rw [toNat_ofNat]
  · omega
  · unfold Nat.isValidChar
    omega

lemma le_mark : 0x80 ≤ Piece.malformed.shown.toNat := by decide

/-- Whatever follows, an unfinished character shows something beyond ASCII. -/
lemma exists_beyond_inside {next : Next} {after acc : Nat}
    (hs : (State.inside next after acc).Beyond) (bs : Octets) :
    ∃ c ∈ (piecesFrom (.inside next after acc) bs).map Piece.shown, 0x80 ≤ c.toNat := by
  induction bs generalizing next after acc with
  | nil => exact ⟨_, by simp [close], le_mark⟩
  | cons b bs ih =>
    cases hb : next.admits b with
    | false => exact ⟨_, by simp [feed, hb], le_mark⟩
    | true =>
      cases after with
      | zero =>
        refine ⟨Char.ofNat (acc * 64 + (b.toNat - 0x80)), ?_, hs.complete hb⟩
        simp [feed, hb, Piece.shown]
      | succ k => simpa [feed, hb] using ih (hs.inside hb)

/-- A byte from `80` on is malformed where a character begins, or leaves one that ends beyond. -/
lemma lead_of_le {b : UInt8} (h : 0x80 ≤ b.toNat) :
    lead b = ([.malformed], .ground) ∨
      ∃ next after acc, lead b = ([], .inside next after acc) ∧
        (State.inside next after acc).Beyond := by
  have hb := b.toNat_lt
  generalize hr : lead b = r
  -- one case for each row of the table of first bytes
  simp only [lead] at hr
  repeat' split at hr
  all_goals subst hr
  · omega
  · exact .inl rfl
  rotate_right
  · exact .inl rfl
  all_goals
    refine .inr ⟨_, _, _, rfl, ?_, ?_, ?_⟩ <;>
      simp only [State.least, State.bound, Next.low, Next.high, UInt8.reduceToNat,
        Nat.reducePow, Nat.reduceSub] <;>
      omega

lemma lead_of_lt {b : UInt8} (h : b.toNat < 0x80) :
    lead b = ([.char (Char.ofNat b.toNat)], .ground) := by
  simp [lead, h]

lemma lossyChars_cons_of_lt {b : UInt8} (h : b.toNat < 0x80) (bs : Octets) :
    lossyChars (b :: bs) = Char.ofNat b.toNat :: lossyChars bs := by
  simp [lossyChars, pieces, feed, lead_of_lt h, Piece.shown]

lemma lossyChars_of_ascii {bs : Octets} (h : ∀ b ∈ bs, b.toNat < 0x80) :
    lossyChars bs = bs.map fun b => Char.ofNat b.toNat := by
  induction bs with
  | nil => rfl
  | cons b bs ih =>
    rw [List.forall_mem_cons] at h
    rw [lossyChars_cons_of_lt h.1, ih h.2, List.map_cons]

lemma ascii_of_lossyChars {bs : Octets} (h : ∀ c ∈ lossyChars bs, c.toNat < 0x80) :
    ∀ b ∈ bs, b.toNat < 0x80 := by
  induction bs with
  | nil => simp
  | cons b bs ih =>
    rcases Nat.lt_or_ge b.toNat 0x80 with hb | hb
    · rw [lossyChars_cons_of_lt hb, List.forall_mem_cons] at h
      exact List.forall_mem_cons.mpr ⟨hb, ih h.2⟩
    · -- the first byte already shows something beyond ASCII
      exfalso
      have hex : ∃ c ∈ lossyChars (b :: bs), 0x80 ≤ c.toNat := by
        rcases lead_of_le hb with hl | ⟨next, after, acc, hl, hs⟩
        · exact ⟨_, by simp [lossyChars, pieces, feed, hl], le_mark⟩
        · simpa [lossyChars, pieces, feed, hl] using exists_beyond_inside hs bs
      obtain ⟨c, hc, hle⟩ := hex
      have := h c hc
      omega

/-- One letter over and over is shown by its byte over and over, and by nothing else. -/
lemma lossyChars_eq_replicate {a : UInt8} (ha : a.toNat < 0x80) {bs : Octets} {n : Nat} :
    lossyChars bs = List.replicate n (Char.ofNat a.toNat) ↔ bs = List.replicate n a := by
  have hval : ∀ b : UInt8, b.toNat < 0x80 → (Char.ofNat b.toNat).toNat = b.toNat :=
    fun b hb => toNat_ofNat (Or.inl (by omega))
  constructor
  · intro h
    have hb : ∀ b ∈ bs, b.toNat < 0x80 := by
      refine ascii_of_lossyChars fun c hc => ?_
      rw [h] at hc
      rw [List.eq_of_mem_replicate hc, hval a ha]
      exact ha
    rw [lossyChars_of_ascii hb, List.eq_replicate_iff, List.length_map] at h
    refine List.eq_replicate_iff.mpr ⟨h.1, fun b hm => UInt8.toNat_inj.mp ?_⟩
    rw [← hval b (hb b hm), h.2 _ (List.mem_map_of_mem hm), hval a ha]
  · rintro rfl
    rw [lossyChars_of_ascii, List.map_replicate]
    intro b hb
    rw [List.eq_of_mem_replicate hb]
    exact ha

end ServiceStack.Utf8
