import Mathlib.Tactic.SplitIfs
import ServiceStack.Proofs.Text.Utf8

/-!
What the lossy text of octets is.

`Reads` says it without a machine: where a character stands it is shown, and where none stands the
maximal subpart in front is shown as one mark. A subpart is what some character begins with, or a
single octet.

The machine agrees with this. Its invariant ties the octets of an unfinished character to the state:
they begin exactly the characters whose numbers lie in the range of the state, so a byte is admitted
exactly if some character goes on with it.
-/

namespace ServiceStack.Utf8

/-- Some character begins with these octets. -/
def Begins (u : Octets) : Prop := ∃ c, u <+: encodeChar c

/-- What may be malformed as one: octets that some character begins with, or a single one. -/
def Subpart (u : Octets) : Prop := u ≠ [] ∧ (Begins u ∨ u.length = 1)

/-- No character stands in front of `bs`, and `u` is the longest subpart there. -/
structure Maximal (u bs : Octets) : Prop where
  astray : ∀ c, ¬ encodeChar c <+: bs
  front : u <+: bs
  subpart : Subpart u
  longest : ∀ v, v <+: bs → Subpart v → v.length ≤ u.length

/-- The text that octets are shown as. -/
inductive Reads : Octets → List Char → Prop
  | nil : Reads [] []
  | char {bs : Octets} {cs : List Char} (c : Char) (rest : Reads bs cs) :
    Reads (encodeChar c ++ bs) (c :: cs)
  | malformed {u bs : Octets} {cs : List Char} (bad : Maximal u (u ++ bs)) (rest : Reads bs cs) :
    Reads (u ++ bs) ('\uFFFD' :: cs)

/-! ### The octets of a character -/

/-- The first octet of the character of some number. -/
def first (n : Nat) : Nat :=
  if n < 0x80 then n
  else if n < 0x800 then n / 64 + 0xC0
  else if n < 0x10000 then n / 64 ^ 2 + 0xE0
  else n / 64 ^ 3 + 0xF0

/-- How many octets follow the first one. -/
def trailing (n : Nat) : Nat :=
  if n < 0x80 then 0 else if n < 0x800 then 1 else if n < 0x10000 then 2 else 3

/-- The last octets of the character of some number, six bits in each. -/
def trail : Nat → Nat → Octets
  | 0, _ => []
  | k + 1, n => UInt8.ofNat (n / 64 ^ k % 64 + 0x80) :: trail k n

lemma toNat_lt (c : Char) : c.toNat < 0xD800 ∨ 0xE000 ≤ c.toNat ∧ c.toNat < 0x110000 := by
  have h : c.toNat < 0xD800 ∨ 0xDFFF < c.toNat ∧ c.toNat < 0x110000 := c.valid
  omega

lemma encodeChar_eq (c : Char) :
    encodeChar c = UInt8.ofNat (first c.toNat) :: trail (trailing c.toNat) c.toNat := by
  have hc := toNat_lt c
  have hn : c.val.toNat = c.toNat := rfl
  simp only [encodeChar, String.utf8EncodeChar, first, trailing, hn]
  generalize c.toNat = n at hc
  by_cases h₁ : n < 0x80
  · rw [if_pos (by omega), if_pos h₁, if_pos h₁]
    rfl
  rw [if_neg (by omega), if_neg h₁, if_neg h₁]
  by_cases h₂ : n < 0x800
  · rw [if_pos (by omega), if_pos h₂, if_pos h₂, Nat.mod_eq_of_lt (by omega)]
    simp [trail]
  rw [if_neg (by omega), if_neg h₂, if_neg h₂]
  by_cases h₃ : n < 0x10000
  · rw [if_pos (by omega), if_pos h₃, if_pos h₃, Nat.mod_eq_of_lt (by omega)]
    simp [trail]
  · rw [if_neg (by omega), if_neg h₃, if_neg h₃, Nat.mod_eq_of_lt (by omega)]
    simp [trail]

lemma eq_of_encodeChar_append {c d : Char} {bs bs' : Octets}
    (h : encodeChar c ++ bs = encodeChar d ++ bs') : c = d ∧ bs = bs' := by
  have hcd : c = d := by
    have hc := @ByteArray.utf8DecodeChar?_utf8EncodeChar_append bs.toByteArray c
    have hd := @ByteArray.utf8DecodeChar?_utf8EncodeChar_append bs'.toByteArray d
    rw [← List.toByteArray_append] at hc hd
    rw [show String.utf8EncodeChar c ++ bs = String.utf8EncodeChar d ++ bs' from h] at hc
    exact Option.some.inj (hc.symm.trans hd)
  subst hcd
  exact ⟨rfl, List.append_cancel_left h⟩

lemma encodeChar_ne_nil (c : Char) : encodeChar c ≠ [] := by simp [encodeChar_eq]

/-! ### The state of an unfinished character -/

/-- How many octets an unfinished character still needs. -/
def State.owed : State → Nat
  | .ground => 0
  | .inside _ after _ => after + 1

/-- The octets read of an unfinished character begin the characters in the range of the state. -/
structure Stands (u : Octets) (s : State) : Prop where
  ne_nil : u ≠ []
  within : ∀ c, u <+: encodeChar c → s.least ≤ c.toNat ∧ c.toNat < s.bound
  spelled : ∀ c, s.least ≤ c.toNat → c.toNat < s.bound → encodeChar c = u ++ trail s.owed c.toNat

lemma high_le (next : Next) : next.low.toNat ≤ next.high.toNat ∧ next.high.toNat ≤ 0xBF := by
  cases next <;> decide

lemma least_lt_bound (next : Next) (after acc : Nat) :
    (State.inside next after acc).least < (State.inside next after acc).bound := by
  have hh := high_le next
  exact Nat.mul_lt_mul_of_pos_right (by omega) (Nat.pow_pos (by decide))

/-- The range of a state in terms of the octet that comes next. -/
lemma range_iff {next : Next} {after acc n : Nat} :
    (State.inside next after acc).least ≤ n ∧ n < (State.inside next after acc).bound ↔
      n / 64 ^ after / 64 = acc ∧ next.low.toNat ≤ n / 64 ^ after % 64 + 0x80 ∧
        n / 64 ^ after % 64 + 0x80 ≤ next.high.toNat := by
  have hl := le_low next
  have hh := high_le next
  have hpos : 0 < 64 ^ after := Nat.pow_pos (by decide)
  rw [State.least, State.bound, ← Nat.le_div_iff_mul_le hpos, ← Nat.div_lt_iff_lt_mul hpos]
  omega

lemma range_cons {next : Next} {b : UInt8} {k acc n : Nat} (h : next.admits b = true) :
    (State.inside .any k (acc * 64 + (b.toNat - 0x80))).least ≤ n ∧
        n < (State.inside .any k (acc * 64 + (b.toNat - 0x80))).bound ↔
      ((State.inside next (k + 1) acc).least ≤ n ∧ n < (State.inside next (k + 1) acc).bound) ∧
        n / 64 ^ (k + 1) % 64 + 0x80 = b.toNat := by
  obtain ⟨hl, hh⟩ := le_of_admits h
  have hlow := le_low next
  have hhigh := high_le next
  have hany : Next.any.low.toNat = 0x80 ∧ Next.any.high.toNat = 0xBF := ⟨rfl, rfl⟩
  rw [range_iff, range_iff, Nat.pow_succ, ← Nat.div_div_eq_div_mul, hany.1, hany.2]
  omega

namespace Stands

variable {u : Octets} {next : Next} {after acc : Nat} {b : UInt8}

lemma octet_eq {c : Char} (hs : Stands u (.inside next after acc)) (h : u ++ [b] <+: encodeChar c) :
    c.toNat / 64 ^ after % 64 + 0x80 = b.toNat := by
  have hu : u <+: encodeChar c := (List.prefix_append u [b]).trans h
  rw [hs.spelled c (hs.within c hu).1 (hs.within c hu).2, List.prefix_append_right_inj] at h
  obtain ⟨hb, -⟩ := List.cons_prefix_cons.mp h
  rw [hb, UInt8.toNat_ofNat']
  omega

/-- A byte that is not admitted goes on with no character. -/
lemma not_begins (hs : Stands u (.inside next after acc)) (h : next.admits b = false) :
    ¬ Begins (u ++ [b]) := by
  rintro ⟨c, hc⟩
  have hr := range_iff.mp (hs.within c ((List.prefix_append u [b]).trans hc))
  rw [hs.octet_eq hc] at hr
  have : next.admits b = true := by
    simpa [Next.admits, UInt8.le_iff_toNat_le] using hr.2
  simp [h] at this

lemma inside {k : Nat} (hs : Stands u (.inside next (k + 1) acc)) (h : next.admits b = true) :
    Stands (u ++ [b]) (.inside .any k (acc * 64 + (b.toNat - 0x80))) where
  ne_nil := by simp
  within c hc :=
    (range_cons h).mpr ⟨hs.within c ((List.prefix_append u [b]).trans hc), hs.octet_eq hc⟩
  spelled c hl hb := by
    obtain ⟨hr, ho⟩ := (range_cons h).mp ⟨hl, hb⟩
    rw [hs.spelled c hr.1 hr.2, State.owed, trail, ho, UInt8.ofNat_toNat, List.append_assoc]
    rfl

lemma complete (hs : Stands u (.inside next 0 acc)) (hb : (State.inside next 0 acc).Beyond)
    (h : next.admits b = true) :
    encodeChar (Char.ofNat (acc * 64 + (b.toNat - 0x80))) = u ++ [b] := by
  obtain ⟨hl, hh⟩ := le_of_admits h
  have hlow := le_low next
  obtain ⟨-, hsur, hbd⟩ := hb
  obtain ⟨n, hn⟩ : ∃ n, n = acc * 64 + (b.toNat - 0x80) := ⟨_, rfl⟩
  rw [← hn]
  have hr : (State.inside next 0 acc).least ≤ n ∧ n < (State.inside next 0 acc).bound := by
    have hhigh := high_le next
    rw [range_iff, Nat.pow_zero, Nat.div_one]
    omega
  have hc : (Char.ofNat n).toNat = n := by
    refine toNat_ofNat ?_
    unfold Nat.isValidChar
    omega
  rw [hs.spelled _ (hc.symm ▸ hr.1) (hc.symm ▸ hr.2), hc, State.owed, trail, trail, Nat.pow_zero,
    Nat.div_one]
  congr 2
  rw [← UInt8.toNat_inj, UInt8.toNat_ofNat']
  have := high_le next
  omega

lemma begins (hs : Stands u (.inside next after acc)) (hb : (State.inside next after acc).Beyond) :
    Begins u := by
  have hlt := least_lt_bound next after acc
  obtain ⟨-, hsur, hbd⟩ := hb
  obtain ⟨s, h⟩ : ∃ s, s = State.inside next after acc := ⟨_, rfl⟩
  rw [← h] at hs hlt hsur hbd
  have hc : (Char.ofNat s.least).toNat = s.least := by
    refine toNat_ofNat ?_
    unfold Nat.isValidChar
    omega
  exact ⟨_, _, (hs.spelled _ (Nat.le_of_eq hc.symm) (hc.symm ▸ hlt)).symm⟩

end Stands

/-! ### The first octet of a character -/

lemma singleton_prefix_encodeChar {b : UInt8} {c : Char} :
    [b] <+: encodeChar c ↔ first c.toNat = b.toNat := by
  have hc := toNat_lt c
  have hf : first c.toNat < 256 := by
    unfold first
    split_ifs <;> omega
  rw [encodeChar_eq, List.cons_prefix_cons, ← UInt8.toNat_inj, UInt8.toNat_ofNat',
    Nat.mod_eq_of_lt hf, eq_comm]
  simp

/-- Each row of the table of first bytes is about the characters that begin so. -/
lemma first_eq_iff {b : UInt8} {next : Next} {after acc n : Nat}
    (h : lead b = ([], .inside next after acc)) (hn : n < 0xD800 ∨ 0xE000 ≤ n ∧ n < 0x110000) :
    (first n = b.toNat ↔ (State.inside next after acc).least ≤ n ∧
        n < (State.inside next after acc).bound) ∧
      (first n = b.toNat → trailing n = after + 1) := by
  have hb := b.toNat_lt
  simp only [lead] at h
  repeat' split at h
  all_goals simp only [Prod.mk.injEq, State.inside.injEq, reduceCtorEq, and_false] at h
  all_goals
    obtain ⟨-, rfl, rfl, rfl⟩ := h
    simp only [State.least, State.bound, Next.low, Next.high, UInt8.reduceToNat,
      Nat.reducePow, Nat.reduceSub, first, trailing]
    constructor <;> split_ifs <;> omega

lemma stands_lead {b : UInt8} {next : Next} {after acc : Nat}
    (h : lead b = ([], .inside next after acc)) : Stands [b] (.inside next after acc) where
  ne_nil := by simp
  within c hc := (first_eq_iff h (toNat_lt c)).1.mp (singleton_prefix_encodeChar.mp hc)
  spelled c hl hlt := by
    obtain ⟨hrange, htrailing⟩ := first_eq_iff h (toNat_lt c)
    have hf := hrange.mpr ⟨hl, hlt⟩
    rw [encodeChar_eq, htrailing hf, hf, UInt8.ofNat_toNat]
    rfl

lemma not_begins_lead {b : UInt8} (h : lead b = ([.malformed], .ground)) : ¬ Begins [b] := by
  rintro ⟨c, hc⟩
  have hf := singleton_prefix_encodeChar.mp hc
  have hn := toNat_lt c
  have hb := b.toNat_lt
  simp only [first] at hf
  simp only [lead] at h
  repeat' split at h
  all_goals simp at h
  all_goals split_ifs at hf <;> omega

lemma encodeChar_ofNat {b : UInt8} (h : b.toNat < 0x80) : encodeChar (Char.ofNat b.toNat) = [b] := by
  have hn : (Char.ofNat b.toNat).toNat = b.toNat := toNat_ofNat (Or.inl (by omega))
  simp [encodeChar_eq, hn, first, trailing, h, trail]

/-! ### The reading -/

variable {u v bs : Octets} {cs : List Char}

lemma Begins.of_prefix (h : Begins v) (hu : u <+: v) : Begins u :=
  h.imp fun _ hc => hu.trans hc

/-- What stands in front of two parts ends in the first or goes on into the second. -/
lemma prefix_append_cases (h : v <+: u ++ bs) : v <+: u ∨ ∃ b ∈ bs.head?, u ++ [b] <+: v := by
  rcases List.prefix_or_prefix_of_prefix h (List.prefix_append u bs) with hv | ⟨w, rfl⟩
  · exact .inl hv
  · rcases w with _ | ⟨b, w⟩
    · exact .inl (by simp)
    · obtain ⟨t, rfl⟩ := (List.prefix_append_right_inj u).mp h
      exact .inr ⟨b, rfl, w, by simp⟩

/-- A subpart that holds no character is maximal if none goes on with the byte behind it. -/
lemma Subpart.maximal (hs : Subpart u) (hc : ∀ c, ¬ encodeChar c <+: u)
    (hb : ∀ b ∈ bs.head?, ¬ Begins (u ++ [b])) : Maximal u (u ++ bs) where
  astray c h := by
    rcases prefix_append_cases h with hu | ⟨b, hm, hu⟩
    · exact hc c hu
    · exact hb b hm ⟨c, hu⟩
  front := List.prefix_append u bs
  subpart := hs
  longest v h hv := by
    rcases prefix_append_cases h with hu | ⟨b, hm, hu⟩
    · exact hu.length_le
    · exfalso
      rcases hv.2 with hbeg | hone
      · exact hb b hm (hbeg.of_prefix hu)
      · have hle := hu.length_le
        have hpos := List.length_pos_iff.mpr hs.1
        rw [List.length_append, List.length_singleton] at hle
        omega

/-- An unfinished character is a maximal subpart where it breaks off. -/
lemma Stands.maximal {next : Next} {after acc : Nat} (hs : Stands u (.inside next after acc))
    (hbeyond : (State.inside next after acc).Beyond)
    (hb : ∀ b ∈ bs.head?, next.admits b = false) : Maximal u (u ++ bs) := by
  refine Subpart.maximal ⟨hs.ne_nil, .inl (hs.begins hbeyond)⟩ ?_ fun b hm => hs.not_begins (hb b hm)
  rintro c ⟨t, rfl⟩
  obtain ⟨d, w, hd⟩ := hs.begins hbeyond
  have hr := hs.within d ⟨w, hd⟩
  have hspelled := hs.spelled d hr.1 hr.2
  rw [List.append_assoc] at hspelled
  obtain ⟨-, hnil⟩ := eq_of_encodeChar_append ((List.append_nil _).trans hspelled)
  simp [State.owed, trail] at hnil

lemma maximal_lead {b : UInt8} (h : lead b = ([.malformed], .ground)) : Maximal [b] ([b] ++ bs) := by
  have hb := not_begins_lead h
  refine Subpart.maximal ⟨by simp, .inr rfl⟩ (fun c hc => ?_) fun a _ ha =>
    hb (ha.of_prefix (List.prefix_append [b] [a]))
  rcases List.prefix_cons_iff.mp hc with hnil | ⟨t, ht, -⟩
  · exact encodeChar_ne_nil c hnil
  · exact hb ⟨c, ht ▸ List.prefix_append [b] t⟩

lemma reads_piecesFrom (bs : Octets) :
    Reads bs ((piecesFrom .ground bs).map Piece.shown) ∧
      ∀ u next after acc, Stands u (.inside next after acc) →
        (State.inside next after acc).Beyond →
        Reads (u ++ bs) ((piecesFrom (.inside next after acc) bs).map Piece.shown) := by
  induction bs with
  | nil =>
    -- an unfinished character is broken off by the end
    refine ⟨.nil, fun u next after acc hs hb => ?_⟩
    exact .malformed (hs.maximal hb (by simp)) .nil
  | cons b bs ih =>
    obtain ⟨hground, hinside⟩ := ih
    have hlead : Reads (b :: bs) ((piecesFrom .ground (b :: bs)).map Piece.shown) := by
      rcases Nat.lt_or_ge b.toNat 0x80 with hb | hb
      · have := Reads.char (Char.ofNat b.toNat) hground
        rw [encodeChar_ofNat hb] at this
        simpa [feed, lead_of_lt hb, Piece.shown] using this
      · rcases lead_of_le hb with hl | ⟨next, after, acc, hl, hs⟩
        · simpa [feed, hl, Piece.shown] using Reads.malformed (maximal_lead hl) hground
        · simpa [feed, hl] using hinside [b] next after acc (stands_lead hl) hs
    refine ⟨hlead, fun u next after acc hs hbeyond => ?_⟩
    cases hb : next.admits b with
    | false =>
      -- it is broken off by the byte, which is then read as the first of what follows
      have hmax : Maximal u (u ++ b :: bs) := hs.maximal hbeyond (by simpa using hb)
      simpa [feed, hb, Piece.shown] using Reads.malformed hmax hlead
    | true =>
      cases after with
      | zero =>
        have := Reads.char (Char.ofNat (acc * 64 + (b.toNat - 0x80))) hground
        rw [hs.complete hbeyond hb] at this
        simpa [feed, hb, Piece.shown] using this
      | succ k =>
        simpa [feed, hb] using hinside _ _ _ _ (hs.inside hb) (hbeyond.inside hb)

lemma Maximal.ne_nil (h : Maximal u bs) : u ≠ [] := h.subpart.1

lemma Maximal.unique (hu : Maximal u bs) (hv : Maximal v bs) : u = v :=
  (List.prefix_of_prefix_length_le hu.front hv.front
    (hv.longest u hu.front hu.subpart)).eq_of_length_le (hu.longest v hv.front hv.subpart)

lemma Reads.unique {cs' : List Char} (h : Reads bs cs) (h' : Reads bs cs') : cs = cs' := by
  induction h generalizing cs' with
  | nil =>
    generalize hx : [] = x at h'
    cases h' with
    | nil => rfl
    | char c _ => exact absurd (List.append_eq_nil_iff.mp hx.symm).1 (encodeChar_ne_nil c)
    | malformed bad _ => exact absurd (List.append_eq_nil_iff.mp hx.symm).1 bad.ne_nil
  | @char bs cs c _ ih =>
    generalize hx : encodeChar c ++ bs = x at h'
    cases h' with
    | nil => exact absurd (List.append_eq_nil_iff.mp hx).1 (encodeChar_ne_nil c)
    | char d rest =>
      obtain ⟨rfl, rfl⟩ := eq_of_encodeChar_append hx
      rw [ih rest]
    | malformed bad _ => exact absurd ⟨bs, hx⟩ (bad.astray c)
  | @malformed u bs cs bad _ ih =>
    generalize hx : u ++ bs = x at h'
    cases h' with
    | nil => exact absurd (List.append_eq_nil_iff.mp hx).1 bad.ne_nil
    | @char bs' cs' d _ => exact absurd ⟨bs', hx.symm⟩ (bad.astray d)
    | malformed bad' rest =>
      rw [hx] at bad
      obtain rfl := bad.unique bad'
      obtain rfl := List.append_cancel_left hx
      rw [ih rest]

/-- **The lossy text** shows the characters and the maximal subparts of the octets. -/
lemma reads_iff : Reads bs cs ↔ lossyChars bs = cs :=
  ⟨fun h => (reads_piecesFrom bs).1.unique h, fun h => h ▸ (reads_piecesFrom bs).1⟩

end ServiceStack.Utf8
