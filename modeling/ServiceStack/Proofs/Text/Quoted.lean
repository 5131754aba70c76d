import Mathlib.Data.List.Basic
import Mathlib.Tactic.SplitIfs
import ServiceStack.Text.Quoted

/-!
Quoted texts say where they end.

A print is *self-ending* if nothing that follows it can be taken for a part of it: two prints with
something behind them are equal only if both parts are. A print that some sign closes is such if
the sign stands nowhere inside. This is how numbers in braces end.

A quoted text may hold its own closing sign, so this is not enough for it. It is a row of escapes,
each of them self-ending, and the closing quote begins none: `"` itself is written behind a
backslash.
-/

namespace ServiceStack.Text

/-- Whatever follows a print, it is known where the print ends and of what it is. -/
def SelfEnding {α : Type} (print : α → List Char) : Prop :=
  ∀ ⦃a b : α⦄ ⦃r s : List Char⦄, print a ++ r = print b ++ s → a = b ∧ r = s

lemma append_cons_inj {c : Char} {xs ys r s : List Char} (hx : c ∉ xs) (hy : c ∉ ys)
    (h : xs ++ c :: r = ys ++ c :: s) : xs = ys ∧ r = s := by
  induction xs generalizing ys with
  | nil =>
    cases ys with
    | nil => exact ⟨rfl, (List.cons.inj h).2⟩
    | cons y ys => exact absurd (List.cons.inj h).1 (List.ne_of_not_mem_cons hy)
  | cons x xs ih =>
    cases ys with
    | nil => exact absurd (List.cons.inj h).1.symm (List.ne_of_not_mem_cons hx)
    | cons y ys =>
      obtain ⟨rfl, htail⟩ := List.cons.inj h
      obtain ⟨rfl, hr⟩ :=
        ih (List.not_mem_of_not_mem_cons hx) (List.not_mem_of_not_mem_cons hy) htail
      exact ⟨rfl, hr⟩

/-- What is printed without a sign is known from what stands in front of it. -/
lemma eq_of_append_cons {α : Type} {print : α → List Char} {c : Char}
    (hinj : Function.Injective print) (hc : ∀ a, c ∉ print a) {a b : α} {r s : List Char}
    (h : print a ++ c :: r = print b ++ c :: s) : a = b ∧ r = s :=
  (append_cons_inj (hc a) (hc b) h).imp_left (@hinj a b)

namespace SelfEnding

variable {α : Type} {print : α → List Char} {c : Char}

lemma injective (h : SelfEnding print) : Function.Injective print := fun _ _ hab =>
  (h (congrArg (· ++ []) hab)).1

lemma closed (hinj : Function.Injective print) (hc : ∀ a, c ∉ print a) :
    SelfEnding fun a => print a ++ [c] := by
  intro a b r s h
  rw [List.append_assoc, List.append_assoc] at h
  exact eq_of_append_cons hinj hc h

/-- A sign that begins none of some self-ending prints closes a row of them. -/
lemma row (h : SelfEnding print) (hc : ∀ a, ∃ d r, print a = d :: r ∧ d ≠ c) :
    SelfEnding fun as : List α => as.flatMap print ++ [c] := by
  have hne : ∀ a r s, print a ++ r ≠ c :: s := by
    intro a r s heq
    obtain ⟨d, t, hd, hdc⟩ := hc a
    rw [hd] at heq
    exact hdc (List.cons.inj heq).1
  intro as bs r s heq
  simp only [List.append_assoc, List.singleton_append] at heq
  induction as generalizing bs with
  | nil =>
    cases bs with
    | nil => exact ⟨rfl, (List.cons.inj heq).2⟩
    | cons b bs =>
      rw [List.flatMap_cons, List.append_assoc] at heq
      exact absurd heq.symm (hne b _ r)
  | cons a as ih =>
    cases bs with
    | nil =>
      rw [List.flatMap_cons, List.append_assoc] at heq
      exact absurd heq (hne a _ s)
    | cons b bs =>
      rw [List.flatMap_cons, List.flatMap_cons, List.append_assoc, List.append_assoc] at heq
      obtain ⟨rfl, htail⟩ := h heq
      obtain ⟨rfl, hr⟩ := ih htail
      exact ⟨rfl, hr⟩

end SelfEnding

/-! ### Digits -/

lemma digitChar_inj : ∀ d < 16, ∀ e < 16, Nat.digitChar d = Nat.digitChar e → d = e := by decide

lemma exists_digit_of_mem {b n : Nat} (hb : 1 < b) {c : Char} (h : c ∈ Nat.toDigits b n) :
    ∃ d < b, c = Nat.digitChar d := by
  induction n using Nat.strongRecOn with
  | ind n ih =>
    rw [Nat.toDigits_eq_if hb] at h
    split_ifs at h with hn
    · exact ⟨n, hn, List.mem_singleton.mp h⟩
    · rcases List.mem_append.mp h with h | h
      · exact ih _ (Nat.div_lt_self (by omega) hb) h
      · exact ⟨n % b, Nat.mod_lt n (by omega), List.mem_singleton.mp h⟩

lemma toDigits_injective {b : Nat} (hb : 1 < b) (hle : b ≤ 16) :
    Function.Injective (Nat.toDigits b) := by
  have hdigit : ∀ {d e}, d < b → e < b → [Nat.digitChar d] = [Nat.digitChar e] → d = e :=
    fun hd he h => digitChar_inj _ (by omega) _ (by omega) (List.singleton_inj.mp h)
  have hlong : ∀ {k : Nat} {c d : Char}, Nat.toDigits b k ++ [c] ≠ [d] := by
    intro k c d hk
    have hlen := congrArg List.length hk
    rw [List.length_append, List.length_singleton, List.length_singleton] at hlen
    have := @Nat.length_toDigits_pos b k
    omega
  intro m n h
  induction m using Nat.strongRecOn generalizing n with
  | ind m ih =>
    rw [Nat.toDigits_eq_if hb, Nat.toDigits_eq_if (n := n) hb] at h
    split_ifs at h with hm hn hn
    · exact hdigit hm hn h
    · exact absurd h.symm hlong
    · exact absurd h hlong
    · obtain ⟨hdiv, hmod⟩ := List.append_inj' h rfl
      have hq : m / b = n / b := ih _ (Nat.div_lt_self (by omega) hb) hdiv
      have hr : m % b = n % b := hdigit (Nat.mod_lt m (by omega)) (Nat.mod_lt n (by omega)) hmod
      rw [← Nat.div_add_mod m b, hq, hr, Nat.div_add_mod]

/-! ### Escapes -/

/-- What a letter behind a backslash stands for. -/
def named? : Char → Option Char
  | '"' => some '"'
  | '\\' => some '\\'
  | 'n' => some '\n'
  | 'r' => some '\r'
  | 't' => some '\t'
  | '0' => some '\x00'
  | _ => none

/-- A character stands for itself, or behind a backslash there is a letter for it or its number. -/
lemma escape_cases (c : Char) :
    (escape c = [c] ∧ c ≠ '\\' ∧ c ≠ '"') ∨
      (∃ l, escape c = ['\\', l] ∧ named? l = some c) ∨
      escape c = ['\\', 'u', '\x7b'] ++ (hex c.toNat ++ ['\x7d']) := by
  unfold escape
  split_ifs with hquote hback hn hr ht h0 hhidden
  · exact .inr (.inl ⟨'"', rfl, by rw [hquote]; rfl⟩)
  · exact .inr (.inl ⟨'\\', rfl, by rw [hback]; rfl⟩)
  · exact .inr (.inl ⟨'n', rfl, by rw [hn]; rfl⟩)
  · exact .inr (.inl ⟨'r', rfl, by rw [hr]; rfl⟩)
  · exact .inr (.inl ⟨'t', rfl, by rw [ht]; rfl⟩)
  · exact .inr (.inl ⟨'0', rfl, by rw [h0]; rfl⟩)
  · exact .inr (.inr (List.append_assoc _ _ _))
  · exact .inl ⟨rfl, hback, hquote⟩

lemma selfEnding_hex : SelfEnding fun n => hex n ++ ['\x7d'] := by
  refine .closed (toDigits_injective (by decide) (by decide)) fun n hmem => ?_
  obtain ⟨d, hd, heq⟩ := exists_digit_of_mem (by decide) hmem
  have hbrace : ∀ d < 16, '\x7d' ≠ Nat.digitChar d := by decide
  exact hbrace d hd heq

lemma selfEnding_escape : SelfEnding escape := by
  intro c d r s h
  -- each of them stands for itself, is named by a letter, or is told by its number
  rcases escape_cases c with ⟨hc, hback, -⟩ | ⟨l, hc, hl⟩ | hc <;>
    rcases escape_cases d with ⟨hd, hback', -⟩ | ⟨l', hd, hl'⟩ | hd <;>
    rw [hc, hd] at h
  · simpa using h
  -- a character that stands for itself is no backslash
  · exact absurd (List.cons.inj h).1 hback
  · exact absurd (List.cons.inj h).1 hback
  · exact absurd (List.cons.inj h).1.symm hback'
  · simp only [List.cons_append, List.nil_append, List.cons.injEq, true_and] at h
    obtain ⟨rfl, hr⟩ := h
    exact ⟨Option.some.inj (hl.symm.trans hl'), hr⟩
  -- `u` names no character, it begins a number
  · obtain rfl : l = 'u' := (List.cons.inj (List.cons.inj h).2).1
    cases hl
  · exact absurd (List.cons.inj h).1.symm hback'
  · obtain rfl : l' = 'u' := (List.cons.inj (List.cons.inj h).2).1.symm
    cases hl'
  · rw [List.append_assoc, List.append_assoc _ (hex d.toNat ++ _)] at h
    obtain ⟨hn, hr⟩ := selfEnding_hex (List.append_cancel_left h)
    exact ⟨Char.toNat_inj.mp hn, hr⟩

lemma exists_escape_eq_cons (c : Char) : ∃ d r, escape c = d :: r ∧ d ≠ '"' := by
  rcases escape_cases c with ⟨hc, -, hquote⟩ | ⟨l, hc, -⟩ | hc
  · exact ⟨c, [], hc, hquote⟩
  · exact ⟨'\\', [l], hc, by decide⟩
  · exact ⟨'\\', _, hc, by decide⟩

/-- **A quoted text ends itself**, whatever it holds. -/
lemma selfEnding_quote : SelfEnding fun s : String => (quote s).toList := by
  intro s t r r' h
  simp only [quote, String.toList_ofList, List.cons_append, List.cons.injEq, true_and] at h
  obtain ⟨hst, hr⟩ := selfEnding_escape.row exists_escape_eq_cons h
  exact ⟨String.toList_inj.mp hst, hr⟩

end ServiceStack.Text
