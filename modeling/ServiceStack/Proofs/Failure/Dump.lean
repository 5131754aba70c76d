import Mathlib
import ServiceStack.Program
import ServiceStack.Proofs.Text.Quoted

/-!
The dump of a failure tells which failure it is.

A dump begins with the name of its variant, and the variants of a type begin differently. What
follows are parts that say where they end: names and numbers, which hold no comma and no bracket
and so end at the next one, and quoted texts, which end themselves. So the parts are found again
from left to right, whatever the texts in them hold.
-/

namespace ServiceStack

open Text

/-! ### Names and numbers -/

/-- Names of letters and digits, no two of them the same. -/
structure Naming {α : Type} (name : α → String) : Prop where
  injective : Function.Injective name
  isAlphanum : ∀ a, ∀ c ∈ (name a).toList, c.isAlphanum

/-- A name ends where its letters end. -/
lemma Naming.eq_of_append {α : Type} {name : α → String} (hn : Naming name) {a b : α} {c : Char}
    (hc : c.isAlphanum = false) {r s : List Char}
    (h : (name a).toList ++ c :: r = (name b).toList ++ c :: s) : a = b ∧ r = s := by
  have hinj : Function.Injective fun a => (name a).toList := fun _ _ h =>
    hn.injective (String.toList_inj.mp h)
  refine eq_of_append_cons hinj (fun a ha => ?_) h
  simp [hn.isAlphanum a c ha] at hc

namespace IoKind

lemma mem_all (k : IoKind) : k ∈ all := by cases k <;> decide

lemma naming : Naming name where
  injective k l h := by
    have hnodup : (all.map name).Nodup := by decide +kernel
    exact List.inj_on_of_nodup_map hnodup k.mem_all l.mem_all h
  isAlphanum k := by
    rw [← List.all_eq_true]
    cases k <;> decide +kernel

end IoKind

namespace Errno

lemma mem_unknown_cons_named (e : Errno) : e ∈ unknown :: named := by cases e <;> decide +kernel

lemma naming : Naming name where
  injective e f h := by
    have hnodup : ((unknown :: named).map name).Nodup := by decide +kernel
    exact List.inj_on_of_nodup_map hnodup e.mem_unknown_cons_named f.mem_unknown_cons_named h
  isAlphanum e := by
    rw [← List.all_eq_true]
    cases e <;> decide +kernel

/-- A number with a name is the number of that name. -/
lemma code_ofCode {n : Int} (h : ofCode n ≠ unknown) : (ofCode n).code = n := by
  unfold ofCode at h ⊢
  cases hf : named.find? (·.code == n) with
  | none => simp [hf] at h
  | some e => simpa using List.find?_some hf

/-- Two numbers stand for one error if they are the same, or if neither has a name. -/
lemma ofCode_eq_iff {m n : Int} :
    ofCode m = ofCode n ↔ m = n ∨ ofCode m = unknown ∧ ofCode n = unknown := by
  constructor
  · intro h
    by_cases hm : ofCode m = unknown
    · exact .inr ⟨hm, h ▸ hm⟩
    · exact .inl (by rw [← code_ofCode hm, h, code_ofCode (h ▸ hm)])
  · rintro (rfl | ⟨hm, hn⟩)
    · rfl
    · rw [hm, hn]

end Errno

lemma eq_of_repr_append {m n : Int} {r s : List Char}
    (h : m.repr.toList ++ ',' :: r = n.repr.toList ++ ',' :: s) : m = n ∧ r = s := by
  have hinj : Function.Injective fun n : Int => n.repr.toList := fun _ _ h =>
    Int.repr_injective (String.toList_inj.mp h)
  have hdigits : ∀ k : Nat, ',' ∉ k.repr.toList := by
    intro k hk
    rw [Nat.toList_repr] at hk
    exact absurd (Nat.isDigit_of_mem_toDigits (by decide) (by decide) hk) (by decide)
  refine eq_of_append_cons hinj (fun n => ?_) h
  rw [Int.repr_eq_if]
  split
  · exact hdigits _
  · simpa using hdigits _

/-! ### The dumps of io failures -/

namespace IoFault

lemma dump_os (n : Int) :
    (os n).dump = "Os \x7b code: " ++ toString n ++ ", kind: " ++ (IoKind.ofCode n).name ++
      ", message: " ++ quote (Errno.textOfCode n) ++ " \x7d" := rfl

lemma dump_bare (k : IoKind) : (bare k).dump = "Kind(" ++ k.name ++ ")" := rfl

lemma dump_told (k : IoKind) (t : String) :
    (told k t).dump = "Custom \x7b kind: " ++ k.name ++ ", error: " ++ quote t ++ " \x7d" := rfl

lemma dump_fixed (k : IoKind) (t : String) :
    (fixed k t).dump = "Error \x7b kind: " ++ k.name ++ ", message: " ++ quote t ++ " \x7d" := rfl

lemma selfEnding_dump : SelfEnding fun f : IoFault => f.dump.toList := by
  intro f g r s h
  suffices hfg : f = g by
    subst hfg
    exact ⟨rfl, List.append_cancel_left h⟩
  -- the variants differ in their first letters, so only the pairs of equal ones are left
  cases f <;> cases g <;>
    simp only [dump_os, dump_bare, dump_told, dump_fixed, Int.toString_eq_repr,
      String.toList_append, String.reduceToList, List.cons_append, List.nil_append,
      List.append_assoc, List.cons.injEq, Char.reduceEq, true_and, false_and] at h
  case os.os m n => rw [(eq_of_repr_append h).1]
  case bare.bare k l => rw [(IoKind.naming.eq_of_append rfl h).1]
  case told.told k t l u =>
    obtain ⟨hkl, h⟩ := IoKind.naming.eq_of_append rfl h
    simp only [List.cons.injEq, true_and] at h
    rw [hkl, (selfEnding_quote h).1]
  case fixed.fixed k t l u =>
    obtain ⟨hkl, h⟩ := IoKind.naming.eq_of_append rfl h
    simp only [List.cons.injEq, true_and] at h
    rw [hkl, (selfEnding_quote h).1]

end IoFault

/-! ### The dumps of causes -/

namespace Cause

lemma dump_io (f : IoFault) : (io f).dump = "IoError(" ++ f.dump ++ ")" := rfl

lemma dump_errno (e : Errno) : (errno e).dump = "NixError(" ++ e.name ++ ")" := rfl

lemma dump_spawn (service : String) (f : IoFault) :
    (spawn service f).dump =
      "SpawnFailure \x7b service: " ++ quote service ++ ", source: " ++ f.dump ++ " \x7d" := rfl

lemma dump_message (t : String) : (message t).dump = "ErrorMsg(" ++ quote t ++ ")" := rfl

lemma selfEnding_dump : SelfEnding fun c : Cause => c.dump.toList := by
  intro c d r s h
  suffices hcd : c = d by
    subst hcd
    exact ⟨rfl, List.append_cancel_left h⟩
  cases c <;> cases d <;>
    simp only [dump_io, dump_errno, dump_spawn, dump_message, String.toList_append,
      String.reduceToList, List.cons_append, List.nil_append, List.append_assoc, List.cons.injEq,
      Char.reduceEq, true_and, false_and] at h
  case io.io f g => rw [(IoFault.selfEnding_dump h).1]
  case errno.errno e f => rw [(Errno.naming.eq_of_append rfl h).1]
  case spawn.spawn service f service' g =>
    obtain ⟨hservice, h⟩ := selfEnding_quote h
    simp only [List.cons.injEq, true_and] at h
    rw [hservice, (IoFault.selfEnding_dump h).1]
  case message.message t u => rw [(selfEnding_quote h).1]

end Cause

/-! ### The dump of a failure -/

namespace Failure

lemma dump_injective : Function.Injective dump := by
  intro e e' h
  have hcause : e.cause.dump = e'.cause.dump := by
    rw [dump, dump, String.append_left_inj, String.append_right_inj] at h
    exact h
  have := Cause.selfEnding_dump.injective (congrArg String.toList hcause)
  cases e
  cases e'
  exact congrArg Failure.mk this

/-- The message that a failure consists of. -/
def said? (e : Failure) : Option String :=
  match e.cause with
  | .message t => some t
  | _ => none

/-- The io failure behind a failure. -/
def fault? (e : Failure) : Option IoFault :=
  match e.cause with
  | .io f => some f
  | .spawn _ f => some f
  | _ => none

/-- The error number behind a failure. -/
def errno? (e : Failure) : Option Errno :=
  match e.cause with
  | .errno n => some n
  | _ => none

/-- Two failures are the same if they are of one variant and agree in what it holds. -/
structure Agree (e e' : Failure) : Prop where
  variant : e.cause.label = e'.cause.label
  service : e.failedService? = e'.failedService?
  message : e.said? = e'.said?
  fault : e.fault? = e'.fault?
  errno : e.errno? = e'.errno?

lemma agree_iff {e e' : Failure} : Agree e e' ↔ e = e' := by
  constructor
  · rintro ⟨-, hservice, hmessage, hfault, herrno⟩
    obtain ⟨c⟩ := e
    obtain ⟨d⟩ := e'
    cases c <;> cases d <;>
      simp_all [failedService?, said?, fault?, errno?]
  · rintro rfl
    exact ⟨rfl, rfl, rfl, rfl, rfl⟩

/-- **The dump of a failure identifies it**, and so does what the program prints when it ends with
it. -/
theorem dump_identifies (e e' : Failure) :
    (e.dump = e'.dump ↔ Agree e e') ∧ (Agree e e' ↔ e = e') ∧
      (∀ name name', (Exit.failed e).complaint name = (Exit.failed e').complaint name' ↔ e = e') ∧
      (∀ m n, (ofErrno (.ofCode m)).dump = (ofErrno (.ofCode n)).dump ↔
        m = n ∨ Errno.ofCode m = .unknown ∧ Errno.ofCode n = .unknown) ∧
      (∀ f, Failure.mk (.ofIo f) = ofIo f) ∧ ∀ n, Failure.mk (.ofErrno n) = ofErrno n := by
  have hdump : ∀ e e' : Failure, e.dump = e'.dump ↔ e = e' := fun _ _ => dump_injective.eq_iff
  refine ⟨(hdump e e').trans agree_iff.symm, agree_iff, fun name name' => ?_, fun m n => ?_,
    fun _ => rfl, fun _ => rfl⟩
  · rw [Exit.complaint, Exit.complaint, Option.some_inj, String.append_right_inj, hdump]
  · rw [hdump, ← Errno.ofCode_eq_iff]
    simp [ofErrno]

/-- A text that would close its quotes and the brackets behind them. -/
example : (ofText "io\"))").dump = "Error(ErrorMsg(\"io\\\"))\"))" := rfl

end Failure

end ServiceStack
