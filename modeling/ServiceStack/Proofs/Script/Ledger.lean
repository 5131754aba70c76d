import Mathlib.Data.List.Perm.Basic
import ServiceStack.Proofs.Group.Launch
import ServiceStack.Proofs.Trace
import ServiceStack.Script.Session

/-!
Ledgers of a session, and the keys of its processes.

A ledger keeps one batch for each launch: the processes it started and what became of them. A step
of the session moves the batch that makes up the current group, or adds one, and touches no other.
A process is told by its key, which is the number of the call that gave it; names and numbers may
be shared.
-/

namespace ServiceStack

/-- What became of the processes of one launch. -/
inductive Fate where
  /-- the launch failed later on -/
  | undone
  /-- they are the current group -/
  | held
  /-- their group was swept -/
  | swept
  /-- their group was dropped or replaced -/
  | released
deriving DecidableEq, Repr

/-- Whether the processes were asked to stop. -/
def Fate.asked : Fate → Bool
  | undone | swept => true
  | held | released => false

/-- The processes of one launch, in launch order. -/
structure Batch where
  members : List Process
  fate : Fate
deriving DecidableEq, Repr

/-- The batch once there is no group any more. -/
def Batch.leave (f : Fate) (b : Batch) : Batch :=
  if b.fate = .held then { b with fate := f } else b

/-- The batches of a session, in the order of their launches. -/
abbrev Ledger := List Batch

namespace Ledger

/-- The ledger after a step and its answer. -/
def record (l : Ledger) (st : Session.Step) (a : Session.Answer) : Ledger :=
  match st, a.reply with
  | .launch _, .failed _ => l ++ [⟨a.trace.spawned, .undone⟩]
  | .launch _, _ => l.map (Batch.leave .released) ++ [⟨a.trace.spawned, .held⟩]
  | .terminateAll, _ => l.map (Batch.leave .swept)
  | .drop, _ => l.map (Batch.leave .released)
  | .info, _ | .setId .., _ => l

/-- The processes of the batches of some fates. -/
def members (l : Ledger) (q : Fate → Bool) : List Process :=
  (l.filter fun b => q b.fate).flatMap Batch.members

@[simp] lemma members_nil (q : Fate → Bool) : members [] q = [] := rfl

@[simp] lemma members_cons (b : Batch) (l : Ledger) (q : Fate → Bool) :
    members (b :: l) q = (if q b.fate then b.members else []) ++ members l q := by
  cases hb : q b.fate <;> simp [members, hb]

@[simp] lemma members_append (k l : Ledger) (q : Fate → Bool) :
    members (k ++ l) q = members k q ++ members l q := by
  simp [members]

@[simp] lemma mem_members {l : Ledger} {q : Fate → Bool} {p : Process} :
    p ∈ l.members q ↔ ∃ b ∈ l, q b.fate = true ∧ p ∈ b.members := by
  simp [members, and_assoc]

/-- Every process is in one of three places. -/
lemma perm_members (l : Ledger) :
    (l.flatMap Batch.members).Perm
      (l.members Fate.asked ++ (l.members (· = .held) ++ l.members (· = .released))) := by
  rw [List.perm_iff_count]
  intro p
  induction l with
  | nil => rfl
  | cons b l ih =>
    simp only [List.count_append] at ih
    rcases b with ⟨ps, _ | _ | _ | _⟩ <;>
      simp only [List.flatMap_cons, members_cons, Fate.asked, List.count_append, ih] <;>
      simp <;> omega

/-- A sweep asks those that were held. -/
lemma perm_leave_swept (l : Ledger) :
    (members (l.map (Batch.leave .swept)) Fate.asked).Perm
      (l.members Fate.asked ++ l.members (· = .held)) := by
  rw [List.perm_iff_count]
  intro p
  induction l with
  | nil => rfl
  | cons b l ih =>
    simp only [List.count_append] at ih
    rcases b with ⟨ps, _ | _ | _ | _⟩ <;>
      simp only [List.map_cons, members_cons, List.count_append, ih, Batch.leave] <;>
      simp [Fate.asked] <;> omega

/-- Nobody is asked when a group is let go. -/
lemma leave_released_asked (l : Ledger) :
    members (l.map (Batch.leave .released)) Fate.asked = l.members Fate.asked := by
  induction l with
  | nil => rfl
  | cons b l ih => rcases b with ⟨ps, _ | _ | _ | _⟩ <;> simp [Batch.leave, Fate.asked, ih]

lemma members_leave (l : Ledger) (f : Fate) :
    (l.map (Batch.leave f)).flatMap Batch.members = l.flatMap Batch.members := by
  have hb : ∀ b : Batch, (b.leave f).members = b.members := by
    intro b
    unfold Batch.leave
    split <;> rfl
  simp [List.flatMap_map, hb]

lemma held_leave (l : Ledger) {f : Fate} (hf : f ≠ .held) :
    (l.map (Batch.leave f)).filter (·.fate = .held) = [] := by
  rw [List.filter_eq_nil_iff]
  intro c hc
  obtain ⟨b, -, rfl⟩ := List.mem_map.mp hc
  by_cases hb : b.fate = .held <;> simp [Batch.leave, hb, hf]

lemma members_held (l : Ledger) :
    l.members (· = .held) = ((l.filter (·.fate = .held)).map Batch.members).flatten := by
  simp [members, List.flatMap_def]

/-- What is no longer held stays as it is. -/
lemma mem_record {l : Ledger} {b : Batch} (hb : b ∈ l) (hf : b.fate ≠ .held) (st : Session.Step)
    (a : Session.Answer) : b ∈ l.record st a := by
  have hm : ∀ f, b ∈ l.map (Batch.leave f) := fun f =>
    List.mem_map.mpr ⟨b, hb, by simp [Batch.leave, hf]⟩
  unfold record
  split <;> simp_all

end Ledger

/-! ### Keys -/

/-- A process that some calls give has the number of its call as its key, counted from `n`. -/
def Keyed (n : Nat) (calls : List Event) : Prop :=
  ∀ k i p, calls[k]? = some (.spawned i p) → p.key = n + k

lemma keyed_nil (n : Nat) : Keyed n [] := by
  intro k i p hk
  simp at hk

lemma keyed_cons {n : Nat} {e : Event} {es : List Event} (he : ∀ i p, e = .spawned i p → p.key = n)
    (hes : Keyed (n + 1) es) : Keyed n (e :: es) := by
  intro k i p hk
  rcases k with _ | k
  · exact he i p (by simpa using hk)
  · have := hes k i p (by simpa using hk)
    omega

lemma Keyed.append {n : Nat} {cs ds : List Event} (hc : Keyed n cs)
    (hd : Keyed (n + cs.length) ds) : Keyed n (cs ++ ds) := by
  intro k i p hk
  rcases Nat.lt_or_ge k cs.length with hlt | hge
  · exact hc k i p (by rwa [List.getElem?_append_left hlt] at hk)
  · have := hd (k - cs.length) i p (by rwa [List.getElem?_append_right hge] at hk)
    omega

/-- Keys grow along the calls. -/
lemma Keyed.pairwise {n : Nat} {cs : List Event} (hc : Keyed n cs) :
    (cs.filterMap Event.spawned?).Pairwise (·.key < ·.key) ∧
      ∀ p ∈ cs.filterMap Event.spawned?, n ≤ p.key := by
  induction cs generalizing n with
  | nil => simp
  | cons e es ih =>
    have htail : Keyed (n + 1) es := by
      intro k i p hk
      have := hc (k + 1) i p (by simpa using hk)
      omega
    obtain ⟨hp, hle⟩ := ih htail
    cases e with
    | spawned i p =>
      have hkey : p.key = n := hc 0 i p (by simp)
      have hf : (Event.spawned i p :: es).filterMap Event.spawned? =
          p :: es.filterMap Event.spawned? := rfl
      rw [hf, List.pairwise_cons, List.forall_mem_cons]
      refine ⟨⟨fun q hq => ?_, hp⟩, by omega, fun q hq => ?_⟩ <;> have := hle q hq <;> omega
    | _ =>
      refine ⟨hp, fun q hq => ?_⟩
      have := hle q hq
      omega

namespace Stage

lemma spawn_ok {st u : Stage} {i : Invocation} {p : Process}
    (hs : Stage.host.spawn i st = (.ok p, u)) : p.key = st.calls ∧ u.calls = st.calls + 1 := by
  simp only [host, spawn] at hs
  split at hs
  · simp at hs
  · obtain ⟨rfl, rfl⟩ : _ = p ∧ _ = u := by simpa using hs
    exact ⟨rfl, rfl⟩

lemma spawn_error {st u : Stage} {i : Invocation} {e : Failure}
    (hs : Stage.host.spawn i st = (.error e, u)) : u.calls = st.calls + 1 := by
  simp only [host, spawn] at hs
  split at hs
  · obtain ⟨-, rfl⟩ : _ = e ∧ _ = u := by simpa using hs
    rfl
  · simp at hs

lemma host_terminate (p : Process) (st : Stage) : (Stage.host.terminate p st).host = st := by
  simp only [host, terminate]
  split <;> rfl

lemma terminateEach_eq (ps : List Process) (st : Stage) : Stage.host.terminateEach ps st = st := by
  induction ps generalizing st with
  | nil => rfl
  | cons p ps ih =>
    rw [Host.terminateEach, List.foldl_cons, host_terminate]
    exact ih st

lemma keyed_spawns {st u : Stage} {is : List Invocation} {ps : List Process}
    (hc : Stage.host.Spawns st is ps u) :
    Keyed st.calls (List.zipWith .spawned is ps) ∧ u.calls = st.calls + is.length := by
  induction hc with
  | nil => exact ⟨keyed_nil _, rfl⟩
  | cons call _ ih =>
    obtain ⟨hp, hu⟩ := spawn_ok call
    obtain ⟨hk, hn⟩ := ih
    rw [hu] at hk hn
    refine ⟨keyed_cons (fun i p he => ?_) hk, ?_⟩
    · obtain ⟨-, rfl⟩ : _ ∧ _ = p := by simpa using he
      exact hp
    · rw [hn, List.length_cons]
      omega

lemma keyed_refuses {st u : Stage} {is : List Invocation} {j : Nat} {ps : List Process}
    {e : Failure} (hc : Stage.host.Refuses st is j ps e u) (i : Invocation) :
    Keyed st.calls (List.zipWith .spawned (is.take j) ps ++ [.refused i]) ∧
      u.calls = st.calls + j + 1 := by
  induction hc with
  | here call => exact ⟨keyed_cons (by simp) (keyed_nil _), spawn_error call⟩
  | later call _ ih =>
    obtain ⟨hp, hu⟩ := spawn_ok call
    obtain ⟨hk, hn⟩ := ih
    rw [hu] at hk hn
    refine ⟨keyed_cons (fun i p he => ?_) hk, ?_⟩
    · obtain ⟨-, rfl⟩ : _ ∧ _ = p := by simpa using he
      exact hp
    · rw [hn]
      omega

end Stage

end ServiceStack
