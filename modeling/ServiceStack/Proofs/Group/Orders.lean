import Mathlib.Data.List.Forall2
import Mathlib.Logic.Function.Basic
import ServiceStack.Proofs.Host.Mirror
import ServiceStack.Script.Session

/-!
Orders to the groups on a host.

Any number of groups may be held at a time, each in a slot of its own. An order is for a launch, a
sweep, or one of the things that ask nothing of a process. Between two orders the host may change by
itself, in any way. The steps of a session are orders for one slot on a stage.
-/

namespace ServiceStack

inductive Order (σ : Type) where
  | launch (slot : Nat) (is : List Invocation)
  | info (slot : Nat)
  | terminateAll (slot : Nat)
  | drop (slot : Nat)
  /-- nothing is ordered, and the host changes by itself -/
  | meanwhile (change : σ → σ)

/-- A host and the groups that are held on it. -/
structure Holding (σ : Type) where
  host : σ
  groups : Nat → Option Group := fun _ => none

/-- What an order comes to, and what is held after it. -/
structure Response (σ : Type) where
  reply : Session.Reply
  trace : Trace
  holding : Holding σ

def Session.Reply.failure? : Session.Reply → Option Failure
  | .failed e => some e
  | _ => none

namespace Holding

variable {σ : Type}

/-- What is held when a slot takes a group or is emptied. -/
def put (k : Holding σ) (slot : Nat) (g : Option Group) : Nat → Option Group :=
  Function.update k.groups slot g

def obey (h : Host σ) (k : Holding σ) : Order σ → Response σ
  | .launch slot is =>
    let launched := Group.launch h is k.host
    match launched.value with
    | .ok g => ⟨.done, launched.trace, ⟨launched.host, k.put slot (some g)⟩⟩
    | .error e => ⟨.failed e, launched.trace, ⟨launched.host, k.groups⟩⟩
  | .info slot =>
    match k.groups slot with
    | some g => ⟨.info (g.info h k.host), [], k⟩
    | none => ⟨.noGroup, [], k⟩
  | .terminateAll slot =>
    match k.groups slot with
    | some g =>
      let swept := g.terminateAll h k.host
      ⟨.done, swept.trace, ⟨swept.host, k.put slot none⟩⟩
    | none => ⟨.noGroup, [], k⟩
  | .drop slot => ⟨.done, [], ⟨k.host, k.put slot none⟩⟩
  | .meanwhile change => ⟨.done, [], ⟨change k.host, k.groups⟩⟩

@[simp] lemma host_obey_launch (h : Host σ) (k : Holding σ) (slot : Nat) (is : List Invocation) :
    (k.obey h (.launch slot is)).holding.host = (Group.launch h is k.host).host := by
  rcases hl : (Group.launch h is k.host).value with e | g <;> simp only [obey, hl]

@[simp] lemma trace_obey_launch (h : Host σ) (k : Holding σ) (slot : Nat) (is : List Invocation) :
    (k.obey h (.launch slot is)).trace = (Group.launch h is k.host).trace := by
  rcases hl : (Group.launch h is k.host).value with e | g <;> simp only [obey, hl]

/-- The responses to some orders, one after the other. -/
def follow (h : Host σ) (k : Holding σ) : List (Order σ) → List (Response σ)
  | [] => []
  | o :: os =>
    let r := k.obey h o
    r :: r.holding.follow h os

/-- What is held after some orders. -/
def last (h : Host σ) (k : Holding σ) : List (Order σ) → Holding σ
  | [] => k
  | o :: os => (k.obey h o).holding.last h os

/-- All that some orders trace. -/
def trace (h : Host σ) (k : Holding σ) (os : List (Order σ)) : Trace :=
  (k.follow h os).flatMap Response.trace

@[simp] lemma trace_nil (h : Host σ) (k : Holding σ) : k.trace h [] = [] := rfl

@[simp] lemma trace_cons (h : Host σ) (k : Holding σ) (o : Order σ) (os : List (Order σ)) :
    k.trace h (o :: os) = (k.obey h o).trace ++ (k.obey h o).holding.trace h os := by
  simp [trace, follow]

end Holding

/-! ### Orders on a mirror -/

variable {σ τ : Type}

/-- The same is ordered of a host and of its mirror, and between two orders they stay together. -/
inductive Order.Mirrored (R : σ → τ → Prop) : Order σ → Order τ → Prop
  | launch (slot : Nat) (is : List Invocation) : Mirrored R (.launch slot is) (.launch slot is)
  | info (slot : Nat) : Mirrored R (.info slot) (.info slot)
  | terminateAll (slot : Nat) : Mirrored R (.terminateAll slot) (.terminateAll slot)
  | drop (slot : Nat) : Mirrored R (.drop slot) (.drop slot)
  | meanwhile {change : σ → σ} {change' : τ → τ}
    (together : ∀ {s t}, R s t → R (change s) (change' t)) :
    Mirrored R (.meanwhile change) (.meanwhile change')

/-- The same groups are held on a host and on its mirror. -/
structure Holding.Mirrored (R : σ → τ → Prop) (k : Holding σ) (k' : Holding τ) : Prop where
  host : R k.host k'.host
  groups : k'.groups = k.groups

namespace Mirrors

variable {h : Host σ} {h' : Host τ} {R : σ → τ → Prop}

/-- One order on a mirror that gives the very processes of the host. -/
lemma obey (hm : Mirrors h h' id R) {k : Holding σ} {k' : Holding τ} (hk : k.Mirrored R k')
    {o : Order σ} {o' : Order τ} (ho : o.Mirrored R o') :
    let r := k.obey h o
    let r' := k'.obey h' o'
    r'.reply = r.reply ∧ r'.trace = r.trace ∧ r.holding.Mirrored R r'.holding := by
  obtain ⟨s, _⟩ := k
  obtain ⟨t, groups⟩ := k'
  obtain ⟨hr, rfl⟩ := hk
  cases ho with
  | launch slot is =>
    obtain ⟨hv, ht, hh⟩ := hm.launch is hr
    rw [Trace.rename_id] at ht
    rcases hl : (Group.launch h is s).value with e | g <;> rw [hl] at hv <;>
      simp only [Holding.obey, Holding.put, hl, hv, ht, Except.map, Group.rename_id, id] <;>
      exact ⟨trivial, trivial, hh, rfl⟩
  | info slot =>
    rcases hg : groups slot with _ | g <;> simp only [Holding.obey, hg]
    · exact ⟨trivial, trivial, hr, rfl⟩
    · have hinfo := hm.info g hr
      rw [Group.rename_id] at hinfo
      exact ⟨congrArg _ hinfo, trivial, hr, rfl⟩
  | terminateAll slot =>
    rcases hg : groups slot with _ | g <;> simp only [Holding.obey, Holding.put, hg]
    · exact ⟨trivial, trivial, hr, rfl⟩
    · have hswept := hm.terminateAll g hr
      rw [Group.rename_id] at hswept
      obtain ⟨-, ht, hh⟩ := hswept
      rw [Trace.rename_id] at ht
      exact ⟨trivial, ht, hh, rfl⟩
  | drop slot => exact ⟨rfl, rfl, hr, rfl⟩
  | meanwhile together => exact ⟨rfl, rfl, together hr, rfl⟩

lemma follow (hm : Mirrors h h' id R) {os : List (Order σ)} {os' : List (Order τ)}
    (ho : List.Forall₂ (Order.Mirrored R) os os') {k : Holding σ} {k' : Holding τ}
    (hk : k.Mirrored R k') :
    (k'.follow h' os').map (fun r => (r.reply, r.trace)) =
        (k.follow h os).map (fun r => (r.reply, r.trace)) ∧
      (k.last h os).Mirrored R (k'.last h' os') := by
  induction ho generalizing k k' with
  | nil => exact ⟨rfl, hk⟩
  | cons ho _ ih =>
    obtain ⟨hr, ht, hnext⟩ := hm.obey hk ho
    obtain ⟨hrs, hlast⟩ := ih hnext
    refine ⟨?_, hlast⟩
    simp only [Holding.follow, List.map_cons, hr, ht, hrs]

end Mirrors

/-! ### Sessions -/

namespace Session

/-- The order that a step gives. -/
def Step.order : Step → Order Stage
  | .launch is => .launch 0 is
  | .info => .info 0
  | .terminateAll => .terminateAll 0
  | .drop => .drop 0
  | .setId call id => .meanwhile (Stage.setId call id)

def holding (s : Session) : Holding Stage :=
  ⟨s.stage, Function.update (fun _ => none) 0 s.group⟩

lemma step_eq_obey (s : Session) (st : Step) :
    (s.step st).reply = (s.holding.obey Stage.host st.order).reply ∧
      (s.step st).trace = (s.holding.obey Stage.host st.order).trace ∧
      (s.step st).session.holding = (s.holding.obey Stage.host st.order).holding := by
  cases st with
  | launch is =>
    rcases hl : (Group.launch Stage.host is s.stage).value with e | g <;>
      simp [step, Step.order, Holding.obey, Holding.put, holding, hl]
  | info => rcases hg : s.group with _ | g <;> simp [step, Step.order, Holding.obey, holding, hg]
  | terminateAll =>
    rcases hg : s.group with _ | g <;>
      simp [step, Step.order, Holding.obey, Holding.put, holding, hg]
  | drop => simp [step, Step.order, Holding.obey, Holding.put, holding]
  | setId call id => exact ⟨rfl, rfl, rfl⟩

lemma play_eq_follow (s : Session) (sts : List Step) :
    (s.play sts).map (fun a => (a.reply, a.trace)) =
      (s.holding.follow Stage.host (sts.map Step.order)).map fun r => (r.reply, r.trace) := by
  induction sts generalizing s with
  | nil => rfl
  | cons st sts ih =>
    obtain ⟨hr, ht, hk⟩ := s.step_eq_obey st
    have hrest := ih (s.step st).session
    rw [hk] at hrest
    simp only [play, Holding.follow, List.map_cons, hr, ht, hrest]

end Session

end ServiceStack
