import ServiceStack.Proofs.Group.Orders
import ServiceStack.Proofs.Group.Sweep
import ServiceStack.Proofs.Trace

/-!
A host that takes notes.

The notes are taken where a call or a request arrives, so they tell what the host was asked and not
what was announced. A host that takes notes mirrors the one that does not: whatever is ordered goes
on as without them. What it notes is what is traced.
-/

namespace ServiceStack

inductive Deed where
  /-- a call gave a process, which told a number -/
  | started (i : Invocation) (p : Process) (id : Option Nat)
  /-- a call failed -/
  | refused (i : Invocation) (e : Failure)
  /-- a process was asked to stop -/
  | asked (r : Asking)

namespace Deed

def event : Deed → Event
  | .started i p _ => .spawned i p
  | .refused i _ => .refused i
  | .asked r => .killed r.process

def asking? : Deed → Option Asking
  | .asked r => some r
  | _ => none

/-- The requests to stop among some deeds. -/
def requests (ds : List Deed) : List Asking := ds.filterMap asking?

/-- What came of the requests that a process received, told by its key. -/
def received (ds : List Deed) (key : Nat) : List (Except Failure Unit) :=
  ((requests ds).filter (·.process.key = key)).map Asking.result

lemma mem_requests {ds : List Deed} {r : Asking} : r ∈ requests ds ↔ .asked r ∈ ds := by
  rw [requests, List.mem_filterMap]
  constructor
  · rintro ⟨d, hd, hr⟩
    cases d <;> cases hr
    exact hd
  · exact fun hr => ⟨_, hr, rfl⟩

lemma killed_eq {t : Trace} {ds : List Deed} (ht : t.events = ds.map event) :
    t.killed = (requests ds).map Asking.process := by
  rw [Trace.killed, ht, requests, List.filterMap_map, List.map_filterMap]
  congr 1
  funext d
  cases d <;> rfl

/-- Where the process alone settles what comes of a request, it is enough to count requests. -/
lemma received_eq {ds : List Deed} {answer : Nat → Except Failure Unit}
    (ha : ∀ r, .asked r ∈ ds → r.result = answer r.process.key) (key : Nat) :
    received ds key =
      List.replicate (((requests ds).map (·.process.key)).count key) (answer key) := by
  rw [List.eq_replicate_iff]
  constructor
  · rw [received, List.length_map, List.count_eq_countP, List.countP_map,
      List.countP_eq_length_filter]
    congr 2
  · intro x hx
    obtain ⟨r, hr, rfl⟩ := List.mem_map.mp hx
    obtain ⟨hmem, hkey⟩ := List.mem_filter.mp hr
    rw [ha r (mem_requests.mp hmem), of_decide_eq_true hkey]

lemma received_eq_nil {t : Trace} {ds : List Deed} (ht : t.events = ds.map event) {key : Nat}
    (hkey : key ∉ t.killed.map Process.key) : received ds key = [] := by
  rw [killed_eq ht, List.map_map] at hkey
  rw [received, List.map_eq_nil_iff, List.filter_eq_nil_iff]
  intro r hr he
  exact hkey (List.mem_map.mpr ⟨r, hr, of_decide_eq_true he⟩)

end Deed

variable {σ : Type}

/-- The host that keeps an account of what is asked of it. -/
def Host.noting (h : Host σ) : Host (σ × List Deed) where
  spawn i s :=
    let r := h.spawn i s.1
    (r.1, r.2, s.2 ++ [match r.1 with
      | .ok p => .started i p (h.id p r.2)
      | .error e => .refused i e])
  id p s := h.id p s.1
  terminate p s :=
    let r := h.terminate p s.1
    ⟨r.result, r.lines, r.host, s.2 ++ [.asked ⟨p, h.id p s.1, r.result⟩]⟩

/-- To take notes changes nothing. -/
lemma Mirrors.noting (h : Host σ) : Mirrors h h.noting id (fun s t => t.1 = s) where
  name _ := rfl
  spawn := by
    rintro s ⟨_, ds⟩ i rfl
    refine ⟨?_, rfl⟩
    simp only [Host.noting]
    cases (h.spawn i _).1 <;> rfl
  number := by
    rintro s ⟨_, ds⟩ p rfl
    rfl
  terminate := by
    rintro s ⟨_, ds⟩ p rfl
    exact ⟨rfl, rfl, rfl⟩

/-! ### Notes and traces -/

/-- An activity adds to the notes what it traces. -/
def Outcome.Noted {α : Type} (ds : List Deed) (o : Outcome (σ × List Deed) α) : Prop :=
  o.host.2.map Deed.event = ds.map Deed.event ++ o.trace.events

lemma Outcome.Noted.after {α : Type} {ds ds' : List Deed} {o : Outcome (σ × List Deed) α}
    (ho : o.Noted ds') {t : Trace} (ht : ds'.map Deed.event = ds.map Deed.event ++ t.events) :
    (o.after t).Noted ds := by
  have hall : o.host.2.map Deed.event = ds'.map Deed.event ++ o.trace.events := ho
  rw [Noted, host_after, trace_after, Trace.events_append, hall, ht, List.append_assoc]

namespace Group

variable {h : Host σ}

lemma noted_kill (p : Process) (s : σ × List Deed) : (kill h.noting p s).Noted s.2 := by
  simp [Outcome.Noted, kill, Host.noting, Deed.event]

lemma noted_killEach (ps : List Process) (s : σ × List Deed) :
    (killEach h.noting ps s).Noted s.2 := by
  induction ps generalizing s with
  | nil => simp [Outcome.Noted]
  | cons p ps ih => exact (ih _).after (noted_kill p s)

lemma noted_terminateAll (g : Group) (s : σ × List Deed) :
    (g.terminateAll h.noting s).Noted s.2 :=
  (noted_killEach g.members s).after (by simp)

lemma noted_launchOnto (started : List Process) (is : List Invocation) (s : σ × List Deed) :
    (launchOnto h.noting started is s).Noted s.2 := by
  induction is generalizing started s with
  | nil => simp [Outcome.Noted, launchOnto]
  | cons i is ih =>
    rcases hs : h.spawn i s.1 with ⟨e | p, t⟩
    · have call : h.noting.spawn i s = (.error e, t, s.2 ++ [.refused i e]) := by
        simp only [Host.noting, hs]
      have hswept : ((terminateAll h.noting ⟨started⟩ (t, s.2 ++ [.refused i e])).host.2).map
          Deed.event = _ := noted_terminateAll ⟨started⟩ _
      rw [launchOnto_error call, Outcome.Noted, hswept]
      simp [Deed.event]
    · have call : h.noting.spawn i s = (.ok p, t, s.2 ++ [.started i p (h.id p t)]) := by
        simp only [Host.noting, hs]
      rw [launchOnto_ok call]
      refine (ih (started ++ [p]) _).after ?_
      simp [Deed.event]

end Group

/-! ### Orders on a noting host -/

def Order.noted : Order σ → Order (σ × List Deed)
  | .launch slot is => .launch slot is
  | .info slot => .info slot
  | .terminateAll slot => .terminateAll slot
  | .drop slot => .drop slot
  | .meanwhile change => .meanwhile fun s => (change s.1, s.2)

lemma Order.mirrored_noted (o : Order σ) :
    o.Mirrored (fun s (t : σ × List Deed) => t.1 = s) o.noted := by
  cases o with
  | launch slot is => exact .launch slot is
  | info slot => exact .info slot
  | terminateAll slot => exact .terminateAll slot
  | drop slot => exact .drop slot
  | meanwhile change => exact .meanwhile fun h => congrArg change h

namespace Holding

variable {h : Host σ}

/-- What is held, with the account so far. -/
def noted (k : Holding σ) (ds : List Deed) : Holding (σ × List Deed) := ⟨(k.host, ds), k.groups⟩

/-- The account that the host itself keeps of some orders. -/
def account (h : Host σ) (k : Holding σ) (os : List (Order σ)) : List Deed :=
  ((k.noted []).last h.noting (os.map Order.noted)).host.2

lemma mirrored_noted (k : Holding σ) (ds : List Deed) :
    k.Mirrored (fun s (t : σ × List Deed) => t.1 = s) (k.noted ds) := ⟨rfl, rfl⟩

/-- What is ordered of a host that takes notes is answered as it is without them. -/
lemma follow_noting (k : Holding σ) (ds : List Deed) (os : List (Order σ)) :
    ((k.noted ds).follow h.noting (os.map Order.noted)).map (fun r => (r.reply, r.trace)) =
      (k.follow h os).map fun r => (r.reply, r.trace) :=
  ((Mirrors.noting h).follow
    (List.forall₂_map_right_iff.mpr (List.forall₂_same.mpr fun o _ => o.mirrored_noted))
    (k.mirrored_noted ds)).1

lemma trace_noting (k : Holding σ) (ds : List Deed) (os : List (Order σ)) :
    (k.noted ds).trace h.noting (os.map Order.noted) = k.trace h os := by
  have hrs := congrArg (List.flatMap Prod.snd) (k.follow_noting (h := h) ds os)
  rwa [List.flatMap_map, List.flatMap_map] at hrs

lemma events_obey (k : Holding (σ × List Deed)) (o : Order σ) :
    (k.obey h.noting o.noted).holding.host.2.map Deed.event =
      k.host.2.map Deed.event ++ (k.obey h.noting o.noted).trace.events := by
  cases o with
  | launch slot is =>
    rw [Order.noted, host_obey_launch, trace_obey_launch]
    exact Group.noted_launchOnto [] is k.host
  | info slot => rcases hg : k.groups slot with _ | g <;> simp [obey, Order.noted, hg]
  | terminateAll slot =>
    rcases hg : k.groups slot with _ | g
    · simp [obey, Order.noted, hg]
    · simp only [obey, Order.noted, hg]
      exact Group.noted_terminateAll g k.host
  | drop slot => simp [obey, Order.noted]
  | meanwhile change => simp [obey, Order.noted]

lemma events_last (k : Holding (σ × List Deed)) (os : List (Order σ)) :
    (k.last h.noting (os.map Order.noted)).host.2.map Deed.event =
      k.host.2.map Deed.event ++ (k.trace h.noting (os.map Order.noted)).events := by
  induction os generalizing k with
  | nil => simp [last]
  | cons o os ih =>
    rw [List.map_cons, last, ih, events_obey, trace_cons, Trace.events_append, List.append_assoc]

/-- The events of some orders are the calls and the requests that arrived. -/
lemma events_account (k : Holding σ) (os : List (Order σ)) :
    (k.trace h os).events = (k.account h os).map Deed.event := by
  have hall := (k.noted []).events_last (h := h) os
  rw [trace_noting] at hall
  exact hall.symm

end Holding

end ServiceStack
