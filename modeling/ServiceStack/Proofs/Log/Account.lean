import ServiceStack.Proofs.Host.Notes
import ServiceStack.Proofs.Log.Level

/-!
The log as an account of what was done.

The notes of a host have each call and each request, with the number that was told at that moment and
with what came of it. `Tells` compares such an account with a log. The lines that an activity adds
tell what the host notes meanwhile, provided that the next line, if there is one, opens a launch or
a sweep; every activity opens with such a line, so the logs of any orders can be joined.
-/

namespace ServiceStack

/-! ### What an account holds -/

namespace Deed

/-- The invocation of a call. -/
def invocation? : Deed → Option Invocation
  | .started i _ _ | .refused i _ => some i
  | .asked _ => none

/-- The name and the number of a process that was asked to stop. -/
def asked? : Deed → Option (String × Option Nat)
  | .asked r => some (r.process.name, r.id)
  | _ => none

/-- The failure of a call. -/
def failure? : Deed → Option Failure
  | .refused _ e => some e
  | _ => none

/-- The line that tells what came of it. That a request succeeds is not told. -/
def outcome? : Deed → Option Line
  | .started _ p id => some (.started p.name id)
  | .refused i e => some (.startFailed i.service e)
  | .asked ⟨p, _, .error e⟩ => some (.killFailed p.name e)
  | .asked ⟨_, _, .ok ()⟩ => none

end Deed

/-! ### Reading a log -/

namespace Line

def starting? : Line → Option Invocation
  | .starting i => some i
  | _ => none

def killing? : Line → Option (String × Option Nat)
  | .killing name id => some (name, id)
  | _ => none

/-- Whether a line tells what came of a call or a request. -/
def isOutcome : Line → Bool
  | .started .. | .startFailed .. | .killFailed .. => true
  | _ => false

/-- Whether a line opens a call or a sweep. -/
def opens : Line → Bool
  | .starting _ | .terminating _ => true
  | _ => false

end Line

/-- What is read off the lines of some kind, each with the line right behind it. -/
def withNext {α : Type} (kind : Line → Option α) : List Line → List (α × Option Line)
  | [] => []
  | l :: ls =>
    match kind l with
    | some a => (a, ls.head?) :: withNext kind ls
    | none => withNext kind ls

/-- A log tells what an account holds. -/
structure Tells (ls : List Line) (ds : List Deed) : Prop where
  /-- each call is announced, and right behind that it is told what came of it -/
  calls : withNext Line.starting? ls = ds.filterMap fun d => d.invocation?.map (·, d.outcome?)
  /-- each request is announced, and right behind that there is a warning if it failed -/
  requests : (withNext Line.killing? ls).map (fun x => (x.1, x.2.filter Line.isWarning)) =
    ds.filterMap fun d => d.asked?.map (·, d.outcome?)
  /-- nothing else is told of what came of calls and requests -/
  outcomes : ls.filter Line.isOutcome = ds.filterMap Deed.outcome?
  /-- a sweep of `n` processes asks `n` of them before anything else is opened -/
  sweeps : ∀ {n after}, .terminating n :: after <:+ ls →
    (after.takeWhile (!·.opens)).countP (·.killing?.isSome) = n
  /-- behind a call that failed there is a sweep -/
  undone : ∀ {service e after}, .startFailed service e :: after <:+ ls →
    ∃ n rest, after = .terminating n :: rest

lemma suffix_of_ne {l m : Line} {after ls : List Line} (h : l :: after <:+ m :: ls)
    (hne : l ≠ m) : l :: after <:+ ls := by
  rcases List.suffix_cons_iff.mp h with h | h
  · exact absurd (List.cons.inj h).1 hne
  · exact h

namespace Tells

variable {ls : List Line} {ds : List Deed}

lemma nil : Tells [] [] where
  calls := rfl
  requests := rfl
  outcomes := rfl
  sweeps h := absurd (List.suffix_nil.mp h) (List.cons_ne_nil _ _)
  undone h := absurd (List.suffix_nil.mp h) (List.cons_ne_nil _ _)

lemma start (ht : Tells ls ds) (i : Invocation) (p : Process) (id : Option Nat) :
    Tells (.starting i :: .started p.name id :: ls) (.started i p id :: ds) where
  calls := congrArg (_ :: ·) ht.calls
  requests := ht.requests
  outcomes := congrArg (_ :: ·) ht.outcomes
  sweeps h := ht.sweeps (suffix_of_ne (suffix_of_ne h nofun) nofun)
  undone h := ht.undone (suffix_of_ne (suffix_of_ne h nofun) nofun)

lemma refuse {n : Nat} (ht : Tells (.terminating n :: ls) ds) (i : Invocation) (e : Failure) :
    Tells (.starting i :: .startFailed i.service e :: .terminating n :: ls) (.refused i e :: ds) where
  calls := congrArg (_ :: ·) ht.calls
  requests := ht.requests
  outcomes := congrArg (_ :: ·) ht.outcomes
  sweeps h := ht.sweeps (suffix_of_ne (suffix_of_ne h nofun) nofun)
  undone h := by
    rcases List.suffix_cons_iff.mp (suffix_of_ne h nofun) with h | h
    · exact ⟨n, ls, (List.cons.inj h).2⟩
    · exact ht.undone h

/-- A request is told in front of any line but a warning, which would pass for its own. -/
lemma ask (ht : Tells ls ds) (hw : ls.head?.filter Line.isWarning = none) (r : Asking) :
    Tells (r.passage ++ ls) (.asked r :: ds) := by
  rcases r with ⟨p, id, e | -⟩
  · exact {
      calls := ht.calls
      requests := congrArg (_ :: ·) ht.requests
      outcomes := congrArg (_ :: ·) ht.outcomes
      sweeps := fun h => ht.sweeps (suffix_of_ne (suffix_of_ne h nofun) nofun)
      undone := fun h => ht.undone (suffix_of_ne (suffix_of_ne h nofun) nofun) }
  · refine ⟨ht.calls, ?_, ht.outcomes, fun h => ht.sweeps (suffix_of_ne h nofun),
      fun h => ht.undone (suffix_of_ne h nofun)⟩
    have hnext : withNext Line.killing?
        ((⟨p, id, .ok ()⟩ : Asking).passage ++ ls) = ((p.name, id), ls.head?) ::
          withNext Line.killing? ls := rfl
    rw [hnext, List.map_cons, hw, ht.requests]
    rfl

lemma askAll (ht : Tells ls ds) (hw : ls.head?.filter Line.isWarning = none) (rs : List Asking) :
    Tells (rs.flatMap Asking.passage ++ ls) (rs.map .asked ++ ds) := by
  induction rs with
  | nil => exact ht
  | cons r rs ih =>
    have hnext : (rs.flatMap Asking.passage ++ ls).head?.filter Line.isWarning = none := by
      cases rs with
      | nil => exact hw
      | cons r rs => rfl
    rw [List.flatMap_cons, List.append_assoc]
    exact ih.ask hnext r

lemma not_opens_of_mem_passage {r : Asking} {l : Line} (hl : l ∈ r.passage) : (!l.opens) = true := by
  rcases r with ⟨p, id, e | u⟩
  · rcases List.mem_cons.mp hl with rfl | hlast
    · rfl
    · rw [List.mem_singleton.mp hlast]
      rfl
  · rw [List.mem_singleton.mp hl]
    rfl

/-- A sweep goes on up to the next line that opens something. -/
lemma takeWhile_passages (ho : ls.head?.all Line.opens = true) (rs : List Asking) :
    (rs.flatMap Asking.passage ++ ls).takeWhile (!·.opens) = rs.flatMap Asking.passage := by
  have hrs : ∀ l ∈ rs.flatMap Asking.passage, (!l.opens) = true := by
    intro l hl
    obtain ⟨r, -, hlr⟩ := List.mem_flatMap.mp hl
    exact not_opens_of_mem_passage hlr
  rw [List.takeWhile_append_of_pos hrs]
  rcases ls with _ | ⟨l, ls⟩
  · exact List.append_nil _
  · have hl : l.opens = true := ho
    rw [List.takeWhile_cons_of_neg (by simp [hl]), List.append_nil]

lemma countP_passages (rs : List Asking) :
    (rs.flatMap Asking.passage).countP (·.killing?.isSome) = rs.length := by
  induction rs with
  | nil => rfl
  | cons r rs ih =>
    have hr : r.passage.countP (·.killing?.isSome) = 1 := by rcases r with ⟨p, id, e | -⟩ <;> rfl
    rw [List.flatMap_cons, List.countP_append, ih, hr, List.length_cons, Nat.add_comm]

lemma sweep (ht : Tells ls ds) (ho : ls.head?.all Line.opens = true) (rs : List Asking) :
    Tells (.terminating rs.length :: (rs.flatMap Asking.passage ++ ls)) (rs.map .asked ++ ds) := by
  have hw : ls.head?.filter Line.isWarning = none := by
    rcases ls with _ | ⟨l, ls⟩
    · rfl
    · cases l <;> first | rfl | cases ho
  have hall := ht.askAll hw rs
  refine ⟨hall.calls, hall.requests, hall.outcomes, fun h => ?_,
    fun h => hall.undone (suffix_of_ne h nofun)⟩
  rcases List.suffix_cons_iff.mp h with h | h
  · obtain ⟨hn, rfl⟩ := List.cons.inj h
    rw [takeWhile_passages ho, countP_passages, Line.terminating.inj hn]
  · exact hall.sweeps h

end Tells

/-! ### Activities -/

/-- What an activity traces goes with some deeds, whatever is logged behind it. -/
structure Accounted (t : Trace) (ds : List Deed) : Prop where
  opened : t.lines.head?.all Line.opens = true
  tells : ∀ {ls ds'}, Tells ls ds' → ls.head?.all Line.opens = true →
    Tells (t.lines ++ ls) (ds ++ ds')

lemma opens_append {ks ls : List Line} (hk : ks.head?.all Line.opens = true)
    (hl : ls.head?.all Line.opens = true) : (ks ++ ls).head?.all Line.opens = true := by
  cases ks with
  | nil => exact hl
  | cons l ks => exact hk

namespace Accounted

variable {t t' : Trace} {ds ds' : List Deed}

lemma nil : Accounted [] [] := ⟨rfl, fun ht _ => ht⟩

lemma append (ha : Accounted t ds) (ha' : Accounted t' ds') : Accounted (t ++ t') (ds ++ ds') where
  opened := by
    rw [Trace.lines_append]
    exact opens_append ha.opened ha'.opened
  tells ht ho := by
    rw [Trace.lines_append, List.append_assoc, List.append_assoc]
    exact ha.tells (ha'.tells ht ho) (opens_append ha'.opened ho)

lemma start (i : Invocation) (p : Process) (id : Option Nat) :
    Accounted [.line (.starting i), .event (.spawned i p), .line (.started p.name id)]
      [.started i p id] :=
  ⟨rfl, fun ht _ => ht.start i p id⟩

variable {σ : Type} {h : Host σ}

lemma terminateAll (hq : h.Quiet) (g : Group) (s : σ) :
    Accounted (g.terminateAll h s).trace ((h.askings g.members s).map .asked) where
  opened := by
    rw [Group.lines_terminateAll hq]
    rfl
  tells ht ho := by
    have hn : g.size = (h.askings g.members s).length := (Host.length_askings _ s).symm
    rw [Group.lines_terminateAll hq, hn]
    exact ht.sweep ho _

end Accounted

/-! ### What is noted -/

/-- Why an activity failed. -/
def Outcome.failure? {σ α : Type} (o : Outcome σ (Except Failure α)) : Option Failure :=
  match o.value with
  | .ok _ => none
  | .error e => some e

variable {σ : Type}

namespace Host

variable {h : Host σ}

end Host

/-! ### Orders -/

namespace Holding

variable {h : Host σ}

end Holding

namespace Group

variable {h : Host σ}

end Group

end ServiceStack
