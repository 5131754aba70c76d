import ServiceStack.Proofs.Group.Launch

/-!
What a sweep logs.

A sweep is a row of requests, one for each member. Each request has a passage of the log to itself:
the line that announces it and, if it fails, a warning. Where a request finds the host does not hang
on what the earlier ones came to, so the passage of a member goes by that member's outcome alone.
-/

namespace ServiceStack

variable {σ : Type}

/-- A request to stop: whom, the number that was told just before, and what it came to. -/
structure Asking where
  process : Process
  id : Option Nat
  result : Except Failure Unit

/-- The lines of the log that belong to a request. -/
def Asking.passage (r : Asking) : List Line :=
  .killing r.process.name r.id :: Group.warning r.process.name r.result

def Line.isWarning : Line → Bool
  | .killFailed .. => true
  | _ => false

/-- What requests to stop come to, by the process and the state of the host. -/
abbrev Answers (σ : Type) := Process → σ → Except Failure Unit

/-- Every request succeeds. -/
def Answers.willing : Answers σ := fun _ _ => .ok ()

namespace Host

variable (h : Host σ)

/-- No process logs lines of its own when it is asked to stop. -/
def Quiet : Prop := ∀ p s, (h.terminate p s).lines = []

/-- The requests to some processes, one after the other. -/
def askings : List Process → σ → List Asking
  | [], _ => []
  | p :: ps, s =>
    let r := h.terminate p s
    ⟨p, h.id p s, r.result⟩ :: askings ps r.host

/-- The host whose requests to stop come to given answers, and are quiet. -/
def answering (a : Answers σ) : Host σ :=
  { h with terminate := fun p s => ⟨a p s, [], (h.terminate p s).host⟩ }

variable {h}

lemma quiet_answering (a : Answers σ) : (h.answering a).Quiet := fun _ _ => rfl

lemma map_process_askings (ps : List Process) (s : σ) :
    (h.askings ps s).map Asking.process = ps := by
  induction ps generalizing s with
  | nil => rfl
  | cons p ps ih => exact congrArg (p :: ·) (ih _)

lemma length_askings (ps : List Process) (s : σ) : (h.askings ps s).length = ps.length := by
  rw [← List.length_map (f := Asking.process), map_process_askings]

/-- Each request finds the host as the requests before it left it. -/
lemma getElem?_askings {ps : List Process} {k : Nat} {p : Process} (hp : ps[k]? = some p) (s : σ) :
    (h.askings ps s)[k]? = some ⟨p, h.id p (h.terminateEach (ps.take k) s),
      (h.terminate p (h.terminateEach (ps.take k) s)).result⟩ := by
  induction ps generalizing k s with
  | nil => simp at hp
  | cons q ps ih =>
    cases k with
    | zero =>
      obtain rfl : q = p := by simpa using hp
      rfl
    | succ k => exact ih (by simpa using hp) _

lemma quiet_stage : Stage.host.Quiet := by
  intro p st
  simp only [Stage.host, Stage.terminate]
  split <;> rfl

lemma answering_self (hq : h.Quiet) : h.answering (fun p s => (h.terminate p s).result) = h := by
  have ht : (fun p s => ⟨(h.terminate p s).result, [], (h.terminate p s).host⟩) = h.terminate := by
    funext p s
    rw [← hq p s]
  rw [answering, ht]

end Host

namespace Group

variable {h : Host σ}

lemma lines_kill (hq : h.Quiet) (p : Process) (s : σ) :
    (kill h p s).trace.lines =
      (⟨p, h.id p s, (h.terminate p s).result⟩ : Asking).passage := by
  simp [kill, hq p s, Asking.passage]

lemma lines_killEach (hq : h.Quiet) (ps : List Process) (s : σ) :
    (killEach h ps s).trace.lines = (h.askings ps s).flatMap Asking.passage := by
  induction ps generalizing s with
  | nil => rfl
  | cons p ps ih =>
    rw [killEach_cons, Outcome.trace_after, Trace.lines_append, lines_kill hq, ih]
    rfl

lemma lines_terminateAll (hq : h.Quiet) (g : Group) (s : σ) :
    (g.terminateAll h s).trace.lines =
      .terminating g.size :: (h.askings g.members s).flatMap Asking.passage := by
  simp [terminateAll, lines_killEach hq]

lemma filter_passage (r : Asking) :
    r.passage.filter (!·.isWarning) = [.killing r.process.name r.id] := by
  rcases r with ⟨p, id, e | -⟩ <;> rfl

lemma filter_killEach (a : Answers σ) (ps : List Process) (s : σ) :
    (((h.answering a).askings ps s).flatMap Asking.passage).filter (!·.isWarning) =
      ((h.answering .willing).askings ps s).flatMap Asking.passage := by
  induction ps generalizing s with
  | nil => rfl
  | cons p ps ih =>
    rw [Host.askings, Host.askings, List.flatMap_cons, List.flatMap_cons, List.filter_append,
      filter_passage]
    exact congrArg _ (ih _)

variable (h) (g : Group) (s : σ)

/-- A sweep in which the requests come to given answers. -/
def sweep (a : Answers σ) : Outcome σ Unit := g.terminateAll (h.answering a) s

/-- What such a sweep logs of each member. -/
def passages (a : Answers σ) : List (List Line) :=
  ((h.answering a).askings g.members s).map Asking.passage

/-- The host as a sweep finds it when it comes to the member at some place. -/
def moment (k : Nat) : σ := h.terminateEach (g.members.take k) s

lemma lines_sweep (a : Answers σ) :
    (sweep h g s a).trace.lines = .terminating g.size :: (passages h g s a).flatten := by
  rw [passages, ← List.flatMap_def]
  exact lines_terminateAll (Host.quiet_answering a) g s

lemma getElem?_passages (a : Answers σ) {k : Nat} {p : Process} (hp : g.members[k]? = some p) :
    (passages h g s a)[k]? = some (.killing p.name (h.id p (moment h g s k)) ::
      warning p.name (a p (moment h g s k))) := by
  rw [passages, List.getElem?_map, Host.getElem?_askings hp]
  rfl

/-- How the sweeps of a group compare when their requests come to `a` and when they come to `b`. -/
structure Apart (a b : Answers σ) : Prop where
  /-- one request for each member, in launch order -/
  requests : (sweep h g s a).trace.events = g.members.map .killed
  events : (sweep h g s a).trace.events = (sweep h g s b).trace.events
  host : (sweep h g s a).host = (sweep h g s b).host
  /-- each request reaches the host -/
  reached : (sweep h g s a).host = h.terminateEach g.members s
  /-- each member has a passage of the log to itself -/
  lines : (sweep h g s a).trace.lines = .terminating g.size :: (passages h g s a).flatten
  length : (passages h g s a).length = g.size
  /-- but for its warnings the log is that of a sweep in which every request succeeds -/
  willing : (sweep h g s a).trace.lines.filter (!·.isWarning) = (sweep h g s .willing).trace.lines
  announced : ∀ (k : Nat) (p : Process), g.members[k]? = some p →
    (passages h g s .willing)[k]? = some [.killing p.name (h.id p (moment h g s k))]
  /-- a warning stands right behind the announcement of its member and tells the member's failure -/
  passage : ∀ (k : Nat) (p : Process), g.members[k]? = some p →
    (passages h g s a)[k]? =
      some (.killing p.name (h.id p (moment h g s k)) :: match a p (moment h g s k) with
        | .ok () => []
        | .error e => [.killFailed p.name e])
  /-- what comes of one member shows in the passage of no other -/
  own : ∀ (k : Nat) (p : Process), g.members[k]? = some p →
    a p (moment h g s k) = b p (moment h g s k) →
      (passages h g s a)[k]? = (passages h g s b)[k]?
  /-- every quiet host is told by its answers -/
  quiet : h.Quiet → h.answering (fun p s => (h.terminate p s).result) = h

/-- **The failures in a sweep stay apart.** Whatever the requests come to, a sweep makes the same
requests, one for each member and in launch order. Its log is that of a sweep in which all of them
succeed, with one warning behind the announcement of each request that fails, which names the member
and tells its own failure. So what comes of one member shows in no line of another. Every quiet host
is told by its answers, so these are the sweeps on all of them. -/
theorem sweep_apart (a b : Answers σ) : Apart h g s a b where
  requests := events_terminateAll _ g s
  events := by
    rw [sweep, sweep, events_terminateAll, events_terminateAll]
  host := by
    rw [sweep, sweep, host_terminateAll, host_terminateAll]
    rfl
  reached := by
    rw [sweep, host_terminateAll]
    rfl
  lines := lines_sweep h g s a
  length := by
    rw [passages, List.length_map, Host.length_askings]
    rfl
  willing := by
    rw [lines_sweep, lines_sweep, List.filter_cons_of_pos rfl, passages, passages,
      ← List.flatMap_def, filter_killEach, List.flatMap_def]
  announced k p hp := getElem?_passages h g s .willing hp
  passage k p hp := by
    rw [getElem?_passages h g s a hp]
    cases a p (moment h g s k) <;> rfl
  own k p hp hab := by
    rw [getElem?_passages h g s a hp, getElem?_passages h g s b hp, hab]
  quiet := Host.answering_self

/-- Of three processes, two of one name, the second cannot be asked to stop. That the third cannot
either changes nothing of what is logged of the second. -/
theorem sweep_apart_twins :
    let st : Stage := ⟨Script.ofList [{ id := some 4 }, {}, { id := some 6 }], 3⟩
    let g : Group := ⟨[⟨0, "twin"⟩, ⟨1, "twin"⟩, ⟨2, "web"⟩]⟩
    let a : Answers Stage := fun p _ => if p.key = 1 then .error (.ofText "busy") else .ok ()
    let b : Answers Stage := fun p _ => if p.key = 0 then .ok () else .error (.ofText "busy")
    g.members[1]? = some ⟨1, "twin"⟩ ∧ a ⟨1, "twin"⟩ st = b ⟨1, "twin"⟩ st ∧
      (passages Stage.host g st a)[1]? =
        some [.killing "twin" none, .killFailed "twin" (.ofText "busy")] ∧
      (passages Stage.host g st a)[1]? = (passages Stage.host g st b)[1]? ∧
      Stage.host.answering (fun p s => (Stage.host.terminate p s).result) = Stage.host := by
  intro st g a b
  have hp : g.members[1]? = some ⟨1, "twin"⟩ := rfl
  have hab : a ⟨1, "twin"⟩ st = b ⟨1, "twin"⟩ st := rfl
  have hc := sweep_apart Stage.host g st a b
  exact ⟨hp, hab, hc.passage 1 _ hp, hc.own 1 _ hp hab, hc.quiet Host.quiet_stage⟩

end Group

end ServiceStack
