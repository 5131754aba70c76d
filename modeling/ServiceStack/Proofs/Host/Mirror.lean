import Mathlib.Tactic.Lemma
import ServiceStack.Group.Info
import ServiceStack.Proofs.Group.Launch

/-!
One host as a mirror of another.

A mirror answers each request as the host does, under other processes: it gives the image of a
process where the host gives the process. So whatever is done on the host and on its mirror leaves
the same lines and the same events, up to the images, and the mirror stays one.
-/

namespace ServiceStack

/-! ### Traces under other processes -/

def Event.rename (f : Process → Process) : Event → Event
  | .spawned i p => .spawned i (f p)
  | .refused i => .refused i
  | .killed p => .killed (f p)
  | .listening => .listening
  | .interrupted => .interrupted

def Entry.rename (f : Process → Process) : Entry → Entry
  | .event e => .event (e.rename f)
  | .line l => .line l

namespace Trace

/-- The trace with the image of each process in its place. -/
def rename (f : Process → Process) (t : Trace) : Trace := t.map (Entry.rename f)

variable (f : Process → Process)

@[simp] lemma rename_nil : rename f [] = [] := rfl

@[simp] lemma rename_cons (e : Entry) (t : Trace) :
    rename f (e :: t) = e.rename f :: rename f t := rfl

@[simp] lemma rename_append (s t : Trace) : rename f (s ++ t) = rename f s ++ rename f t :=
  List.map_append

@[simp] lemma rename_ofLines (ls : List Line) : rename f (ofLines ls) = ofLines ls := by
  simp [rename, ofLines, Entry.rename, Function.comp_def]

lemma rename_rename (g : Process → Process) (t : Trace) :
    rename g (rename f t) = rename (g ∘ f) t := by
  rw [rename, rename, rename, List.map_map]
  congr 1
  funext e
  rcases e with (_ | _ | _ | _ | _) | _ <;> rfl

@[simp] lemma rename_id (t : Trace) : rename id t = t := by
  have hid : Entry.rename id = id := by
    funext e
    rcases e with (_ | _ | _ | _ | _) | _ <;> rfl
  rw [rename, hid, List.map_id]

end Trace

def Group.rename (f : Process → Process) (g : Group) : Group := ⟨g.members.map f⟩

@[simp] lemma Group.rename_id : rename id = id := by
  funext g
  exact congrArg Group.mk (List.map_id _)

/-! ### Mirrors -/

variable {σ τ : Type}

/-- Whatever is asked of `h` in a state comes to the same when it is asked of `k` in a state that
goes with it, up to the images of the processes, and the states still go together. -/
structure Mirrors (h : Host σ) (k : Host τ) (f : Process → Process) (R : σ → τ → Prop) :
    Prop where
  name : ∀ p, (f p).name = p.name
  spawn : ∀ {s t} i, R s t →
    (k.spawn i t).1 = (h.spawn i s).1.map f ∧ R (h.spawn i s).2 (k.spawn i t).2
  number : ∀ {s t} p, R s t → k.id (f p) t = h.id p s
  terminate : ∀ {s t} p, R s t → (k.terminate (f p) t).result = (h.terminate p s).result ∧
    (k.terminate (f p) t).lines = (h.terminate p s).lines ∧
    R (h.terminate p s).host (k.terminate (f p) t).host

/-- What an activity leaves on a mirror, where it leaves `o` on the host. -/
structure Outcome.Mirrored {α β : Type} (f : Process → Process) (R : σ → τ → Prop) (image : α → β)
    (o : Outcome σ α) (o' : Outcome τ β) : Prop where
  value : o'.value = image o.value
  trace : o'.trace = o.trace.rename f
  host : R o.host o'.host

variable {h : Host σ} {k : Host τ} {f : Process → Process} {R : σ → τ → Prop}

lemma Outcome.Mirrored.after {α β : Type} {image : α → β} {o : Outcome σ α} {o' : Outcome τ β}
    (ho : Mirrored f R image o o') {t t' : Trace} (ht : t' = t.rename f) :
    Mirrored f R image (o.after t) (o'.after t') where
  value := ho.value
  trace := by rw [trace_after, trace_after, Trace.rename_append, ho.trace, ht]
  host := ho.host

namespace Mirrors

/-- What every request leaves true of a mirror may be asked of its states besides. -/
lemma keeping (hm : Mirrors h k f R) {P : τ → Prop} (spawn : ∀ {t} i, P t → P (k.spawn i t).2)
    (terminate : ∀ {t} p, P t → P (k.terminate p t).host) :
    Mirrors h k f (fun s t => R s t ∧ P t) where
  name := hm.name
  spawn i hr := ⟨(hm.spawn i hr.1).1, (hm.spawn i hr.1).2, spawn i hr.2⟩
  number p hr := hm.number p hr.1
  terminate p hr := by
    obtain ⟨hres, hlines, hhost⟩ := hm.terminate p hr.1
    exact ⟨hres, hlines, hhost, terminate (f p) hr.2⟩

lemma kill (hm : Mirrors h k f R) (p : Process) {s : σ} {t : τ} (hr : R s t) :
    Outcome.Mirrored f R id (Group.kill h p s) (Group.kill k (f p) t) := by
  obtain ⟨hres, hlines, hhost⟩ := hm.terminate p hr
  refine ⟨rfl, ?_, hhost⟩
  simp [Group.kill, hres, hlines, hm.name, hm.number p hr, Entry.rename, Event.rename]

lemma killEach (hm : Mirrors h k f R) (ps : List Process) {s : σ} {t : τ} (hr : R s t) :
    Outcome.Mirrored f R id (Group.killEach h ps s) (Group.killEach k (ps.map f) t) := by
  induction ps generalizing s t with
  | nil => exact ⟨rfl, rfl, hr⟩
  | cons p ps ih =>
    have hp := hm.kill p hr
    rw [List.map_cons, Group.killEach_cons, Group.killEach_cons]
    exact (ih hp.host).after hp.trace

lemma terminateAll (hm : Mirrors h k f R) (g : Group) {s : σ} {t : τ} (hr : R s t) :
    Outcome.Mirrored f R id (g.terminateAll h s) ((g.rename f).terminateAll k t) := by
  refine (hm.killEach g.members hr).after ?_
  simp [Group.size, Group.rename, Entry.rename]

lemma launchOnto (hm : Mirrors h k f R) (started : List Process) (is : List Invocation) {s : σ}
    {t : τ} (hr : R s t) :
    Outcome.Mirrored f R (Except.map (Group.rename f)) (Group.launchOnto h started is s)
      (Group.launchOnto k (started.map f) is t) := by
  induction is generalizing started s t with
  | nil => exact ⟨rfl, rfl, hr⟩
  | cons i is ih =>
    obtain ⟨hres, hhost⟩ := hm.spawn i hr
    rcases ht : k.spawn i t with ⟨r, t'⟩
    rcases hs : h.spawn i s with ⟨e | p, s'⟩ <;> simp only [hs, ht] at hres hhost <;> subst hres
    · obtain ⟨-, htrace, hhost'⟩ := hm.terminateAll ⟨started⟩ hhost
      rw [Group.launchOnto_error hs, Group.launchOnto_error ht]
      refine ⟨rfl, ?_, hhost'⟩
      exact congrArg (_ ++ ·) htrace
    · have hrest := ih (started ++ [p]) hhost
      rw [List.map_append, List.map_singleton] at hrest
      rw [Group.launchOnto_ok hs, Group.launchOnto_ok ht]
      refine hrest.after ?_
      simp [hm.name, hm.number p hhost, Entry.rename, Event.rename]

lemma launch (hm : Mirrors h k f R) (is : List Invocation) {s : σ} {t : τ} (hr : R s t) :
    Outcome.Mirrored f R (Except.map (Group.rename f)) (Group.launch h is s)
      (Group.launch k is t) :=
  hm.launchOnto [] is hr

lemma info (hm : Mirrors h k f R) (g : Group) {s : σ} {t : τ} (hr : R s t) :
    (g.rename f).info k t = g.info h s := by
  simp [Group.info, Group.size, Group.isEmpty, Group.names, Group.ids, Group.rename,
    Function.comp_def, hm.name, hm.number _ hr]

end Mirrors

end ServiceStack
