import ServiceStack.Machine.Shell.State

/-!
The processes of a shell: copies of it, which go on by themselves, the batches in which they were
started, and how they are waited for. Signals are noticed between commands and while the shell waits
for any child; while it waits for one batch they have to wait too.
-/

namespace ServiceStack.Shell

variable {Item : Type}

/-! ### Signals -/

/-- Ends by an interrupt. -/
def interrupt : Sh Unit := do
  let _ ← ask (.action Signal.interrupt (some .default))
  let me ← act Act.self
  let _ ← ask (.kill me.pid Signal.interrupt)

/-- Takes note of a signal. -/
def note (n : Nat) : Sh Unit := do
  let hasAction := ((← get).traps.lookup n).isSome
  if n = Signal.child then modify fun s => { s with news := true }
  if n ≠ Signal.child || hasAction then
    modify fun s => { s with
      gotten := if s.gotten.contains n then s.gotten else s.gotten ++ [n], pending := some n }
  if n = Signal.interrupt && !hasAction then interrupt

def notice : Sh Unit := do
  for n in ← act Act.poll do
    note n

/-- Runs the actions on the signals from some number on that came. An action that leaves what the
shell is doing leaves the others for later. -/
def runActions (k : Hooks Item) (status : Nat) : List Nat → Sh Unit
  | [] => return
  | n :: ns => do
    let s ← get
    if !s.gotten.contains n then runActions k status ns
    else
      set { s with gotten := s.gotten.filter (· ≠ n) }
      match s.traps.lookup n with
      | none => runActions k status ns
      | some action =>
        let r ← outcome do
          let _ ← k.script {} action
        match r with
        | .error .exit | .error .fault | .error .finish => resume r
        | .error (.returned true) => leave r
        | .error _ =>
          setStatus status
          leave r
        | .ok () =>
          setStatus status
          runActions k status ns
where
  leave (r : Except Flow Unit) : Sh Unit := do
    modify fun s => { s with pending := s.gotten.head? }
    resume r

/-- Runs the actions on the signals that came. -/
def runTraps (k : Hooks Item) : Sh Unit := do
  notice
  let s ← get
  if s.pending.isSome then
    let status := s.saved.getD s.status
    set { s with saved := some status, pending := none }
    let r ← outcome (runActions k status (List.range Signal.bound))
    match r with
    | .error .exit | .error .fault | .error .finish => resume r
    | _ =>
      modify fun t => { t with saved := s.saved }
      resume r

/-! ### Copies of the shell -/

/-- The end of a shell: its status, which the action on its end may change. -/
def conclude (k : Hooks Item) (body : Sh Unit) : Sh Nat := do
  match ← outcome body with
  | .error .exit => modify fun s => { s with status := s.saved.getD s.status }
  | _ => pure ()
  let s ← get
  set { s with saved := some s.status, traps := s.traps.filter (·.1 ≠ 0) }
  match s.traps.lookup 0 with
  | none => return s.status
  | some action =>
    let r ← outcome (k.script {} action)
    let t ← get
    match r with
    | .error .fault | .error .finish => return t.status
    | _ => return t.saved.getD s.status

/-- How a copy of the shell is related to it: the shell waits for it, or does not, or reads what it
writes. -/
inductive Kin where
  | front
  | back
  | inner
deriving DecidableEq, Repr

/-- Ignores a signal for good. -/
def ignoreForGood (n : Nat) : Sh Unit := do
  let _ ← ask (.action n (some .ignore))
  modify fun s => { s with deaf := n :: s.deaf, examined := n :: s.examined }

/-- What a copy of the shell is at its start: it has no actions on signals but what it ignores. In
the background it cannot be interrupted, and the first of a batch has no input. -/
def begin (kin : Kin) (first : Bool) : Sh Unit := do
  let s ← get
  for t in s.traps do
    let isOwn := t.1 ≠ 0 && t.1 ≠ Signal.child && t.1 < Signal.bound
    if t.2 ≠ [] && isOwn && !s.deaf.contains t.1 then
      let _ ← ask (.action t.1 (some .default))
  set { s with
    isRoot := false, traps := s.traps.filter (·.2 = []), batches := [], gotten := []
    pending := none, news := false, label := [], level := s.level + 1 }
  if s.rich then
    let me ← act Act.self
    modify fun s => { s with pid := me.pid }
  if kin = .back then
    ignoreForGood Signal.interrupt
    ignoreForGood Signal.quit
    if first then
      act (Act.close 0)
      let _ ← ask (.open "/dev/null".toList { reads := true })

/-- Starts a process that goes on with a copy of what the shell knows. -/
def fork (body : Sh Nat) : Sh Nat := fun s k =>
  .fork (body s fun r => .exit (match r.1 with
    | .ok code => code
    | .error _ => r.2.status)) fun pid => k (.ok pid, s)

/-! ### Batches -/

def Batch.isDone (b : Batch) : Bool := b.members ≠ [] && b.members.all (·.ending.isSome)

/-- The status of the last of its processes. -/
def Batch.status (b : Batch) : Nat :=
  ((b.members.getLast?.bind Member.ending).map Ending.status).getD 0

def batch? (slot : Nat) (s : State) : Option Batch := s.batches.find? (·.slot = slot)

/-- More places than there are for batches that go on. -/
def slotLimit : Nat := 1000000

/-- A new batch behind all that go on. Those that are done give up their places. -/
def lastBatch : Sh Nat := do
  let s ← get
  let moved := s.batches.map fun b =>
    if b.isDone && b.slot < slotLimit then
      { b with slot := slotLimit + (b.members.getLast?.map Member.pid).getD 0 }
    else b
  let slot := (moved.filter (!·.isDone)).foldl (fun n b => max n b.slot) 0 + 1
  set { s with batches := { slot, text := s.label } :: moved }
  return slot

/-- A new batch, in the first place that is free. -/
def newBatch : Sh Nat := do
  let s ← get
  if s.rich then return ← lastBatch
  let isFree := fun (n : Nat) =>
    s.batches.all fun b => b.slot ≠ n || b.isDone && b.waited
  let places := (List.range (s.batches.length + 1)).map (· + 1)
  let slot := (places.find? isFree).getD (s.batches.length + 1)
  set { s with batches := { slot } :: s.batches.filter (·.slot ≠ slot) }
  return slot

def updateBatch (slot : Nat) (f : Batch → Batch) : Sh Unit := modify fun s => { s with
  batches := s.batches.map fun b => if b.slot = slot then f b else b }

def dropBatch (slot : Nat) : Sh Unit := modify fun s => { s with
  batches := s.batches.filter (·.slot ≠ slot) }

/-- Takes a process into a batch. -/
def enlist (slot pid : Nat) : Sh Unit :=
  updateBatch slot fun b => { b with members := b.members ++ [{ pid }] }

/-- Starts a copy of the shell in a batch. -/
def spawn (k : Hooks Item) (slot : Nat) (kin : Kin) (body : Sh Unit) : Sh Unit := do
  let first := ((batch? slot (← get)).map Batch.members).getD [] = []
  let pid ← fork (conclude k do
    begin kin first
    body)
  enlist slot pid
  if kin = .back then modify fun s => { s with lastBackground := some pid }

/-! ### Waiting -/

/-- How long is waited for a child: not at all, till a batch is done, till some child has ended or
a signal has come. With the last, one child is enough. -/
inductive Wait where
  | never
  | batch
  | signal
  | child
deriving DecidableEq, Repr

inductive Taken where
  | nothing
  | interrupted
  | child (pid : Nat) (e : Ending)

/-- Waits for a signal. -/
def lull : Nat → Sh Unit
  | 0 => return
  | n + 1 => do
    notice
    let s ← get
    if !s.news && s.pending.isNone then
      let _ ← ask .pause
      lull n

/-- Takes the ending of a child. -/
def take (w : Wait) : Nat → Sh Taken
  | 0 => return .nothing
  | n + 1 => do
    modify fun s => { s with news := false }
    match ← ask (.await (w = .batch)) with
    | .error .EINTR => take w n
    | .error _ => return .nothing
    | .ok (some (pid, e)) => return .child pid e
    | .ok none =>
      if w = .never || w = .batch then return .nothing
      lull n
      if (← get).news then take w n else return .interrupted

/-- What is told of a process that was waited for. -/
def obituary (rich : Bool) : Ending → Raw
  | .exit _ => []
  | .signal n =>
    if rich || n = Signal.interrupt || n = Signal.pipe then [] else Signal.description n ++ ['\n']

/-- Takes the ending of a child, and enters it in its batch. -/
def takeOne (w : Wait) (slot : Option Nat) : Sh Taken := do
  let t ← take w Act.patience
  match t with
  | .child pid e =>
    let s ← get
    match s.batches.find? fun b => !b.isDone && b.members.any (·.pid = pid) with
    | none => return t
    | some b =>
      updateBatch b.slot fun b => { b with members := b.members.map fun m =>
        if m.pid = pid then { m with ending := some e } else m }
      if some b.slot = slot then
        let _ ← put 2 (obituary s.rich e)
      return t
  | t => return t

/-- Takes endings of children, and tells whether no signal interrupted it. -/
def await (w : Wait) (slot : Option Nat) : Sh Bool := do
  let isDone := fun (s : State) => (slot.bind (batch? · s)).any Batch.isDone
  let rec go (isDone : State → Bool) : Nat → Wait → Bool → Sh Bool
    | 0, _, good => return good
    | n + 1, w, good => do
      match ← takeOne w slot with
      | .nothing => return good
      | .interrupted => go isDone n .never false
      | .child _ _ =>
        let w := if w = .child || isDone (← get) then .never else w
        go isDone n w good
  if w = .never then notice
  let s ← get
  let w := if isDone s then .never else w
  if w = .never && !s.news then return true
  go isDone Act.patience w true

/-- Waits for a batch, and takes its status. -/
def waitFor (slot : Nat) : Sh Nat := do
  let _ ← await .batch (some slot)
  let code := ((batch? slot (← get)).map Batch.status).getD 0
  dropBatch slot
  return code

end ServiceStack.Shell
