import ServiceStack.Machine.Disk

/-!
What a process does, as a row of requests to its system. A request tells what is asked and of what
kind the answer is; a course is a request with what is done for every answer. An activity is a
course whose end is left open, so that activities can be put one after another.
-/

namespace ServiceStack

/-- How a process ended: by itself with a code, or by a signal. -/
inductive Ending where
  | exit (code : Nat)
  | signal (number : Nat)
deriving DecidableEq, Repr

/-- The code by which one process is told how another ended. -/
def Ending.status : Ending → Nat
  | .exit code => code
  | .signal n => 128 + n

/-- What a process does about a signal. A caught one is kept until it is asked for. -/
inductive Action where
  | default
  | ignore
  | catch
deriving DecidableEq, Repr

/-- Where a stream leads: to the output or the errors of the first process, into a pipe, to a
file. -/
inductive Target where
  | output
  | errors
  | pipe (n : Nat)
  | inode (n : Nat)
deriving DecidableEq, Repr

/-- How a file is opened. -/
structure Access where
  reads : Bool := false
  writes : Bool := false
  creates : Bool := false
  truncates : Bool := false
  appends : Bool := false
  /-- it must not be there before -/
  fresh : Bool := false
  rights : Nat := 0o666
deriving DecidableEq, Repr

/-- Who a process is. -/
structure Identity where
  pid : Nat
  parent : Nat
  group : Nat
  session : Nat
  nice : Int
deriving DecidableEq, Repr

/-- What a process sees when it looks around. -/
structure Scene where
  disk : Disk
  place : Nat
  streams : List (Nat × Target)

inductive Request where
  | write (stream : Nat) (text : Raw)
  /-- so many bytes at most; none are left if there are none in the answer -/
  | read (stream most : Nat)
  | open (path : Raw) (access : Access)
  /-- goes back by so many bytes -/
  | back (stream bytes : Nat)
  /-- makes one stream lead where another does -/
  | copy (stream onto : Nat)
  /-- another stream from a number on that leads where one does, which no new program gets -/
  | keep (stream : Nat)
  | close (stream : Nat)
  /-- two streams: what is written to the second is read from the first -/
  | pipe
  /-- the ending of a child, or nothing if all go on and it is not to be waited for -/
  | await (blocks : Bool)
  /-- a process, or a group below zero -/
  | kill (target : Int) (signal : Nat)
  /-- what is done about a signal, perhaps from now on something else -/
  | action (signal : Nat) (change : Option Action)
  /-- the signals that were caught and not yet asked for -/
  | poll
  /-- waits for a signal that is caught -/
  | pause
  | rest (till : Nat)
  | time
  /-- a signal at some time, or none -/
  | alarm (time : Option Nat)
  | self
  /-- gives the process to another program: nothing is caught any more -/
  | replace
  /-- leads a group of its own, or a session -/
  | lead (session : Bool)
  | enter (path : Raw)
  | look
  | change (c : Disk.Change)
  /-- the rights that new files do not get -/
  | mask (change : Option Nat)
  | renice (step : Int)

/-- What a request asks for, if it succeeds. -/
@[reducible] def Request.Value : Request → Type
  | .write .. => Nat
  | .read .. => Raw
  | .open .. => Nat
  | .keep _ => Nat
  | .pipe => Nat × Nat
  | .await _ => Option (Nat × Ending)
  | .action .. => Action
  | .poll => List Nat
  | .time => Nat
  | .self => Identity
  | .look => Scene
  | .mask _ => Nat
  | .renice _ => Int
  | _ => Unit

abbrev Request.Answer (r : Request) : Type := Except Errno r.Value

/-- What a process does from some point on. -/
inductive Course where
  | exit (code : Nat)
  | ask (r : Request) (next : r.Answer → Course)
  /-- starts a process with a course of its own, which has all that this one has -/
  | fork (child : Course) (next : Nat → Course)

/-- A course that is left open where a value is found. -/
def Act (α : Type) : Type := (α → Course) → Course

namespace Act

instance : Monad Act where
  pure a k := k a
  bind x f k := x fun a => f a k

def ask (r : Request) : Act r.Answer := fun k => .ask r k

/-- Ends the process. -/
def exit {α : Type} (code : Nat) : Act α := fun _ => .exit code

/-- A course that ends with the code that an activity finds. -/
def course (x : Act Nat) : Course := x .exit

/-- Starts a process for an activity, and tells its number. -/
def fork (child : Act Nat) : Act Nat := fun k => .fork child.course k

/-! ### Requests that cannot fail -/

def orElse {α : Type} (usual : α) : Except Errno α → α
  | .ok a => a
  | .error _ => usual

def self : Act Identity := return orElse ⟨0, 0, 0, 0, 0⟩ (← ask .self)

def look : Act Scene := return orElse ⟨.empty, Disk.root, []⟩ (← ask .look)

def poll : Act (List Nat) := return orElse [] (← ask .poll)

def time : Act Nat := return orElse 0 (← ask .time)

/-- The point of time at which a machine is started, in seconds from the year 1970. -/
def firstSecond : Nat := 1750000000

/-- The seconds from the year 1970 on, and the parts of a second. -/
def clock : Act (Nat × Nat) := do
  let now ← time
  return (firstSecond + now / 1000000000, now % 1000000000)

def mask (change : Option Nat) : Act Nat := return orElse 0 (← ask (.mask change))

def action (signal : Nat) (change : Option Action) : Act Action :=
  return orElse .default (← ask (.action signal change))

def renice (n : Int) : Act Int := return orElse 0 (← ask (.renice n))

def close (stream : Nat) : Act Unit := do
  let _ ← ask (.close stream)

def kill (target : Int) (signal : Nat) : Act Unit := do
  let _ ← ask (.kill target signal)

/-- Waits for some time. -/
def sleep (nanoseconds : Nat) : Act Unit := do
  let now ← time
  let _ ← ask (.rest (now + nanoseconds))

/-! ### Reading and writing -/

/-- More steps than any process takes. -/
def patience : Nat := 1000000000000

/-- Writes a text to a stream, in as many steps as it takes. -/
def write (stream : Nat) (text : Raw) : Act (Except Errno Unit) := go patience text
where
  go : Nat → Raw → Act (Except Errno Unit)
    | 0, _ => return .ok ()
    | n + 1, text => do
      if text = [] then return .ok ()
      else match ← ask (.write stream text) with
        | .error .EINTR => go n text
        | .error e => return .error e
        | .ok count => go n (text.drop count)

/-- How much is read at once. -/
def blockSize : Nat := 65536

/-- All that a stream holds, up to its end. -/
def readAll (stream : Nat) : Act (Except Errno Raw) := go patience []
where
  go : Nat → List Raw → Act (Except Errno Raw)
    | 0, blocks => return .ok blocks.reverse.flatten
    | n + 1, blocks => do
      match ← ask (.read stream blockSize) with
      | .error .EINTR => go n blocks
      | .error e => return .error e
      | .ok [] => return .ok blocks.reverse.flatten
      | .ok block => go n (block :: blocks)

def openToRead (path : Raw) : Act (Except Errno Nat) := ask (.open path { reads := true })

/-- The whole text of a file. -/
def readFile (path : Raw) : Act (Except Errno Raw) := do
  match ← openToRead path with
  | .error e => return .error e
  | .ok stream =>
    let text ← readAll stream
    close stream
    return text

end Act

end ServiceStack
