import ServiceStack.CommandLine.Flag

/-!
Reading a command line from left to right. Each argument counts some flags or offends, and the
first offence ends the scan; a request for help or for the version ends it as well. A lone `--`
turns whatever comes next into a positional argument, and there are none, so it can only stand at
the end.
-/

namespace ServiceStack.CommandLine

/-- What ends a scan early. -/
inductive Offence where
  | positional (arg : Octets)
  | long (name : Octets)
  | letter (c : Char)
  | help
  | version
deriving DecidableEq, Repr

def dash : UInt8 := 0x2D

/-- How an argument is to be read. -/
inductive Form where
  | separator
  | long (name : Octets)
  | letters (text : List Char)
  | positional
deriving DecidableEq, Repr

def undashed (arg : Octets) : Octets := arg.dropWhile (· == dash)

/-- The form of an argument. A long name ends before the first `=`. -/
def form (arg : Octets) : Form :=
  match arg with
  | [] => .positional
  | a :: as =>
    if a ≠ dash then .positional
    else match as with
      | [] => .positional
      | b :: bs =>
        if b ≠ dash then .letters (Utf8.lossyChars (undashed arg))
        else if bs = [] then .separator
        else .long ((undashed arg).takeWhile (· != 0x3D))

/-- The flags that an argument counts and the offence that it ends with, if any. -/
structure Reading where
  counted : List Flag
  offence : Option Offence
deriving DecidableEq, Repr

def Reading.count (f : Flag) (r : Reading) : Reading := { r with counted := f :: r.counted }

/-- A flag that was met: a request ends the scan, another flag is counted. -/
def meet (f : Flag) (next : Reading) : Reading :=
  match f with
  | .help => ⟨[], some .help⟩
  | .version => ⟨[], some .version⟩
  | f => next.count f

def readLong (name : Octets) : Reading :=
  match Flag.ofName? name with
  | some f => meet f ⟨[], none⟩
  | none => ⟨[], some (.long name)⟩

def readLetters : List Char → Reading
  | [] => ⟨[], none⟩
  | c :: cs =>
    match Flag.ofLetter? c with
    | some f => meet f (readLetters cs)
    | none => ⟨[], some (.letter c)⟩

/-- How a scan ends: at the end of the arguments, or at an offence, with what came after it. -/
inductive Verdict where
  | complete (counted : List Flag)
  | stopped (counted : List Flag) (offence : Offence) (later : List Octets)
deriving DecidableEq, Repr

def Verdict.counted : Verdict → List Flag
  | complete fs => fs
  | stopped fs _ _ => fs

/-- The verdict when some flags were counted before. -/
def Verdict.after (fs : List Flag) : Verdict → Verdict
  | complete gs => complete (fs ++ gs)
  | stopped gs o later => stopped (fs ++ gs) o later

/-- The verdict on an argument and on those after it. -/
def Reading.onto (r : Reading) (later : List Octets) (rest : Verdict) : Verdict :=
  match r.offence with
  | none => rest.after r.counted
  | some o => .stopped r.counted o later

def scan : List Octets → Verdict
  | [] => .complete []
  | arg :: args =>
    match form arg with
    | .separator =>
      match args with
      | [] => .complete []
      | a :: later => .stopped [] (.positional a) later
    | .positional => .stopped [] (.positional arg) args
    | .long name => (readLong name).onto args (scan args)
    | .letters cs => (readLetters cs).onto args (scan args)

@[simp] theorem scan_nil : scan [] = .complete [] := rfl

theorem scan_positional {arg : Octets} (h : form arg = .positional) (args : List Octets) :
    scan (arg :: args) = .stopped [] (.positional arg) args := by
  simp [scan, h]

theorem scan_long {arg name : Octets} (h : form arg = .long name) (args : List Octets) :
    scan (arg :: args) = (readLong name).onto args (scan args) := by
  simp [scan, h]

theorem scan_letters {arg : Octets} {cs : List Char} (h : form arg = .letters cs)
    (args : List Octets) :
    scan (arg :: args) = (readLetters cs).onto args (scan args) := by
  simp [scan, h]

end ServiceStack.CommandLine
