import ServiceStack.Machine.Tool.Launch.Rank

/-!
Programs that run another one with settings of which nothing is seen here: how the machine divides
its time and its memory, which processors and which rights a process has, how addresses are chosen,
and locks on files.
-/

namespace ServiceStack.Launch

variable (perform : Performer) (c : Call)

def badUsage : Act Nat := usage c "bad usage" 1

def say (text : Raw) : Act Nat := (Notice.say (text ++ ['\n']) 0).act (self c) 1

def complain (text : Raw) (code : Nat) : Act Nat :=
  (Notice.complain ((self c).toList ++ ": ".toList ++ text) code).act (self c) code

/-- Becomes a command, or tells why it cannot. -/
def execute (code : Errno → Nat) (name : Raw) (args : List Raw) : Act Nat := do
  let e ← exec perform c.environment name args
  Notice.warn ((self c).toList ++ ": failed to execute ".toList ++ name ++ ": ".toList ++
    e.text.toList)
  return code e

/-- Becomes the command that words tell, if they tell one. -/
def executeWords (missing : Act Nat) : List Raw → Act Nat
  | [] => missing
  | name :: args => execute perform c refusalCode name args

/-- Whether the words of a process are told, and not of a command. -/
def asksAboutProcess (os : List (Char × Raw)) : Bool := Letter.has 'p' os

/-! ### Time -/

/-- The classes of use of devices. -/
def deviceClasses : List (String × Nat) :=
  [("none", 0), ("realtime", 1), ("best-effort", 2), ("idle", 3)]

def deviceClass? (v : Raw) : Option Nat :=
  match Numeral.natural? v with
  | some n => some n
  | none => (deviceClasses.find? fun w => w.1.toList = v.map Char.toLower).map Prod.snd

def ionice : Act Nat := do
  let g : Letter.Grammar := {
    plain := "t", valued := "cnpPu"
    long := [("classdata", 'n'), ("class", 'c'), ("ignore", 't'), ("pid", 'p'), ("pgid", 'P'),
      ("uid", 'u')]
    strict := true }
  match Letter.split g c.args with
  | .error f => fault c f 1
  | .ok (os, rest) =>
    match (Letter.value? 'c' os).map fun v => (v, deviceClass? v) with
    | some (v, none) => complain c ("unknown scheduling class: '".toList ++ v ++ ['\'']) 1
    | some (v, some n) =>
      if 3 < n then
        Notice.warn ((self c).toList ++ ": unknown prio class ".toList ++ v)
      executeWords perform c (badUsage c) rest
    | none =>
      if rest = [] then
        if os = [] || asksAboutProcess os then say c "none: prio 0".toList else badUsage c
      else executeWords perform c (badUsage c) rest

/-- The rules by which processes wait for a processor, with their ranks. -/
def turnRules : List (Char × String × Nat × Nat) := [
  ('o', "OTHER", 0, 0), ('f', "FIFO", 1, 99), ('r', "RR", 1, 99), ('b', "BATCH", 0, 0),
  ('i', "IDLE", 0, 0), ('d', "DEADLINE", 0, 0)]

def chrt : Act Nat := do
  let g : Letter.Grammar := {
    plain := "abdfiomrRpv", valued := "TPD"
    long := [("all-tasks", 'a'), ("batch", 'b'), ("deadline", 'd'), ("fifo", 'f'), ("idle", 'i'),
      ("max", 'm'), ("other", 'o'), ("pid", 'p'), ("reset-on-fork", 'R'), ("rr", 'r'),
      ("sched-runtime", 'T'), ("sched-period", 'P'), ("sched-deadline", 'D'), ("verbose", 'v')]
    strict := true }
  match Letter.split g c.args with
  | .error f => fault c f 1
  | .ok (os, rest) =>
    if Letter.has 'm' os then
      (Notice.say (turnRules.flatMap fun r =>
        ("SCHED_" ++ r.2.1 ++ " min/max priority\t: ").toList ++ Numeral.natText 10 r.2.2.1 ++
          '/' :: Numeral.natText 10 r.2.2.2 ++ ['\n']) 0).act (self c) 1
    else match asksAboutProcess os, rest with
      | true, pid :: _ =>
        let row := fun (what value : String) =>
          "pid ".toList ++ pid ++ ("'s current scheduling " ++ what ++ ": " ++ value ++ "\n").toList
        (Notice.say (row "policy" "SCHED_OTHER" ++ row "priority" "0") 0).act (self c) 1
      | _, [] => badUsage c
      | false, [_] => badUsage c
      | false, rank :: words =>
        let rule := (Letter.last? "ofrbid" os).getD 'r'
        match Numeral.natural? rank, turnRules.lookup rule with
        | none, _ => complain c ("invalid priority argument: '".toList ++ rank ++ ['\'']) 1
        | some n, some (_, low, high) =>
          if n < low || high < n then
            complain c ("unsupported priority value for the policy: ".toList ++ rank ++
              ": see --max for valid range".toList) 1
          else executeWords perform c (badUsage c) words
        | _, none => badUsage c

/-! ### Processors and addresses -/

/-- Whether a text is a list of processors: numbers and ranges. -/
def isProcessorList (v : Raw) : Bool :=
  (v.splitOn ',').all fun r => (r.splitOn '-').all fun n => (Numeral.natural? n).isSome

def isMask (v : Raw) : Bool :=
  let ds := if "0x".toList.isPrefixOf v then v.drop 2 else v
  ds ≠ [] && ds.all fun d => Numeral.isDigit 16 d || d = ','

def taskset : Act Nat := do
  let g : Letter.Grammar := {
    plain := "acp", long := [("all-tasks", 'a'), ("pid", 'p'), ("cpu-list", 'c')], strict := true }
  match Letter.split g c.args with
  | .error f => fault c f 1
  | .ok (os, rest) =>
    match rest with
    | [] | [_] => badUsage c
    | mask :: words =>
      if Letter.has 'c' os then
        if isProcessorList mask then executeWords perform c (badUsage c) words
        else complain c ("failed to parse CPU list: ".toList ++ mask) 1
      else if isMask mask then executeWords perform c (badUsage c) words
      else complain c ("failed to parse CPU mask: ".toList ++ mask) 1

/-- The kinds of machines that a process can be told. -/
def architectures : List String :=
  ["linux32", "linux64", "i386", "i486", "i586", "i686", "athlon", "x86_64", "uname26"]

/-- Runs a command, or a shell without one, with other addresses. -/
def setarch (named : Bool) : Act Nat := do
  let g : Letter.Grammar := {
    plain := "BFILRSTXZ3v"
    long := [("32bit", 'B'), ("fdpic-funcptrs", 'F'), ("short-inode", 'I'),
      ("addr-compat-layout", 'L'), ("addr-no-randomize", 'R'), ("whole-seconds", 'S'),
      ("sticky-timeouts", 'T'), ("read-implies-exec", 'X'), ("mmap-page-zero", 'Z'), ("3gb", '3'),
      ("4gb", '4'), ("uname-2.6", 'u'), ("verbose", 'v')]
    strict := true }
  match named, c.args with
  | false, [] => complain c "no architecture argument or personality flags specified".toList 1
  | false, a :: more =>
    if a.head? = some '-' then run g (a :: more)
    else if architectures.contains (String.ofList a) then run g more
    else complain c (a ++ ": Unrecognized architecture".toList) 1
  | true, words => run g words
where
  run (g : Letter.Grammar) (words : List Raw) : Act Nat :=
    match Letter.split g words with
    | .error f => fault c f 1
    | .ok (_, rest) =>
      executeWords perform c (execute perform c refusalCode "/bin/sh".toList []) rest

/-! ### Memory, rights and names -/

def choom : Act Nat := do
  let g : Letter.Grammar := {
    valued := "np", long := [("adjust", 'n'), ("pid", 'p')], strict := true }
  match Letter.split g c.args with
  | .error f => fault c f 1
  | .ok (os, []) =>
    if os = [] then usage c "no PID or COMMAND specified" 1
    else usage c "no OOM score adjust value specified" 1
  | .ok (_, rest) => executeWords perform c (badUsage c) rest

def setpriv : Act Nat := do
  let g : Letter.Grammar := {
    plain := "dNcIk", valued := "="
    long := [("dump", 'd'), ("nnp", 'N'), ("no-new-privs", 'N'), ("ambient-caps", '='),
      ("inh-caps", '='), ("bounding-set", '='), ("ruid", '='), ("euid", '='), ("rgid", '='),
      ("egid", '='), ("reuid", '='), ("regid", '='), ("clear-groups", 'c'), ("keep-groups", 'k'),
      ("init-groups", 'I'), ("groups", '='), ("securebits", '='), ("pdeathsig", '='),
      ("selinux-label", '='), ("apparmor-profile", '='), ("reset-env", 'c')]
    strict := true }
  match Letter.split g c.args with
  | .error f => fault c f 1
  | .ok (_, []) => complain c "No program specified".toList 1
  | .ok (_, rest) => executeWords perform c (badUsage c) rest

def unshare : Act Nat := do
  let g : Letter.Grammar := {
    plain := "muinpUCTfrc", valued := "RwSG"
    long := [("mount", 'm'), ("uts", 'u'), ("ipc", 'i'), ("net", 'n'), ("pid", 'p'), ("user", 'U'),
      ("cgroup", 'C'), ("time", 'T'), ("fork", 'f'), ("map-root-user", 'r'),
      ("map-current-user", 'c'), ("root", 'R'), ("wd", 'w'), ("setuid", 'S'), ("setgid", 'G')]
    strict := true }
  match Letter.split g c.args with
  | .error f => fault c f 1
  | .ok (_, rest) =>
    executeWords perform c (execute perform c refusalCode "/bin/sh".toList []) rest

/-! ### Locks -/

/-- A command that cannot be run while a file is locked. -/
def lockRefusal : Nat := 69

def lockUsage : Nat := 64

/-- Runs a command while a file is locked. -/
def flock : Act Nat := do
  let g : Letter.Grammar := {
    plain := "sexnoFuv", valued := "wEc"
    long := [("shared", 's'), ("exclusive", 'x'), ("unlock", 'u'), ("nonblock", 'n'), ("nb", 'n'),
      ("timeout", 'w'), ("wait", 'w'), ("conflict-exit-code", 'E'), ("close", 'o'),
      ("no-fork", 'F'), ("verbose", 'v')]
    strict := true }
  match Letter.split g c.args with
  | .error f => fault c f lockUsage
  | .ok (_, []) => usage c "not enough arguments" lockUsage
  | .ok (_, [file]) =>
    match Numeral.natural? file with
    | some _ => return 0
    | none => complain c ("bad file descriptor: ".toList ++ Quotation.text file) lockUsage
  | .ok (os, file :: name :: args) =>
    let words? : Option (Raw × List Raw) :=
      if name = "-c".toList || name = "--command".toList then
        match args with
        | [text] => some ("/bin/sh".toList, ["-c".toList, text])
        | _ => none
      else some (name, args)
    match words? with
    | none => usage c "-c requires exactly one command argument" lockUsage
    | some (name, args) =>
      match (← Act.look).state? true file with
      | .error e =>
        if e ≠ .ENOENT then
          complain c ("cannot open lock file ".toList ++ file ++ ": ".toList ++ e.text.toList) 66
        else run (Letter.has 'F' os) name args
      | .ok _ => run (Letter.has 'F' os) name args
where
  run (stays : Bool) (name : Raw) (args : List Raw) : Act Nat := do
    let body := execute perform c (fun _ => lockRefusal) name args
    if stays then body
    else
      let child ← Act.fork body
      match ← awaitChild child Act.patience with
      | some (.exit code) => return code
      | some e => return e.status
      | none => return 1

end ServiceStack.Launch
