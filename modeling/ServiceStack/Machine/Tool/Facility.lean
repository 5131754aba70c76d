import ServiceStack.Machine.Scenery
import ServiceStack.Machine.Tool.PathName

/-!
Programs that tell what a machine offers: where programs are found, how large things may be, and
which names of files are sound.
-/

namespace ServiceStack.Facility

/-! ### Programs -/

/-- Where the program of a name is found, in all directories or in the first. -/
def placesOf (s : Scene) (dirs : List Raw) (all : Bool) (name : Raw) : List Raw :=
  let paths := if name.contains '/' then [name]
    else dirs.map fun d => if d = [] then '.' :: '/' :: name else d ++ '/' :: name
  let found := paths.filter fun p =>
    match s.state? true p with
    | .ok f => f.kind = .regular && f.runs
    | .error _ => false
  if all then found else found.take 1

def which (s : Scene) (c : Call) : Notice :=
  match Letter.split { plain := "as", strict := true } c.args with
  | .error f =>
    let letter := match f with
      | .unknown l => [l]
      | _ => ['-']
    .complain ("Illegal option -".toList ++ letter ++ "\nUsage: ".toList ++
      "/usr/bin/which".toList ++ " [-as] args".toList) 2
  | .ok (os, names) =>
    let dirs := ((c.environment.lookup "PATH".toList).getD []).splitOn ':'
    let found := names.map (placesOf s dirs (Letter.has 'a' os))
    let text := found.flatten.flatMap (· ++ ['\n'])
    .say (if Letter.has 's' os then [] else text)
      (if names = [] || found.any (· = []) then 1 else 0)

/-! ### Sizes -/

/-- What is known of a machine, by names. -/
def settings : List (String × String) := [
  ("ARG_MAX", "2097152"), ("PAGE_SIZE", "4096"), ("PAGESIZE", "4096"), ("LONG_BIT", "64"),
  ("WORD_BIT", "32"), ("CHAR_BIT", "8"), ("CHAR_MAX", "127"), ("CHAR_MIN", "-128"),
  ("INT_MAX", "2147483647"), ("INT_MIN", "-2147483648"), ("UINT_MAX", "4294967295"),
  ("ULONG_MAX", "18446744073709551615"), ("SCHAR_MAX", "127"), ("SCHAR_MIN", "-128"),
  ("SHRT_MAX", "32767"), ("SHRT_MIN", "-32768"), ("UCHAR_MAX", "255"), ("USHRT_MAX", "65535"),
  ("SSIZE_MAX", "32767"), ("CLK_TCK", "100"), ("PATH", "/bin:/usr/bin"),
  ("_CS_PATH", "/bin:/usr/bin"), ("GNU_LIBC_VERSION", "glibc 2.39"), ("IOV_MAX", "1024"),
  ("NGROUPS_MAX", "65536"), ("HOST_NAME_MAX", "64"), ("LOGIN_NAME_MAX", "256"),
  ("LINE_MAX", "2048"), ("RE_DUP_MAX", "32767"), ("TZNAME_MAX", ""),
  ("_POSIX_VERSION", "200809"), ("_POSIX2_VERSION", "200809"), ("_XOPEN_VERSION", "700"),
  ("_NPROCESSORS_ONLN", "4"), ("_NPROCESSORS_CONF", "4"), ("BC_BASE_MAX", "99"),
  ("BC_DIM_MAX", "2048"), ("BC_SCALE_MAX", "99"), ("BC_STRING_MAX", "1000"),
  ("EXPR_NEST_MAX", "32"), ("COLL_WEIGHTS_MAX", "255"), ("MB_LEN_MAX", "16")]

/-- What is known of the files at a path, by names. -/
def pathSettings : List (String × String) := [
  ("NAME_MAX", "255"), ("PATH_MAX", "4096"), ("PIPE_BUF", "4096"), ("LINK_MAX", "65000"),
  ("MAX_CANON", "255"), ("MAX_INPUT", "255"), ("_POSIX_CHOWN_RESTRICTED", "1"),
  ("_POSIX_NO_TRUNC", "1"), ("_POSIX_VDISABLE", "0"), ("FILESIZEBITS", "64"),
  ("SYMLINK_MAX", "")]

def getconf (self : String) (args : List Raw) : Notice :=
  let args := match args with
    | ['-', 'v'] :: _ :: rest => rest
    | args => args
  let unknown := fun (a : Raw) => Notice.complain
    (self.toList ++ ": Unrecognized variable \x60".toList ++ a ++ ['\'']) 2
  let told := fun (words : List (String × String)) (a : Raw) =>
    match words.lookup (String.ofList a) with
    | some v => Notice.say (v ++ "\n").toList 0
    | none => unknown a
  match args with
  | [a] =>
    match pathSettings.lookup (String.ofList a) with
    | some _ => .complain (self.toList ++ ": Unrecognized variable \x60".toList ++ a ++ ['\'']) 2
    | none => told settings a
  | [a, _] => told pathSettings a
  | _ => .complain ("Usage: ".toList ++ self.toList ++
      " [-v specification] variable_name [pathname]\n       ".toList ++ self.toList ++
      " -a [pathname]".toList) 2

def processors : Nat := 4

def nproc (self : String) (args : List Raw) : Notice :=
  let g : Letter.Grammar := { valued := "i", plain := "a", long := [("all", 'a'), ("ignore", 'i')] }
  match Letter.split g args with
  | .error f => f.report self 1
  | .ok (_, a :: _) => PathName.extraOperand self a 1
  | .ok (os, []) =>
    match (Letter.value? 'i' os).map fun v => (v, Numeral.natural? v) with
    | some (v, none) =>
      .complain (self.toList ++ ": invalid number: ".toList ++ Quotation.text v) 1
    | some (_, some n) => .say (Numeral.natText 10 (max 1 (processors - n)) ++ ['\n']) 0
    | none => .say (Numeral.natText 10 processors ++ ['\n']) 0

/-! ### Names of files -/

/-- The characters that every machine takes in names. -/
def isPortable (c : Char) : Bool := c.isAlphanum || "._-/".contains c

/-- The longest part of a path, and the longest path, that every machine takes. -/
def portablePart : Nat := 14

def portablePath : Nat := 255

/-- What is wrong with the name of a file, if it should do everywhere, or begin no option. -/
def nameFault? (s : Scene) (portable strict : Bool) (name : Raw) : Option Raw :=
  let parts := (name.splitOn '/').filter (· ≠ [])
  let limit := fun (n size : Nat) (what : String) (a : Raw) => some
    ("limit ".toList ++ Numeral.natText 10 n ++ " exceeded by length ".toList ++
      Numeral.natText 10 size ++ " of file name ".toList ++ what.toList ++ Quotation.text a)
  if strict && parts.any (·.head? = some '-') then
    some ("leading '-' in a component of file name ".toList ++ Quotation.text name)
  else if (portable || strict) && name = [] then some "empty file name".toList
  else if portable then
    match name.find? fun c => !isPortable c with
    | some c => some ("non-portable character ".toList ++ Quotation.text [c] ++
        " in file name ".toList ++ Quotation.text name)
    | none =>
      if portablePath < name.length then limit portablePath name.length "" name
      else match parts.find? fun p => portablePart < p.length with
        | some p => limit portablePart p.length "component " p
        | none => none
  else match s.state? false name with
    | .ok _ => none
    | .error .ENOENT =>
      if name = [] then some (Quotation.always name ++ ": No such file or directory".toList)
      else none
    | .error e => some (Quotation.name name ++ ": ".toList ++ e.text.toList)

def pathchk (self : String) (s : Scene) (args : List Raw) : Notice :=
  let g : Letter.Grammar := { plain := "pPA", long := [("portability", 'A')] }
  match Letter.split g args with
  | .error f => f.report self 1
  | .ok (_, []) => PathName.missingOperand self 1
  | .ok (os, names) =>
    let all := Letter.has 'A' os
    let faults := names.filterMap
      (nameFault? s (all || Letter.has 'p' os) (all || Letter.has 'P' os))
    { writes := faults.map fun t => (2, self.toList ++ ": ".toList ++ t ++ ['\n'])
      code := if faults = [] then 0 else 1 }

/-- The places where other file systems begin. -/
def mounts : List String := ["/", "/proc", "/dev"]

def mountpoint (self : String) (s : Scene) (args : List Raw) : Notice :=
  match Letter.split { plain := "qdx", long := [("quiet", 'q')] } args with
  | .error f => f.report self 1
  | .ok (os, [name]) =>
    let quiet := Letter.has 'q' os
    let tell := fun (words : String) (code : Nat) =>
      if quiet then Notice.silent code else .say (name ++ words.toList ++ ['\n']) code
    match PathName.real? s name with
    | .error e =>
      if quiet then .silent 1 else .complain (Notice.faultLine self.toList name e) 1
    | .ok path =>
      if mounts.contains (String.ofList path) then tell " is a mountpoint" 0
      else tell " is not a mountpoint" 32
  | .ok _ => Letter.usage self "bad usage".toList 1

end ServiceStack.Facility
