import ServiceStack.Machine.Tool.PathName

/-!
Programs that tell who runs them and where.
-/

namespace ServiceStack.About

/-- Who runs all programs. -/
def identity (self : String) (args : List Raw) : Notice :=
  let g : Letter.Grammar := {
    plain := "aGgnruzZ", long := [("group", 'g'), ("groups", 'G'), ("name", 'n'), ("real", 'r'),
      ("user", 'u'), ("zero", 'z'), ("context", 'Z')] }
  match Letter.split g args with
  | .error f => f.report self 1
  | .ok (os, names) =>
    let has := fun c => Letter.has c os
    let bad := names.filter fun a => a ≠ "root".toList && a ≠ ['0']
    let kinds := (if has 'u' then 1 else 0) + (if has 'g' then 1 else 0) + if has 'G' then 1 else 0
    let refuse := fun (t : String) => Notice.complain (self.toList ++ ": ".toList ++ t.toList) 1
    if 1 < kinds then refuse "cannot print \"only\" of more than one choice"
    else if kinds = 0 && (has 'n' || has 'r') then
      refuse "printing only names or real IDs requires -u, -g, or -G"
    else if kinds = 0 && has 'z' then refuse "option --zero not permitted in default format"
    else
      let text : Raw := if kinds = 0 then "uid=0(root) gid=0(root) groups=0(root)".toList
        else if has 'n' then "root".toList else ['0']
      let stop := if has 'z' then '\x00' else '\n'
      let names := if names = [] then ["root".toList] else names
      { writes := names.map fun a =>
          if bad.contains a then
            (2, self.toList ++ ": ".toList ++ Quotation.text a ++ ": no such user\n".toList)
          else (1, text ++ [stop])
        code := if bad = [] then 0 else 1 }

/-- Writes a line and takes no operands. -/
def single (text : String) (self : String) (args : List Raw) : Notice :=
  match Letter.split {} args with
  | .error f => f.report self 1
  | .ok (_, []) => .say (text.toList ++ ['\n']) 0
  | .ok (_, a :: _) => PathName.extraOperand self a 1

def whoami : String → List Raw → Notice := single "root"

/-- Nobody has logged in. -/
def logname (self : String) (args : List Raw) : Notice :=
  match Letter.split {} args with
  | .error f => f.report self 1
  | .ok (_, []) => .complain (self.toList ++ ": no login name".toList) 1
  | .ok (_, a :: _) => PathName.extraOperand self a 1

/-- Whoever is logged in: nobody. -/
def users (self : String) (args : List Raw) : Notice :=
  match Letter.split { plain := "abdHilmpqrstTuw" } args with
  | .error f => f.report self 1
  | .ok (os, _) => if Letter.has 'q' os then .say "\n# users=0\n".toList 0 else .silent 0

def groups (self : String) (args : List Raw) : Notice :=
  match Letter.split {} args with
  | .error f => f.report self 1
  | .ok (_, []) => .say "root\n".toList 0
  | .ok (_, names) =>
    { writes := names.map fun a =>
        if a = "root".toList then (1, "root : root\n".toList)
        else (2, self.toList ++ ": ".toList ++ Quotation.text a ++ ": no such user\n".toList)
      code := if names.all (· = "root".toList) then 0 else 1 }

/-- What is known of the system for each letter. -/
def systemParts : List (Char × String) :=
  [('s', "Linux"), ('m', "x86_64"), ('p', "unknown"), ('i', "unknown"), ('o', "GNU/Linux")]

def system (self : String) (args : List Raw) : Notice :=
  let g : Letter.Grammar := {
    plain := "asnrvmpio", long := [("all", 'a'), ("kernel-name", 's'), ("nodename", 'n'),
      ("kernel-release", 'r'), ("kernel-version", 'v'), ("machine", 'm'), ("processor", 'p'),
      ("hardware-platform", 'i'), ("operating-system", 'o')] }
  match Letter.split g args with
  | .error f => f.report self 1
  | .ok (_, a :: _) => PathName.extraOperand self a 1
  | .ok (os, []) =>
    let wanted := if os = [] then ['s'] else os.map Prod.fst
    if wanted.all fun c => (systemParts.lookup c).isSome then
      .say ([' '].intercalate ((systemParts.filter fun p => wanted.contains p.1).map
        fun p => p.2.toList) ++ ['\n']) 0
    else .silent 0

/-- There is no terminal. -/
def tty (self : String) (args : List Raw) : Notice :=
  match Letter.split { plain := "s", long := [("silent", 's'), ("quiet", 's')] } args with
  | .error f => f.report self 2
  | .ok (os, []) => if os = [] then .say "not a tty\n".toList 1 else .silent 1
  | .ok (_, a :: _) => PathName.extraOperand self a 2

end ServiceStack.About
