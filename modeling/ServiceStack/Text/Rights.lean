import ServiceStack.Text.Numeral

/-!
The rights of files: three for each of three classes, and three special ones. They are told in nine
letters, and changed by a number or by clauses of classes, an operator and letters.
-/

namespace ServiceStack.Rights

/-- Three letters for the rights of one class, with the mark of a special one. -/
def classText (rights : Nat) (special : Bool) (mark : Char) : Raw :=
  let may := fun (bit : Nat) (c : Char) => if rights &&& bit ≠ 0 then c else '-'
  [may 4 'r', may 2 'w',
    if special then (if rights &&& 1 ≠ 0 then mark else mark.toUpper) else may 1 'x']

def text (r : Nat) : Raw :=
  classText (r / 64) (r &&& 0o4000 ≠ 0) 's' ++ classText (r / 8) (r &&& 0o2000 ≠ 0) 's' ++
    classText r (r &&& 0o1000 ≠ 0) 't'

def most : Nat := 0o7777

/-- The rights of the classes that a letter names. -/
def classOf? : Char → Option Nat
  | 'u' => some 0o4700
  | 'g' => some 0o2070
  | 'o' => some 0o1007
  | 'a' => some most
  | _ => none

/-- The rights that letters name, for all classes. The one in capitals is given only where somebody
has it, or to a directory. -/
def lettersOf (isDirectory : Bool) (old : Nat) : Raw → Nat
  | [] => 0
  | c :: cs =>
    let one := match c with
      | 'r' => 0o444
      | 'w' => 0o222
      | 'x' => 0o111
      | 'X' => if isDirectory || old &&& 0o111 ≠ 0 then 0o111 else 0
      | 's' => 0o6000
      | 't' => 0o1000
      | _ => 0
    one ||| lettersOf isDirectory old cs

/-- The rights of one class, for all classes. -/
def copied (old : Nat) (c : Char) : Nat :=
  let three := if c = 'u' then old / 64 % 8 else if c = 'g' then old / 8 % 8 else old % 8
  three * 0o111

/-- The steps behind the classes of a clause: an operator and letters, again and again. -/
def steps? (isDirectory : Bool) (classes : Nat) : Nat → Nat → Raw → Option Nat
  | 0, _, _ => none
  | _, old, [] => some old
  | n + 1, old, op :: cs =>
    if op ≠ '+' && op ≠ '-' && op ≠ '=' then none
    else
      let (given, size) := match cs with
        | 'u' :: _ | 'g' :: _ | 'o' :: _ => (copied old (cs.headD 'u'), 1)
        | _ =>
          let letters := cs.takeWhile fun c => "rwxXst".contains c
          (lettersOf isDirectory old letters, letters.length)
      let bits := given &&& classes
      let new := match op with
        | '+' => old ||| bits
        | '-' => old &&& (most ^^^ bits)
        | _ => (old &&& (most ^^^ classes)) ||| bits
      steps? isDirectory classes n new (cs.drop size)

/-- One clause. Without classes it is for all, but leaves what the mask takes from new files. -/
def clause? (mask : Nat) (isDirectory : Bool) (old : Nat) (text : Raw) : Option Nat :=
  let names := text.takeWhile fun c => (classOf? c).isSome
  let steps := text.drop names.length
  let classes := if names = [] then most ^^^ mask
    else names.foldl (fun n c => n ||| (classOf? c).getD 0) 0
  if steps = [] then none else steps? isDirectory classes (steps.length + 1) old steps

/-- New rights in place of old ones. -/
def changed? (mask : Nat) (isDirectory : Bool) (old : Nat) (text : Raw) : Option Nat :=
  if text ≠ [] && text.all Char.isDigit then
    if text.all (Numeral.isDigit 8) && Numeral.ofDigits 8 text ≤ most then
      some (Numeral.ofDigits 8 text)
    else none
  else (text.splitOn ',').foldl
    (fun (r : Option Nat) t => r.bind fun old => clause? mask isDirectory old t) (some old)

end ServiceStack.Rights
