import ServiceStack.Machine.Tool.PathName
import ServiceStack.Machine.Tool.Reading
import ServiceStack.Text.Base

/-!
The programs that write bytes in letters, in lines of some width, and read them back.
-/

namespace ServiceStack.Armor

/-- A text in lines of some width, or in one that has no end. -/
def wrapped (width : Nat) (t : Raw) : Raw :=
  if width = 0 then t else (Raw.inGroups width t).flatMap (· ++ ['\n'])

def options (more : List (String × Char)) : Letter.Grammar where
  plain := "di".append (String.ofList (more.map Prod.snd))
  valued := "w"
  long := [("decode", 'd'), ("ignore-garbage", 'i'), ("wrap", 'w')] ++ more

def encodings : List (String × Char × Base) := [
  ("base64", '6', .base64), ("base64url", 'u', .base64url), ("base32", '3', .base32),
  ("base32hex", 'h', .base32hex), ("base16", 'x', .base16), ("base2msbf", 'm', .bits false),
  ("base2lsbf", 'l', .bits true), ("z85", 'z', .base85)]

/-- Reads letters back: line breaks are passed over, and other bytes too if asked. -/
def decoded (b : Base) (loose : Bool) (t : Raw) : Raw × Bool :=
  b.decode (t.filter fun c =>
    c ≠ '\n' && (!loose || b.letters.contains c || some c = b.mark))

/-- Writes a text in letters, or reads it back. -/
def run (self : String) (b : Base) (os : List (Char × Raw)) (names : List Raw) : Act Nat :=
  let told (r : Notice) : Act Nat := r.act self 1
  let front := self.toList ++ ": ".toList
  let width := match Letter.value? 'w' os with
    | none => some 76
    | some v => Numeral.natural? v
  match width, names with
  | none, _ =>
    told (.complain (front ++ "invalid wrap size: ".toList ++
      Quotation.text ((Letter.value? 'w' os).getD [])) 1)
  | _, _ :: a :: _ => told (PathName.extraOperand self a 1)
  | some width, names =>
    let size := if Letter.has 'd' os then b.size else b.bytes
    let whole := fun (t : Raw) => b.mark.isSome || t.length % size = 0
    Reading.act {
      program := self, names
      complaint := fun name e =>
        if e = .EISDIR then Notice.faultLine self.toList "read error".toList e
        else Quotation.faultLine self.toList name e
      write := fun sources =>
        let t := sources.flatMap Source.text
        if Letter.has 'd' os then
          let r := decoded b (Letter.has 'i' os) t
          (Reading.atEnd sources r.1, if r.2 then 0 else 1)
        else if b.size = 5 && !whole t then (Reading.atEnd sources [], 1)
        else (Reading.atEnd sources (wrapped width (b.encode t)), 0)
      remarks := fun sources =>
        let t := sources.flatMap Source.text
        if Letter.has 'd' os then
          if (decoded b (Letter.has 'i' os) t).2 then [] else front ++ "invalid input\n".toList
        else if b.size = 5 && !whole t then
          front ++ "invalid input (length must be multiple of 4 characters)\n".toList
        else [] }

/-- The program for one encoding. -/
def one (b : Base) (self : String) (args : List Raw) : Act Nat :=
  match Letter.split (options []) args with
  | .error f => (f.report self 1).act self 1
  | .ok (os, names) => run self b os names

/-- The program for all encodings. -/
def any (self : String) (args : List Raw) : Act Nat :=
  let marks := encodings.map fun e => (e.1, e.2.1)
  match Letter.split (options marks) args with
  | .error f => (f.report self 1).act self 1
  | .ok (os, names) =>
    match os.reverse.findSome? fun o => (encodings.find? (·.2.1 = o.1)).map (·.2.2) with
    | none => (Letter.usage self "missing encoding type".toList 1).act self 1
    | some b => run self b os names

end ServiceStack.Armor
