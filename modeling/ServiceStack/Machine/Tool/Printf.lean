import ServiceStack.Machine.Tool.Escape
import ServiceStack.Machine.Tool.Letter
import ServiceStack.Machine.Tool.Quotation

/-!
Formatted output. A format is a row of texts and directives; it is used again as long as arguments
are left and the last pass took some. A place without an argument is filled as if with nothing.

A number that cannot be read is told, is written as far as it can, and makes the code 1.
-/

namespace ServiceStack.Printf

/-- A width or a number of places: given, or taken from the arguments. -/
inductive Amount where
  | given (n : Nat)
  | taken
deriving DecidableEq, Repr

structure Directive where
  flags : Raw
  width : Amount
  places : Option Amount
  conversion : Char
deriving Repr

inductive Piece where
  | text (s : Raw)
  | directive (d : Directive)
  | stop
  /-- something that cannot be used, and what is told of it -/
  | fault (text : Raw)
deriving Repr

/-- What may be wrong with a number. -/
inductive Doubt where
  | none
  | empty
  | behind
  | range
  /-- only the first of several characters counts -/
  | ignored
deriving DecidableEq, Repr

/-- How a program reads formats. -/
structure Dialect where
  format : EscapeStyle
  word : EscapeStyle
  /-- whether a conversion can be used with flags and places -/
  admits : Directive → Bool
  /-- letters between a directive and its conversion that are passed over -/
  sizes : Raw
  /-- a quote alone is no number -/
  needsQuoted : Bool
  /-- binary digits of a number with a point -/
  precision : Nat
  /-- the code after a format that cannot be used -/
  refusal : Nat
  /-- what is told of a directive that there is not, or of an escape without digits -/
  unknown : Raw → Raw
  /-- what is told of a directive that the format ends in -/
  unended : Raw → Raw := unknown
  /-- what is told of a number -/
  doubt : Doubt → Raw → Raw
  /-- what is told of arguments that the format does not take -/
  excess : Option (Raw → Raw)
  /-- a word as it can be read back -/
  quote : Raw → Raw := Quotation.word
  /-- a number that is too great is only warned about -/
  forgives : Bool := false

/-! ### Reading a format -/

def amount (cs : Raw) : Amount × Raw :=
  match cs with
  | '*' :: rest => (.taken, rest)
  | _ =>
    let row := Numeral.digits 10 cs
    (.given (Numeral.ofDigits 10 row.1), row.2)

/-- The directive behind a percent sign, and what follows it. -/
def directive? (l : Dialect) (cs : Raw) : Option (Directive × Raw) :=
  let isFlag := fun c => "-+ #0".contains c
  let flags := cs.takeWhile isFlag
  let width := amount (cs.dropWhile isFlag)
  let places := match width.2 with
    | '.' :: rest => (some (amount rest).1, (amount rest).2)
    | rest => (none, rest)
  match places.2.dropWhile (l.sizes.contains ·) with
  | [] => none
  | c :: rest =>
    let d : Directive := ⟨flags, width.1, places.1, c⟩
    if l.admits d then some (d, rest) else none

/-- What is told of a directive that there is not, which ends with its conversion. -/
def complaint (l : Dialect) (cs : Raw) : Raw :=
  let middle := cs.tail.takeWhile fun c => "-+ #0123456789.*".contains c || l.sizes.contains c
  if cs.length < middle.length + 2 then l.unended cs else l.unknown (cs.take (middle.length + 2))

/-- The pieces of a format, after so many characters. -/
def pieces (l : Dialect) : Nat → Raw → List Piece
  | _, [] => []
  | n + 1, _ :: cs => pieces l n cs
  | 0, '%' :: cs =>
    if cs.head? = some '%' then .text ['%'] :: pieces l 1 cs
    else match directive? l cs with
      | none => [.fault (complaint l ('%' :: cs))]
      | some (d, rest) => .directive d :: pieces l (cs.length - rest.length) cs
  | 0, '\\' :: cs =>
    match l.format.read cs with
    | (.text s, n) => .text s :: pieces l n cs
    | (.stop, _) => [.stop]
    | (.fault, _) => [.fault (l.unknown [])]
  | 0, c :: cs => .text [c] :: pieces l 0 cs

/-! ### Numbers -/

/-- A number from an argument, and what is wrong with it. -/
structure Reading (α : Type) where
  value : α
  doubt : Doubt

/-- The number of the character behind a quote. -/
def quoted? (l : Dialect) (a : Raw) : Option (Reading Nat) :=
  match a with
  | c :: cs =>
    if c = '\'' || c = '"' then
      match cs with
      | [d] => some ⟨d.toNat, .none⟩
      | d :: _ => some ⟨d.toNat, if l.needsQuoted then .ignored else .none⟩
      | [] => some ⟨0, if l.needsQuoted then .empty else .none⟩
    else none
  | [] => some ⟨0, .none⟩

def clamp (lo hi n : Int) : Reading Int :=
  if n < lo then ⟨lo, .range⟩ else if hi < n then ⟨hi, .range⟩ else ⟨n, .none⟩

def integer (l : Dialect) (signed : Bool) (a : Raw) : Reading Int :=
  match quoted? l a with
  | some r => ⟨r.value, r.doubt⟩
  | none =>
    match Numeral.integer? a with
    | none => ⟨0, .empty⟩
    | some (n, rest) =>
      let r := if signed then clamp (-Numeral.halfWord) (Numeral.halfWord - 1) n
        else if n ≤ -Numeral.wordSize then ⟨Numeral.wordSize - 1, .range⟩
        else if n < 0 then ⟨n + Numeral.wordSize, .none⟩
        else clamp 0 (Numeral.wordSize - 1) n
      ⟨r.value, if r.doubt = .none && rest ≠ [] then .behind else r.doubt⟩

def fraction (l : Dialect) (a : Raw) : Reading (Bool × Numeral.Magnitude) :=
  match quoted? l a with
  | some r => ⟨(false, .finite r.value 1), r.doubt⟩
  | none =>
    match Numeral.fraction? a with
    | none => ⟨(false, .finite 0 1), .empty⟩
    | some (negative, m, rest) => ⟨(negative, m), if rest = [] then .none else .behind⟩

/-! ### Writing one directive -/

/-- A text in a field of some width. -/
def pad (flags : Raw) (width : Nat) (s : Raw) : Raw :=
  let blanks := List.replicate (width - s.length) ' '
  if flags.contains '-' then s ++ blanks else blanks ++ s

/-- A number in a field: what stands before its digits, and the digits. -/
def padNumber (flags : Raw) (width : Nat) (zeros : Bool) (front digits : Raw) : Raw :=
  if zeros && flags.contains '0' && !flags.contains '-' then
    front ++ Numeral.padZeros (width - front.length) digits
  else pad flags width (front ++ digits)

def signText (flags : Raw) (negative : Bool) : Raw :=
  if negative then ['-']
  else if flags.contains '+' then ['+']
  else if flags.contains ' ' then [' ']
  else []

/-- The digits of a whole number, at least as many as there are places. -/
def digitsOf (base : Nat) (places : Option Nat) (n : Nat) : Raw :=
  if places = some 0 ∧ n = 0 then [] else Numeral.padZeros (places.getD 1) (Numeral.natText base n)

def integerText (flags : Raw) (width : Nat) (places : Option Nat) (conversion : Char) (n : Int) :
    Raw :=
  let marked := flags.contains '#'
  let parts : Raw × Raw := match conversion with
    | 'o' =>
      let ds := digitsOf 8 places n.toNat
      ([], if marked && ds.head? ≠ some '0' then '0' :: ds else ds)
    | 'x' => (if marked && n ≠ 0 then ['0', 'x'] else [], digitsOf 16 places n.toNat)
    | 'X' => (if marked && n ≠ 0 then ['0', 'X'] else [],
        (digitsOf 16 places n.toNat).map Char.toUpper)
    | 'u' => ([], digitsOf 10 places n.toNat)
    | _ => (signText flags (n < 0), digitsOf 10 places n.natAbs)
  padNumber flags width places.isNone parts.1 parts.2

def fractionText (l : Dialect) (flags : Raw) (width : Nat) (places : Option Nat)
    (conversion : Char) (v : Bool × Numeral.Magnitude) : Raw :=
  let front := signText flags v.1
  let marked := flags.contains '#'
  let count := places.getD 6
  let upper := fun (s : Raw) => if conversion.isUpper then s.map Char.toUpper else s
  match v.2 with
  | .infinite => pad flags width (front ++ upper "inf".toList)
  | .undefined => pad flags width (front ++ upper "nan".toList)
  | .finite num den =>
    let r := Numeral.toBinary l.precision num den
    let digits := match conversion.toLower with
      | 'a' => Numeral.hexadecimal l.precision (if l.precision = 64 then 4 else 1) marked places
          r.1 r.2
      | 'e' => Numeral.exponential marked 'e' count r.1 r.2
      | 'g' => Numeral.general marked 'e' count r.1 r.2
      | _ => Numeral.fixed marked count r.1 r.2
    if conversion.toLower = 'a' then
      padNumber flags width true (front ++ upper (digits.take 2)) (upper (digits.drop 2))
    else padNumber flags width true front (upper digits)

/-! ### Passes over a format -/

/-- Where a report stands: what was written, what arguments are left, whether all were good. -/
structure State where
  writes : List (Nat × Raw) := []
  args : List Raw
  good : Bool := true
  /-- the code with which it breaks off -/
  ended : Option Nat := none

def State.next (s : State) : Raw × State := (s.args.headD [], { s with args := s.args.tail })

def State.put (s : State) (text : Raw) : State :=
  if text = [] then s else { s with writes := (1, text) :: s.writes }

/-- Tells what is wrong with an argument. -/
def State.note (s : State) (l : Dialect) (d : Doubt) (a : Raw) : State :=
  if d = .none then s
  else if d = .ignored then { s with writes := (2, l.doubt d (a.drop 2) ++ ['\n']) :: s.writes }
  else
    let good := s.good && d = .range && l.forgives
    { s with writes := (2, l.doubt d a ++ ['\n']) :: s.writes, good }

/-- The value of a width or of places. A negative one, only taken, means the left side for a width
and nothing for places. -/
def take (l : Dialect) (a : Amount) (s : State) : Int × State :=
  match a with
  | .given n => (n, s)
  | .taken =>
    let r := integer l true s.next.1
    (r.value, s.next.2.note l r.doubt s.next.1)

def write (l : Dialect) (d : Directive) (s : State) : State :=
  let width := take l d.width s
  let places : Option Int × State := match d.places with
    | none => (none, width.2)
    | some a => ((fun r : Int × State => (some r.1, r.2)) (take l a width.2))
  let flags := if width.1 < 0 then '-' :: d.flags else d.flags
  let size := width.1.natAbs
  let count : Option Nat := places.1.bind fun n => if n < 0 then none else some n.toNat
  let arg := places.2.next
  match d.conversion with
  | 's' => arg.2.put (pad flags size (match count with
      | some n => arg.1.take n
      | none => arg.1))
  | 'c' => arg.2.put (pad flags size [arg.1.headD '\x00'])
  | 'q' | 'Q' => arg.2.put (pad flags size (l.quote arg.1))
  | 'b' =>
    let text := l.word.decode 0 arg.1
    let s := arg.2.put (pad flags size (match count with
      | some n => text.1.take n
      | none => text.1))
    match text.2 with
    | none => s
    | some .fault => { s with ended := some l.refusal }
    | some _ => { s with ended := some (if s.good then 0 else 1) }
  | c =>
    if "diouxX".contains c then
      let r := integer l (c = 'd' || c = 'i') arg.1
      (arg.2.note l r.doubt arg.1).put (integerText flags size count c r.value)
    else
      let r := fraction l arg.1
      (arg.2.note l r.doubt arg.1).put (fractionText l flags size count c r.value)

def pass (l : Dialect) : List Piece → State → State
  | [], s => s
  | .text t :: ps, s => pass l ps (s.put t)
  | .stop :: _, s => { s with ended := some (if s.good then 0 else 1) }
  | .fault text :: _, s =>
    { s with ended := some l.refusal, writes := (2, text ++ ['\n']) :: s.writes }
  | .directive d :: ps, s =>
    let s := write l d s
    if s.ended.isSome then s else pass l ps s

/-- The passes after the first. Each takes at least one argument. -/
def passes (l : Dialect) (ps : List Piece) : Nat → State → State
  | 0, s => s
  | n + 1, s =>
    if s.args = [] || s.ended.isSome then s else passes l ps n (pass l ps s)

/-- Texts for one stream that follow each other become one. -/
def joined : List (Nat × Raw) → List (Nat × Raw)
  | (n, a) :: (m, b) :: rest =>
    if n = m then joined ((n, a ++ b) :: rest) else (n, a) :: joined ((m, b) :: rest)
  | ws => ws
termination_by ws => ws.length

/-- What is written for a format and arguments. -/
def run (l : Dialect) (format : Raw) (args : List Raw) : Notice :=
  let ps := pieces l 0 format
  let first := pass l ps { args := args }
  let s := if first.args.length < args.length then passes l ps args.length first
    else match l.excess.filter fun _ => first.ended.isNone, first.args with
      | some told, a :: _ => { first with writes := (2, told a ++ ['\n']) :: first.writes }
      | _, _ => first
  ⟨joined s.writes.reverse, s.ended.getD (if s.good then 0 else 1)⟩

/-- The format and the arguments, if there is a format. -/
def operands? (args : List Raw) : Option (Raw × List Raw) :=
  match if args.head? = some ['-', '-'] then args.tail else args with
  | [] => none
  | format :: args => some (format, args)

/-! ### Dialects -/

def isNumeric (c : Char) : Bool := "diouxXfFeEgGaA".contains c

/-- The shell's own. -/
def shell : Dialect where
  format := .shellFormat
  word := .shellWord
  admits d := isNumeric d.conversion || "scb".contains d.conversion
  sizes := []
  needsQuoted := false
  precision := 53
  refusal := 2
  unknown d := d ++ ": invalid directive".toList
  unended _ := "missing format character".toList
  doubt d a := a ++ (match d with
    | .range => ": Numerical result out of range"
    | .behind => ": not completely converted"
    | _ => ": expected numeric value").toList
  excess := none

/-- The program. Each conversion takes only the flags that mean something with it. -/
def program (self : String) : Dialect where
  format := .printfFormat
  word := .printfWord
  admits d :=
    if d.conversion = 'b' || d.conversion = 'q' then
      d.flags = [] && d.width = .given 0 && d.places = none
    else
      (isNumeric d.conversion || d.conversion = 's' || d.conversion = 'c') &&
      !(d.flags.contains '#' && "cdisu".contains d.conversion) &&
      !(d.flags.contains '0' && "cs".contains d.conversion) &&
      !(d.places.isSome && d.conversion = 'c')
  sizes := "hjlLtz".toList
  needsQuoted := true
  precision := 64
  refusal := 1
  unknown d := self.toList ++ ": ".toList ++ (if d = [] then
    "missing hexadecimal number in escape".toList
    else d ++ ": invalid conversion specification".toList)
  doubt d a :=
    if d = .ignored then self.toList ++ ": warning: ".toList ++ a ++
      ": character(s) following character constant have been ignored".toList
    else self.toList ++ ": '".toList ++ a ++ (match d with
      | .range => "': Numerical result out of range"
      | .behind => "': value not completely converted"
      | _ => "': expected a numeric value").toList
  excess := some fun a =>
    self.toList ++ ": warning: ignoring excess arguments, starting with '".toList ++ a ++ ['\'']

def runProgram (self : String) (args : List Raw) : Notice :=
  match operands? args with
  | none => Letter.usage self "missing operand".toList 1
  | some (format, args) => run (program self) format args

end ServiceStack.Printf
