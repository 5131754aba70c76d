import ServiceStack.Machine.Tool.Printf
import ServiceStack.Machine.Tool.Record.Syntax
import ServiceStack.Text.Double

/-!
Values of programs for records. A text from outside that looks like a number counts as a number
when it is compared.
-/

namespace ServiceStack.Record

inductive Value where
  /-- what nothing was given to is zero and empty -/
  | unset
  | number (x : Float)
  | text (t : Raw)
  /-- a text from outside -/
  | input (t : Raw)
deriving Inhabited

/-- Whether a text is a number up to blanks. It begins like one and ends with a digit or a point. -/
def looksNumeric (t : Raw) : Bool :=
  let t := ((t.dropWhile Raw.isBlank).reverse.dropWhile Raw.isBlank).reverse
  t.head?.any (fun c => c.isDigit || "+-.".contains c) &&
    t.getLast?.any (fun c => c.isDigit || c = '.') &&
    (Numeral.fraction? t).any fun r => r.2.2 = []

namespace Value

def ofBool (b : Bool) : Value := .number (if b then 1 else 0)

def ofNat (n : Nat) : Value := .number (Float.ofNat n)

def toNumber : Value → Float
  | .unset => 0
  | .number x => x
  | .text t | .input t => Double.ofText t

/-- Whether a value counts as a number. -/
def isNumeric : Value → Bool
  | .unset | .number _ => true
  | .text _ => false
  | .input t => looksNumeric t

def isTrue (v : Value) : Bool :=
  match v with
  | .unset => false
  | .number x => x != 0
  | .text t => t ≠ []
  | .input t => if looksNumeric t then Double.ofText t != 0 else t ≠ []

end Value

/-! ### Formats -/

/-- Why a format cannot be used. -/
inductive Misfit where
  | missing
  | improper (n : Nat)
deriving DecidableEq, Repr

/-- What a format that stands for a number may hold. -/
def signedText (flags : Raw) (width : Nat) (places : Option Nat) (x : Float) : Raw :=
  let n := Double.clamped (-Numeral.halfWord) (Numeral.wordSize - 1) x
  if n < Numeral.halfWord then Printf.integerText flags width places 'd' n
  else Printf.integerText flags width places 'u' n

def unsignedText (flags : Raw) (width : Nat) (places : Option Nat) (c : Char) (x : Float) : Raw :=
  let n := Double.clamped (-Numeral.halfWord) (Numeral.wordSize - 1) x
  Printf.integerText flags width places c (if n < 0 then n + Numeral.wordSize else n)

/-- The text of a number in a format of one directive. What is no number has a sign. -/
def floatText (flags : Raw) (width : Nat) (places : Option Nat) (c : Char) (x : Float) : Raw :=
  let v := Double.parts x
  Printf.fractionText Printf.shell flags width places c (v.1 || v.2 = .undefined, v.2)

/-- What one directive behind its sign makes of the arguments, what follows it, and the arguments
that are left. Texts are made of numbers by `spell`. -/
def directive (spell : Value → Raw) (k : Nat) (rest : Raw) (args : List Value) :
    Except Misfit (Raw × Raw × List Value) := do
  let isFlag := fun c => "-+ #0".contains c
  let flags := rest.takeWhile isFlag
  let (width, rest, args) ← size (rest.dropWhile isFlag) args
  let (places, rest, args) ← match rest with
    | '.' :: rest => do
      let (p, rest, args) ← size rest args
      pure (some p, rest, args)
    | _ => pure (none, rest, args)
  let rest := rest.dropWhile fun c => c = 'h' || c = 'l'
  let flags := if width < 0 then '-' :: flags else flags
  let width := width.natAbs
  let places : Option Nat := places.bind fun p => if p < 0 then none else some p.toNat
  match args, rest with
  | [], _ => throw .missing
  | _, [] => throw (.improper k)
  | a :: args, c :: rest =>
    let text ← match c with
      | 'd' | 'i' => pure (signedText flags width places a.toNumber)
      | 'o' | 'x' | 'X' | 'u' => pure (unsignedText flags width places c a.toNumber)
      | 'e' | 'E' | 'f' | 'F' | 'g' | 'G' | 'a' | 'A' =>
        pure (floatText flags width places c a.toNumber)
      | 's' =>
        let t := spell a
        pure (Printf.pad flags width ((places.map t.take).getD t))
      | 'c' => pure (Printf.pad flags width [letter a])
      | _ => throw (.improper k)
    return (text, rest, args)
where
  /-- A width, which may be taken from the arguments. -/
  size (cs : Raw) (args : List Value) : Except Misfit (Int × Raw × List Value) :=
    match cs, args with
    | '*' :: _, [] => .error .missing
    | '*' :: rest, a :: args => .ok (Double.clamped (-65536) 65536 a.toNumber, rest, args)
    | _, _ =>
      let row := Numeral.digits 10 cs
      .ok (Numeral.ofDigits 10 row.1, row.2, args)
  /-- The byte of a number, or the first one of a text. -/
  letter (a : Value) : Char :=
    match a, a.isNumeric with
    | .text t, _ | .input t, false => t.headD '\x00'
    | _, _ =>
      Raw.byte (Double.clamped (-Numeral.halfWord) (Numeral.halfWord - 1) a.toNumber % 256).toNat

/-- Writes one argument after another as a format says, as far as that can be done. -/
def formatFrom (spell : Value → Raw) : Nat → Nat → Raw → List Value → List Raw × Option Misfit
  | 0, _, _, _ => ([], none)
  | n + 1, k, cs, args =>
    let more := fun (text : Raw) (r : List Raw × Option Misfit) => (text :: r.1, r.2)
    match cs with
    | [] => ([], none)
    | '%' :: '%' :: rest => more ['%'] (formatFrom spell n k rest args)
    | '%' :: rest =>
      match directive spell k rest args with
      | .ok (text, rest, args) => more text (formatFrom spell n (k + 1) rest args)
      | .error m => ([], some m)
    | _ =>
      let plain := cs.takeWhile (· ≠ '%')
      more plain (formatFrom spell n k (cs.drop plain.length) args)

/-- What a format makes of arguments, and why it goes no further. -/
def format (spell : Value → Raw) (f : Raw) (args : List Value) : Raw × Option Misfit :=
  let f := f.takeWhile (· ≠ '\x00')
  let r := formatFrom spell (f.length + 1) 1 f args
  (r.1.flatten, r.2)

/-- The text of a number: of a whole number its digits, of others what a format says. -/
def numberText (f : Raw) (x : Float) : Raw :=
  let whole : Option Raw := (Double.whole? x).bind fun n =>
    if n < -Numeral.halfWord || (Numeral.wordSize : Int) < n then none
    else some (Numeral.intText (min n (Numeral.wordSize - 1)))
  match whole with
  | some t => t
  | none =>
    (format (fun _ => []) f [.number x]).1

def Value.toText (f : Raw) : Value → Raw
  | .unset => []
  | .number x => numberText f x
  | .text t | .input t => t

/-! ### Comparisons -/

def Comparison.holds (c : Comparison) (o : Ordering) : Bool :=
  match c with
  | .less => o = .lt
  | .atMost => o ≠ .gt
  | .equal => o = .eq
  | .unequal => o ≠ .eq
  | .greater => o = .gt
  | .atLeast => o ≠ .lt

/-- Two values as numbers if both count as numbers, or else as texts. -/
def Value.order (f : Raw) (a b : Value) : Ordering :=
  if a.isNumeric && b.isNumeric then
    let x := a.toNumber
    let y := b.toNumber
    if x < y then .lt else if y < x then .gt else .eq
  else
    let s := a.toText f
    let t := b.toText f
    if s < t then .lt else if t < s then .gt else .eq

def Arithmetic.value : Arithmetic → Float → Float → Float
  | .add, x, y => x + y
  | .subtract, x, y => x - y
  | .multiply, x, y => x * y
  | .divide, x, y => x / y
  | .remainder, x, y => Double.remainder x y
  | .power, x, y => x.pow y

end ServiceStack.Record
