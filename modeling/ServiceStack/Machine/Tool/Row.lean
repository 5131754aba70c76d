import ServiceStack.Machine.Tool.Feed
import ServiceStack.Machine.Tool.PathName
import ServiceStack.Machine.Tool.Printf

/-!
Rows of numbers from a first one to a last one. The numbers are exact; they are written with as many
places as the first number and the step have.
-/

namespace ServiceStack.Row

/-- A number of a row as it was given. -/
structure Given where
  negative : Bool
  magnitude : Numeral.Magnitude
  /-- the places behind the point, if they can be told -/
  places : Option Nat
  width : Nat
deriving Repr

/-- The places and the width that a spelling of a finite number asks for. -/
def extent (a : Raw) : Option Nat × Nat :=
  let point := a.idxOf? '.'
  let places : Option Nat := if point.isNone && !a.contains 'p' then some 0 else none
  if a.any fun c => c = 'x' || c = 'X' then (places, 0)
  else
    let fraction := match point with
      | some i => ((a.drop (i + 1)).takeWhile fun c => c ≠ 'e' && c ≠ 'E').length
      | none => 0
    let places : Nat := fraction
    let width : Int := a.length + match point with
      | some i => if fraction = 0 then -1
          else if i = 0 || !((a[i - 1]?).any Char.isDigit) then 1 else 0
      | none => 0
    match a.findIdx? fun c => c = 'e' || c = 'E' with
    | none => (some places, width.toNat)
    | some e =>
      let exponent := (Numeral.decimal? (a.drop (e + 1))).getD 0
      let size := exponent.natAbs
      let width : Int := width - (a.length - e : Nat)
      if exponent < 0 then
        let width : Int := match point with
          | some i => if e = i + 1 then width + 1 else width
          | none => width + 1
        (some (places + size), (width + size).toNat)
      else
        let left := places - size
        let width : Int := if point.isSome && left = 0 && fraction ≠ 0 then width - 1 else width
        (some left, (width + (size - min fraction size : Nat)).toNat)

def given? (a : Raw) : Option Given :=
  match Numeral.fraction? a with
  | some (negative, m, []) =>
    let text := a.dropWhile Raw.isBlank
    let text := if text.head? = some '+' then text.tail else text
    let e := match m with
      | .finite _ _ => extent text
      | _ => (some 0, 0)
    some ⟨negative, m, e.1, e.2⟩
  | _ => none

/-- A number as a fraction. One without bound is none. -/
def Given.fraction? (g : Given) : Option (Int × Nat) :=
  match g.magnitude with
  | .finite num den => some (if g.negative then -num else num, den)
  | _ => none

/-- How a number is written. -/
inductive Style where
  | fixed (places width : Nat)
  | general
  /-- a text before, flags, width, places, a conversion and a text behind -/
  | format (front : Raw) (d : Printf.Directive) (behind : Raw)

def Style.text (y : Style) (negative : Bool) (num den : Nat) : Raw :=
  let dialect := Printf.program ""
  let value := (negative, Numeral.Magnitude.finite num den)
  match y with
  | .fixed 0 width =>
    if den = 1 then
      Printf.padNumber ['0'] width true (if negative then ['-'] else []) (Numeral.natText 10 num)
    else Printf.fractionText dialect ['0'] width (some 0) 'f' value
  | .fixed places width => Printf.fractionText dialect ['0'] width (some places) 'f' value
  | .general => Printf.fractionText dialect [] 0 none 'g' value
  | .format front d behind =>
    let amount := fun (a : Printf.Amount) => match a with
      | .given n => n
      | .taken => 0
    front ++ Printf.fractionText dialect d.flags (amount d.width) (d.places.map amount) d.conversion
      value ++ behind

/-- Reads a format with one directive for a number. -/
def style? (f : Raw) : Except Raw Style :=
  let told := fun (what : String) => "format ".toList ++ Quotation.text f ++ what.toList
  match cut [] f with
  | none => .error (told " has no % directive")
  | some (front, rest) =>
    let isFlag := fun c => "-+#0 '".contains c
    let flags := rest.takeWhile isFlag
    let width := Numeral.digits 10 (rest.dropWhile isFlag)
    let places := match width.2 with
      | '.' :: cs => (some (Numeral.digits 10 cs).1, (Numeral.digits 10 cs).2)
      | cs => (none, cs)
    match if places.2.head? = some 'L' then places.2.tail else places.2 with
    | [] => .error (told " ends in %")
    | c :: behind =>
      if "efgaEFGA".contains c then
        match cut [] behind with
        | some _ => .error (told " has too many % directives")
        | none =>
          .ok (.format front ⟨flags, .given (Numeral.ofDigits 10 width.1),
            places.1.map fun ds => .given (Numeral.ofDigits 10 ds), c⟩ (halved behind))
      else .error (told (String.ofList (" has unknown %".toList ++ c :: " directive".toList)))
where
  /-- the text before the first directive, and what follows its sign -/
  cut (front : Raw) : Raw → Option (Raw × Raw)
    | [] => none
    | '%' :: '%' :: cs => cut ('%' :: front) cs
    | '%' :: cs => some (front.reverse, cs)
    | c :: cs => cut (c :: front) cs
  halved : Raw → Raw
    | '%' :: '%' :: cs => '%' :: halved cs
    | c :: cs => c :: halved cs
    | [] => []

/-- A row: the first number and the step over one denominator, and the last number unless there is
no end. -/
structure Plan where
  style : Style
  separator : Raw
  first : Int
  step : Int
  last : Option Int
  den : Nat
  /-- the first number is a zero with a sign -/
  negativeZero : Bool := false

def Plan.has (p : Plan) (n : Int) : Bool :=
  match p.last with
  | none => true
  | some last => if 0 < p.step then n ≤ last else last ≤ n

/-- Writes the numbers from one on. -/
def Plan.write (p : Plan) : Nat → Bool → Int → Sink → Act Sink
  | 0, _, _, k => return k
  | fuel + 1, isFirst, n, k => do
    if k.fault.isSome then return k
    else if !p.has n then if isFirst then return k else k.put ['\n']
    else
      let text := p.style.text (n < 0 || isFirst && p.negativeZero) n.natAbs p.den
      Plan.write p fuel false (n + p.step)
        (← k.put (if isFirst then text else p.separator ++ text))

/-- The row of some numbers. -/
def plan (style : Option Style) (wide : Bool) (separator : Raw) (first step last : Given) :
    Option Plan := do
  let f ← first.fraction?
  let s ← step.fraction?
  let l := last.fraction?
  let den := f.2 * s.2 * (l.map Prod.snd).getD 1
  let common := fun (x : Int × Nat) => x.1 * (den / x.2 : Nat)
  let usual : Style := match first.places, step.places, last.places with
    | some p, some q, some r =>
      let places := max p q
      if wide then
        let width := max
          (first.width + (places - p) + if p = 0 && places ≠ 0 then 1 else 0)
          ((last.width + places - r + (if r = 0 && places ≠ 0 then 1 else 0)) -
            if r ≠ 0 && places = 0 then 1 else 0)
        .fixed places width
      else .fixed places 0
    | _, _, _ => .general
  let ends : Option Int := match l with
    | some l => some (common l)
    | none => if last.negative = decide (s.1 < 0) then none
        else some (if s.1 < 0 then common f + 1 else common f - 1)
  let style := style.getD usual
  return { style, separator, first := common f, step := common s, last := ends, den
           negativeZero := first.negative && f.1 = 0 }

/-- What the options before the numbers say. -/
structure Wishes where
  format : Option Raw := none
  separator : Raw := ['\n']
  wide : Bool := false

def grammar : Letter.Grammar where
  plain := "w"
  valued := "fs"
  long := [("equal-width", 'w'), ("format", 'f'), ("separator", 's')]
  strict := true

/-- The words of options and the numbers: a dash and a digit or a point begin a number. -/
def cutWords : List Raw → List Raw × List Raw
  | [] => ([], [])
  | a :: rest =>
    match a with
    | '-' :: c :: cs =>
      if c.isDigit || c = '.' then ([], a :: rest)
      else if a = ['-', '-'] then ([a], rest)
      else
        let takesNext : Bool := match Letter.splitFrom grammar none [a] with
          | .error (.missing _) | .error (.valueless _) => true
          | _ => false
        match takesNext, rest, cs with
        | true, v :: rest, _ => let r := cutWords rest; (a :: v :: r.1, r.2)
        | _, rest, _ => let r := cutWords rest; (a :: r.1, r.2)
    | _ => ([], a :: rest)

def seq (self : String) (args : List Raw) : Act Nat := do
  let told (r : Notice) : Act Nat := r.act self 1
  let refuse (t : Raw) : Act Nat := told (Letter.usage self t 1)
  let (words, numbers) := cutWords args
  match Letter.split grammar words with
  | .error f => told (f.report self 1)
  | .ok (os, _) =>
    match numbers with
    | [] => refuse "missing operand".toList
    | _ :: _ :: _ :: a :: _ => told (PathName.extraOperand self a 1)
    | _ =>
      let style := (Letter.value? 'f' os).map style?
      let wide := Letter.has 'w' os
      match style with
      | some (.error t) => told (.complain (self.toList ++ ": ".toList ++ t) 1)
      | _ =>
        if style.isSome && wide then
          refuse "format string may not be specified when printing equal width strings".toList
        else
          let fault := numbers.findSome? fun a => match given? a with
            | none => some ("invalid floating point argument: ".toList ++ Quotation.text a)
            | some ⟨_, .undefined, _, _⟩ =>
              some ("invalid 'not-a-number' argument: ".toList ++ Quotation.text a)
            | some _ => none
          let one : Given := ⟨false, .finite 1 1, some 0, 0⟩
          match fault, numbers.filterMap given? with
          | some t, _ => refuse t
          | none, gs =>
            let (first, step, last) := match gs with
              | [last] => ({ one with width := 1 }, one, last)
              | [first, last] => (first, one, last)
              | first :: step :: last :: _ => (first, step, last)
              | [] => (one, one, one)
            if (step.fraction?.map Prod.fst) = some 0 then
              refuse ("invalid Zero increment value: ".toList ++
                Quotation.text ((numbers[1]?).getD []))
            else
              let separator := (Letter.value? 's' os).getD ['\n']
              match plan (style.bind Except.toOption) wide separator first step last with
              | none => return 0
              | some p =>
                let k ← p.write Act.patience true p.first { stream := 1 }
                let k ← k.flush
                match k.fault with
                | none => return 0
                | some e =>
                  Notice.warn (Notice.faultLine self.toList "write error".toList e)
                  return 1

end ServiceStack.Row
