import ServiceStack.Machine.Tool.Quotation
import ServiceStack.Machine.Tool.Reading

/-!
Lines, words or numbers in no order. Each gets a key of random bytes, and the keys are put in order.
-/

namespace ServiceStack.Order

/-- Where random bytes come from. -/
def noisePath : Raw := "/dev/urandom".toList

/-- So many random numbers. -/
def randomNumbers (count : Nat) : Act (List Nat) := do
  match ← Act.openToRead noisePath with
  | .error _ => return List.replicate count 0
  | .ok stream =>
    let bytes ← Act.ask (.read stream (4 * count))
    Act.close stream
    return (Raw.inGroups 4 (bytes.toOption.getD [])).map fun g =>
      g.foldl (fun n c => 256 * n + c.toNat) 0

def shuffled (items : List Raw) : Act (List Raw) := do
  let keys ← randomNumbers items.length
  let sorted := (items.zip keys).mergeSort fun a b => a.2 ≤ b.2
  return sorted.map Prod.fst

/-- Some of the items, each as often as it is drawn. -/
def drawn (items : List Raw) (count : Nat) : Act (List Raw) := do
  let keys ← randomNumbers count
  return keys.map fun k => items.getD (k % items.length) []

/-- How many items are drawn at once. -/
def drawSize : Nat := 4096

/-- Writes items that are drawn without end. -/
def drawForever (self : String) (items : List Raw) (stop : Char) : Nat → Act Nat
  | 0 => return 0
  | n + 1 => do
    match ← Act.write 1 ((← drawn items drawSize).flatMap (· ++ [stop])) with
    | .ok () => drawForever self items stop n
    | .error e =>
      Notice.warn (Notice.faultLine self.toList "write error".toList e)
      return 1

/-- The numbers from one to another. -/
def range? (v : Raw) : Option (List Raw) :=
  match v.splitOn '-' with
  | [a, b] =>
    match Numeral.natural? a, Numeral.natural? b with
    | some lo, some hi =>
      if hi + 1 < lo then none
      else some ((List.range' lo (hi + 1 - lo)).map (Numeral.natText 10))
    | _, _ => none
  | _ => none

def shuffleGrammar : Letter.Grammar where
  plain := "erz"
  valued := "inoR"
  long := [("echo", 'e'), ("input-range", 'i'), ("head-count", 'n'), ("output", 'o'),
    ("random-source", 'R'), ("repeat", 'r'), ("zero-terminated", 'z')]

/-- The items that are asked for, or what is wrong. -/
def itemsOf (self : String) (os : List (Char × Raw)) (words : List Raw) (stop : Char) :
    Act (Except Notice (List Raw)) := do
  match Letter.has 'e' os, Letter.value? 'i' os, words with
  | true, _, words => return .ok words
  | false, some v, [] => return .ok ((range? v).getD [])
  | false, some _, w :: _ | false, none, _ :: w :: _ =>
    return .error (Letter.usage self ("extra operand ".toList ++ Quotation.text w) 1)
  | false, none, words =>
    let name := words.headD ['-']
    let text ← if name = ['-'] then Act.readAll 0 else Act.readFile name
    match text with
    | .error e => return .error (.complain (Quotation.faultLine self.toList name e) 1)
    | .ok text =>
      let parts := text.splitOn stop
      return .ok (if parts.getLast? = some [] then parts.dropLast else parts)

/-- Writes items to the output, or to a file. -/
def writeItems (self : String) (file : Option Raw) (text : Raw) : Act Nat := do
  match file with
  | none => Notice.act self ⟨[(1, text)], 0⟩ 1
  | some name =>
    match ← Act.ask (.open name { writes := true, creates := true, truncates := true }) with
    | .error e => Notice.act self (.complain (Quotation.faultLine self.toList name e) 1) 1
    | .ok stream =>
      let _ ← Act.write stream text
      Act.close stream
      return 0

def shuf (self : String) (args : List Raw) : Act Nat := do
  match Letter.split shuffleGrammar args with
  | .error f => (f.report self 1).act self 1
  | .ok (os, words) =>
    let refuse := fun (t : Raw) => Notice.complain (self.toList ++ ": ".toList ++ t) 1
    let valuesOf := fun (c : Char) => (os.filter (·.1 = c)).map Prod.snd
    let badRange := (valuesOf 'i').find? fun v => (range? v).isNone
    let badCount := (valuesOf 'n').find? fun v => (Numeral.natural? v).isNone
    let stop := if Letter.has 'z' os then '\x00' else '\n'
    if let some v := badRange then
      (refuse ("invalid input range: ".toList ++ Quotation.text v)).act self 1
    else if 1 < (valuesOf 'i').length then
      (refuse "multiple -i options specified".toList).act self 1
    else if let some v := badCount then
      (refuse ("invalid line count: ".toList ++ Quotation.text v)).act self 1
    else if Letter.has 'e' os && Letter.has 'i' os then
      (Letter.usage self "cannot combine -e and -i options".toList 1).act self 1
    else
      let most := ((valuesOf 'n').filterMap Numeral.natural?).foldl
        (fun (m : Option Nat) n => some (Nat.min n (m.getD n))) none
      match ← itemsOf self os words stop with
      | .error r => r.act self 1
      | .ok items =>
        if Letter.has 'r' os then
          match most, items with
          | some 0, _ => return 0
          | _, [] => (refuse "no lines to repeat".toList).act self 1
          | none, items => drawForever self items stop Act.patience
          | some n, items =>
            let chosen ← drawn items n
            writeItems self (Letter.value? 'o' os) (chosen.flatMap (· ++ [stop]))
        else
          let mixed ← shuffled items
          writeItems self (Letter.value? 'o' os)
            ((mixed.take (most.getD items.length)).flatMap (· ++ [stop]))

end ServiceStack.Order
