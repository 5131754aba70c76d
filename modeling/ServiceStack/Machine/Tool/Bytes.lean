import ServiceStack.Machine.Tool.Letter
import ServiceStack.Machine.Tool.Quotation

/-!
Bytes in the place of others. Two sets are written as rows of bytes, ranges, classes and
repetitions; each byte of the first is changed into the byte of the second that stands at its place.
-/

namespace ServiceStack.Bytes

/-! ### Sets -/

/-- A member of a set as it is written. -/
inductive Member where
  | one (c : Char)
  | range (lo hi : Char)
  | named (name : String) (p : Char → Bool)
  | alike (c : Char)
  /-- a byte so many times; zero stands for as often as is needed -/
  | times (c : Char) (n : Nat)

def classes : List (String × (Char → Bool)) := [
  ("alpha", Char.isAlpha), ("digit", Char.isDigit), ("alnum", Char.isAlphanum),
  ("upper", Char.isUpper), ("lower", Char.isLower), ("space", Raw.isBlank),
  ("blank", fun c => c = ' ' || c = '\t'),
  ("punct", fun c => '!' ≤ c && c ≤ '~' && !c.isAlphanum),
  ("xdigit", fun c => c.isDigit || "abcdefABCDEF".contains c),
  ("print", fun c => ' ' ≤ c && c ≤ '~'), ("graph", fun c => '!' ≤ c && c ≤ '~'),
  ("cntrl", fun c => c < ' ' || c = '\x7f')]

def allBytes : Raw := (List.range 256).map Char.ofNat

/-- A byte, and whether a backslash stood before it. -/
abbrev Letter := Char × Bool

/-- The bytes that backslashes stand for, and what is told about some of them. -/
def unescape : Raw → List Letter × List Raw
  | [] => ([], [])
  | ['\\'] => ([('\\', false)],
      ["warning: an unescaped backslash at end of string is not portable".toList])
  | '\\' :: c :: cs =>
    let simple := [('a', 7), ('b', 8), ('f', 12), ('n', 10), ('r', 13), ('t', 9), ('v', 11)]
    match Numeral.digit? 8 c with
    | none =>
      let d := ((simple.lookup c).map Char.ofNat).getD c
      let r := unescape cs
      ((d, true) :: r.1, r.2)
    | some a =>
      match cs with
      | d :: ds =>
        match Numeral.digit? 8 d with
        | none =>
          let r := unescape (d :: ds)
          ((Char.ofNat a, true) :: r.1, r.2)
        | some b =>
          match ds with
          | e :: es =>
            match Numeral.digit? 8 e with
            | none =>
              let r := unescape (e :: es)
              ((Char.ofNat (8 * a + b), true) :: r.1, r.2)
            | some x =>
              if 8 * (8 * a + b) + x < 256 then
                let r := unescape es
                ((Char.ofNat (8 * (8 * a + b) + x), true) :: r.1, r.2)
              else
                let r := unescape (e :: es)
                ((Char.ofNat (8 * a + b), true) :: r.1,
                  ("warning: the ambiguous octal escape \\".toList ++ [c, d, e] ++
                    " is being\n\tinterpreted as the 2-byte sequence \\0".toList ++ [c, d] ++
                    ", ".toList ++ [e]) :: r.2)
          | [] => ([(Char.ofNat (8 * a + b), true)], [])
      | [] => ([(Char.ofNat a, true)], [])
  | c :: cs =>
    let r := unescape cs
    ((c, false) :: r.1, r.2)

def isSign (c : Char) (l : Letter) : Bool := l = (c, false)

/-- What stands before a sign and a closing bracket, and what stands behind them. -/
def enclosed? (sign : Char) : List Letter → Option (Raw × List Letter)
  | [] => none
  | l :: ls =>
    if isSign sign l && (ls.head?.any (isSign ']')) then some ([], ls.tail)
    else (enclosed? sign ls).map fun r => (l.1 :: r.1, r.2)

/-- Whether a star, digits and a bracket come next. -/
def isRepetition : List Letter → Bool
  | l :: ls => isSign '*' l && (ls.dropWhile (·.1.isDigit)).head?.any (isSign ']')
  | [] => false

/-- The largest number of times. -/
def timesLimit : Nat := 0x7fffffffffffffff

/-- A byte that is repeated, as it stands behind an opening bracket. -/
def repetition? : List Letter → Except Raw (Option (Member × List Letter))
  | c :: star :: ls =>
    if !isSign '*' star then .ok none
    else
      let ds := ls.takeWhile fun l => !l.2 && l.1 ≠ ']'
      let rest := ls.drop ds.length
      if !(rest.head?.any (isSign ']')) then .ok none
      else
        let text := ds.map Prod.fst
        let base := if text.head? = some '0' then 8 else 10
        let row := Numeral.digits base text
        let n := Numeral.ofDigits base row.1
        if text = [] then .ok (some (.times c.1 0, rest.tail))
        else if row.2 ≠ [] || timesLimit < n then
          .error ("invalid repeat count ".toList ++ Quotation.text text ++
            " in [c*n] construct".toList)
        else .ok (some (.times c.1 n, rest.tail))
  | _ => .ok none

/-- A byte in a complaint. -/
def shown (c : Char) : Raw :=
  if ' ' ≤ c && c ≤ '~' then [c] else '\\' :: Numeral.padZeros 3 (Numeral.natText 8 c.toNat)

/-- A byte, or a range of bytes. -/
def plain? : List Letter → Except Raw (Option (Member × List Letter))
  | l :: dash :: m :: rest =>
    if !isSign '-' dash then .ok (some (.one l.1, dash :: m :: rest))
    else if m.1 < l.1 then
      .error ("range-endpoints of '".toList ++ shown l.1 ++ ['-'] ++ shown m.1 ++
        "' are in reverse collating sequence order".toList)
    else .ok (some (.range l.1 m.1, rest))
  | l :: rest => .ok (some (.one l.1, rest))
  | [] => .ok none

/-- The member at the start of a set, and what follows. -/
def member? (ls : List Letter) : Except Raw (Option (Member × List Letter)) := do
  match ls with
  | o :: k :: rest =>
    if !isSign '[' o || rest = [] then plain? ls
    else
      let repeated : Except Raw (Option (Member × List Letter)) := do
        match ← repetition? (k :: rest) with
        | some r => return some r
        | none => plain? ls
      if isSign ':' k || isSign '=' k then
        match enclosed? k.1 rest with
        | none => repeated
        | some (name, after) =>
          if name = [] then
            throw (if k.1 = ':' then "missing character class name '[::]'"
              else "missing equivalence class character '[==]'").toList
          else if k.1 = ':' then
            match classes.lookup (String.ofList name) with
            | some p => return some (.named (String.ofList name) p, after)
            | none =>
              if isRepetition rest then repeated
              else throw ("invalid character class ".toList ++ Quotation.text name)
          else match name with
            | [c] => return some (.alike c, after)
            | _ =>
              if isRepetition rest then repeated
              else throw (name ++
                ": equivalence class operand must be a single character".toList)
      else repeated
  | _ => plain? ls

def membersFrom : Nat → List Letter → Except Raw (List Member)
  | 0, _ => .ok []
  | n + 1, ls => do
    match ← member? ls with
    | none => return []
    | some (m, rest) => return m :: (← membersFrom n rest)

/-- A set as it was written, with what is told about its spelling. -/
def read (text : Raw) : Except Raw (List Member) × List Raw :=
  let r := unescape text
  (membersFrom r.1.length r.1, r.2)

namespace Member

def bytes : Member → Raw
  | .one c | .alike c => [c]
  | .range lo hi => (List.range' lo.toNat (hi.toNat + 1 - lo.toNat)).map Char.ofNat
  | .named _ p => allBytes.filter p
  | .times c n => List.replicate (min n 256) c

/-- Whether it stands for as many bytes as are needed. -/
def isOpen : Member → Bool
  | .times _ 0 => true
  | _ => false

/-- Upper or lower letters. -/
def case? : Member → Option Bool
  | .named "upper" _ => some true
  | .named "lower" _ => some false
  | _ => none

def isNamed : Member → Bool
  | .named _ _ => true
  | _ => false

end Member

def bytesOf (ms : List Member) : Raw := ms.flatMap Member.bytes

/-! ### Changing bytes -/

/-- A byte of a set: of which letters it is one, and whether it begins a member. -/
structure Step where
  byte : Char
  case : Option Bool
  fresh : Bool

def stepsOf (ms : List Member) : List Step :=
  ms.flatMap fun m => m.bytes.zipIdx.map fun b => ⟨b.1, m.case?, b.2 = 0⟩

/-- What two sets come to, member by member: pairs of bytes, or of letters. -/
inductive Pairing where
  | bytes (old new : Char)
  | letters (old new : Bool)

/-- Letters of the second set must stand beside letters of the first. What is left of either set is
told. -/
def pair : Nat → List Step → List Step → Except Raw (List Pairing × List Step × List Step)
  | 0, a, b => .ok ([], a, b)
  | _, a, [] => .ok ([], a, [])
  | n + 1, a, y :: ys =>
    let behind := fun (ss : List Step) => ss.tail.dropWhile fun s => !s.fresh
    match y.case, a with
    | some new, x :: _ =>
      match x.case, x.fresh with
      | some old, true => do
        let r ← pair n (behind a) (behind (y :: ys))
        return (.letters old new :: r.1, r.2)
      | _, _ => misaligned
    | some _, [] => misaligned
    | none, x :: xs => do
      let r ← pair n xs ys
      return (.bytes x.byte y.byte :: r.1, r.2)
    | none, [] => .ok ([], [], y :: ys)
where
  misaligned : Except Raw (List Pairing × List Step × List Step) :=
    .error "misaligned [:upper:] and/or [:lower:] construct".toList

/-- What a byte becomes. Of several pairs the last one counts. -/
def changed (ps : List Pairing) (c : Char) : Char :=
  ps.foldl (fun d p =>
    match p with
    | .bytes old new => if c = old then new else d
    | .letters true false => if c.isUpper then c.toLower else d
    | .letters false true => if c.isLower then c.toUpper else d
    | .letters _ _ => d) c

/-- The second set, made as long as the first. -/
def fill (size : Nat) (ms : List Member) : List Member :=
  let others := (bytesOf ms).length
  ms.map fun m =>
    match m with
    | .times c 0 => .times c (size - others)
    | m => m

/-- How bytes are changed by two sets. -/
def changing (inverted cuts : Bool) (first second : List Member) :
    Except Raw (Char → Char) := do
  let old := bytesOf first
  let outside := allBytes.filter (!old.contains ·)
  let size := if inverted then outside.length else old.length
  if 1 < (second.filter Member.isOpen).length then
    throw "only one [c*] repeat construct may appear in string2".toList
  let whole := if (bytesOf second).length ≤ size then fill size second
    else second.filter fun m => !m.isOpen
  if second.any fun m => m matches .alike _ then
    throw "[=c=] expressions may not appear in string2 when translating".toList
  if second.any fun m => m.isNamed && m.case?.isNone then
    throw ("when translating, the only character classes that may appear in\n" ++
      "string2 are 'upper' and 'lower'").toList
  let hasCase := second.any Member.isNamed
  let (pairs, missing) ←
    if inverted || !hasCase then
      let a := if inverted then outside else old
      let b := bytesOf whole
      pure ((List.zip a b).map fun p => Pairing.bytes p.1 p.2, a.drop b.length)
    else do
      let a := stepsOf first
      let b := stepsOf whole
      let r ← pair (a.length + b.length + 1) a b
      pure (r.1, r.2.1.map Step.byte)
  let more ← if missing = [] || cuts then pure [] else
    match whole.getLast? with
    | none => throw "when not truncating set1, string2 must be non-empty".toList
    | some m =>
      if m.isNamed then
        throw ("when translating with string1 longer than string2,\n" ++
          "the latter string must not end with a character class").toList
      else
        let last := match m with
          | .times c _ => c
          | m => m.bytes.getLast?.getD '\x00'
        pure (missing.map fun c => Pairing.bytes c last)
  let all := pairs ++ more
  if inverted && first.any Member.isNamed then
    let images := all.filterMap fun p =>
      match p with
      | .bytes _ new => some new
      | _ => none
    let onto := (bytesOf whole).length = size || more ≠ []
    if !(onto && (bytesOf whole).all fun c => some c = images.head?) then
      throw ("when translating with complemented character classes,\n" ++
        "string2 must map all characters in the domain to one").toList
  let table := (allBytes.map (changed all)).toArray
  return fun c => (table[c.toNat]?).getD c

/-! ### The program -/

/-- What is done with each byte: nothing is left of it, or another one; and which ones are left out
behind themselves. -/
structure Plan where
  change : Char → Option Char := some
  squeezes : Char → Bool := fun _ => false

/-- The bytes that are left of a text behind some byte. -/
def Plan.apply (p : Plan) : Option Char → Raw → Raw
  | _, [] => []
  | last, c :: cs =>
    match p.change c with
    | none => p.apply last cs
    | some d =>
      if last = some d && p.squeezes d then p.apply last cs else d :: p.apply (some d) cs

def planOf (os : List (Char × Raw)) (first : List Member) (second : Option (List Member)) :
    Except Raw Plan := do
  let inverted := Letter.has 'c' os
  let isFirst := fun (c : Char) => (bytesOf first).contains c != inverted
  let isSecond := fun (c : Char) => second.any fun ms => (bytesOf ms).contains c
  if first.any Member.isOpen then
    throw "the [c*] repeat construct may not appear in string1".toList
  match second, Letter.has 'd' os, Letter.has 's' os with
  | none, true, _ => return { change := fun c => if isFirst c then none else some c }
  | none, false, _ => return { squeezes := isFirst }
  | some ms, true, _ =>
    if ms.any Member.isOpen then
      throw "the [c*] construct may appear in string2 only when translating".toList
    return { change := fun c => if isFirst c then none else some c, squeezes := isSecond }
  | some ms, false, squeezes => do
    let f ← changing inverted (Letter.has 't' os) first ms
    return { change := fun c => some (f c), squeezes := fun c => squeezes && isSecond c }

def grammar : Letter.Grammar where
  plain := "cCdst"
  long := [("complement", 'c'), ("delete", 'd'), ("squeeze-repeats", 's'),
    ("truncate-set1", 't')]
  strict := true

/-- What is wrong with the number of sets. -/
def countFault? (deletes squeezes : Bool) (sets : List Raw) : Option Raw :=
  let least := if deletes = squeezes then 2 else 1
  let most := if deletes && !squeezes then 1 else 2
  match sets with
  | [] => some "missing operand".toList
  | _ =>
    if sets.length < least then
      some ("missing operand after ".toList ++ Quotation.text (sets.getLast?.getD []) ++
        (if squeezes then "\nTwo strings must be given when both deleting and squeezing repeats."
          else "\nTwo strings must be given when translating.").toList)
    else if most < sets.length then
      some ("extra operand ".toList ++ Quotation.text ((sets[most]?).getD []) ++
        (if sets.length = 2 then
          "\nOnly one string may be given when deleting without squeezing repeats."
          else "").toList)
    else none

/-- Changes the input block by block. -/
def pass (self : String) (p : Plan) : Nat → Option Char → Act Nat
  | 0, _ => return 0
  | n + 1, last => do
    match ← Act.ask (.read 0 Act.blockSize) with
    | .error .EINTR => pass self p n last
    | .error e =>
      Notice.warn (Notice.faultLine self.toList "read error".toList e)
      return 1
    | .ok [] => return 0
    | .ok block =>
      let out := p.apply last block
      match ← Act.write 1 out with
      | .ok () => pass self p n (out.getLast? <|> last)
      | .error e =>
        Notice.warn (Notice.faultLine self.toList "write error".toList e)
        return 1

def tr (self : String) (args : List Raw) : Act Nat := do
  let refuse (text : Raw) : Act Nat :=
    (Notice.complain (self.toList ++ ": ".toList ++ text) 1).act self 1
  match Letter.split grammar args with
  | .error f => (f.report self 1).act self 1
  | .ok (os, sets) =>
    let os := os.map fun o => if o.1 = 'C' then ('c', []) else o
    match countFault? (Letter.has 'd' os) (Letter.has 's' os) sets with
    | some t => (Letter.usage self t 1).act self 1
    | none =>
      let rs := sets.map read
      for t in rs.flatMap Prod.snd do
        Notice.warn (self.toList ++ ": ".toList ++ t)
      let plan := do
        let sets ← rs.mapM Prod.fst
        planOf os (sets.headD []) sets.tail.head?
      match plan with
      | .error t => refuse t
      | .ok p => pass self p Act.patience none

end ServiceStack.Bytes
