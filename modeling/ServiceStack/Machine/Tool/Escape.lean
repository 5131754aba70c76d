import ServiceStack.Text.Numeral

/-!
Escapes behind a backslash, in the styles of the programs that read them. An escape that a style
does not know is left as it stands.
-/

namespace ServiceStack

/-- Which escapes are read. -/
structure EscapeStyle where
  /-- letters that stand for a byte -/
  letters : List (Char × Nat)
  /-- a zero before up to three octal digits is passed over -/
  zero : Bool
  /-- `\c` ends all output -/
  cut : Bool
  /-- `\x` and one or two digits -/
  hex : Bool := false
  /-- `\x` without digits is a fault, and `\u` and `\U` stand for characters -/
  strict : Bool := false
  /-- digits are read without a zero before them -/
  octal : Bool := true
  /-- `\u` and `\U` stand for characters, and less digits are enough -/
  loose : Bool := false

namespace EscapeStyle

def commonLetters : List (Char × Nat) :=
  [('a', 7), ('b', 8), ('e', 27), ('f', 12), ('n', 10), ('r', 13), ('t', 9), ('v', 11), ('\\', 92)]

/-- What an escape gives. -/
inductive Effect where
  | text (s : Raw)
  | stop
  | fault
deriving DecidableEq, Repr

/-- A character by its number. Only the first 128 are written as they are. -/
def unicode (letter : Char) (n : Nat) : Raw :=
  if n < 128 then [Char.ofNat n]
  else
    let long := letter = 'U' && 0xFFFF < n
    ['\\', if long then 'U' else 'u'] ++
      Numeral.padZeros (if long then 8 else 4) ((Numeral.natText 16 n).map Char.toUpper)

/-- What the text behind a backslash gives, and how much of it is used. -/
def read (y : EscapeStyle) : Raw → Effect × Nat
  | [] => (.text ['\\'], 0)
  | c :: cs =>
    match y.letters.lookup c with
    | some n => (.text [Raw.byte n], 1)
    | none =>
      if Numeral.isDigit 8 c && (y.octal || c = '0') then
        let skipped := if y.zero && c = '0' then 1 else 0
        let row := ((c :: cs).drop skipped |>.take 3).takeWhile (Numeral.isDigit 8)
        (.text [Raw.byte (Numeral.ofDigits 8 row)], skipped + row.length)
      else if c = 'c' && y.cut then (.stop, 1)
      else if c = 'x' && y.hex then
        let row := (cs.take 2).takeWhile (Numeral.isDigit 16)
        if row ≠ [] then (.text [Raw.byte (Numeral.ofDigits 16 row)], 1 + row.length)
        else if y.strict then (.fault, 1)
        else (.text ['\\', 'x'], 1)
      else if (c = 'u' || c = 'U') && y.strict then
        let size := if c = 'u' then 4 else 8
        let row := (cs.take size).takeWhile (Numeral.isDigit 16)
        if row.length = size then (.text (unicode c (Numeral.ofDigits 16 row)), 1 + size)
        else (.fault, 1)
      else if (c = 'u' || c = 'U') && y.loose then
        let row := (cs.take (if c = 'u' then 4 else 8)).takeWhile (Numeral.isDigit 16)
        if row = [] then (.text ['\\', c], 1)
        else (.text (unicode c (Numeral.ofDigits 16 row)), 1 + row.length)
      else (.text ['\\', c], 1)

/-- A text with its escapes read, and what broke it off. -/
def decode (y : EscapeStyle) : Nat → Raw → Raw × Option Effect
  | _, [] => ([], none)
  | n + 1, _ :: cs => y.decode n cs
  | 0, c :: cs =>
    if c = '\\' then
      match y.read cs with
      | (.text s, n) =>
        let rest := y.decode n cs
        (s ++ rest.1, rest.2)
      | (e, _) => ([], some e)
    else
      let rest := y.decode 0 cs
      (c :: rest.1, rest.2)

/-- The escapes that the shell reads in the words of `echo` and behind `%b`. -/
def shellWord : EscapeStyle := { letters := commonLetters, zero := true, cut := true }

/-- The escapes that the shell reads in a format. -/
def shellFormat : EscapeStyle := { letters := commonLetters, zero := false, cut := false }

/-- The escapes that the program `echo` reads when it is asked to. -/
def echoWord : EscapeStyle := { letters := commonLetters, zero := true, cut := true, hex := true }

/-- The escapes that the program `printf` reads in a format. -/
def printfFormat : EscapeStyle :=
  { letters := ('"', 34) :: commonLetters, zero := false, cut := true, hex := true, strict := true }

/-- The escapes that the program `printf` reads behind `%b`. -/
def printfWord : EscapeStyle := { printfFormat with zero := true }

def richLetters : List (Char × Nat) := ('E', 27) :: commonLetters

/-- The escapes that the rich shell reads in the words of `echo`. -/
def richEcho : EscapeStyle :=
  { letters := richLetters, zero := true, cut := true, hex := true, octal := false, loose := true }

/-- The escapes that the rich shell reads in a format. -/
def richFormat : EscapeStyle where
  letters := [('"', 34), ('\'', 39), ('?', 63)] ++ richLetters
  zero := false
  cut := false
  hex := true
  loose := true

/-- The escapes that the rich shell reads behind `%b`. -/
def richWord : EscapeStyle :=
  { letters := richLetters, zero := true, cut := true, hex := true, loose := true }

end EscapeStyle

/-! ### echo -/

namespace Echo

/-- The shell's `echo`: one word may ask for no line break, and escapes are read. -/
def shell (args : List Raw) : Raw :=
  let words := if args.head? = some ['-', 'n'] then args.tail else args
  let text := EscapeStyle.shellWord.decode 0 ([' '].intercalate words)
  text.1 ++ if words.length < args.length || text.2.isSome then [] else ['\n']

/-- A word of options: a dash and some of the letters `n`, `e` and `E`. -/
def isOption (a : Raw) : Bool :=
  match a with
  | '-' :: c :: cs => (c :: cs).all fun c => c = 'n' || c = 'e' || c = 'E'
  | _ => false

/-- A text with options before it: escapes of some style are read if the last option about them says
so, or if they are read unless an option forbids it. -/
def withOptions (y : EscapeStyle) (usual : Bool) (args : List Raw) : Raw :=
  let options := (args.takeWhile isOption).flatten
  let words := [' '].intercalate (args.dropWhile isOption)
  let newline := if options.contains 'n' then [] else ['\n']
  let reads : Bool := match (options.filter fun c => c = 'e' || c = 'E').getLast? with
    | some c => c = 'e'
    | none => usual
  if reads then
    let text := y.decode 0 words
    text.1 ++ if text.2.isSome then [] else newline
  else words ++ newline

/-- The program `echo`. -/
def program (args : List Raw) : Raw := withOptions .echoWord false args

/-- The rich shell's `echo`. -/
def rich (usual : Bool) (args : List Raw) : Raw := withOptions .richEcho usual args

end Echo

end ServiceStack
