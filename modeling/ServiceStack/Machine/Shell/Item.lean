import ServiceStack.Machine.Shell.Pattern

/-!
What the parts of a word stand for: a row of items, which is cut into fields. A character that was
not quoted and comes from a value may end a field, and several values stay apart.
-/

namespace ServiceStack.Shell

inductive Item where
  | glyph (c : Char) (quoted splits : Bool)
  /-- something that makes a field even if it is empty -/
  | mark
  /-- the end of one argument of several -/
  | cut
deriving DecidableEq, Repr

namespace Item

def ofValue (quoted : Bool) (v : Raw) : List Item :=
  if quoted && v = [] then [.mark] else v.map fun c => .glyph c quoted !quoted

/-- Several arguments that stay apart. -/
def ofArguments (quoted : Bool) (args : List Raw) : List Item :=
  [Item.cut].intercalate (args.map (ofValue quoted))

/-- What is not quoted may end a field. -/
def loosen : Item → Item
  | .glyph c quoted _ => .glyph c quoted !quoted
  | i => i

/-- A row of items as one field, with something between arguments. -/
def flat (between : Raw) (items : List Item) : List Glyph :=
  items.flatMap fun
    | .glyph c quoted _ => [(c, quoted)]
    | .mark => []
    | .cut => between.map (·, false)

def text (between : Raw) (items : List Item) : Raw := (flat between items).map Prod.fst

/-! ### Fields -/

/-- The fields so far, the one that is open, and whether the last was ended by a blank, so that a
separator behind it belongs to the same end. Of all rows the latest comes first. -/
structure Cutting where
  fields : List (List Glyph) := []
  current : Option (List Glyph) := none
  ended : Bool := false

def Cutting.close (k : Cutting) : Cutting :=
  { fields := match k.current with
      | some gs => gs.reverse :: k.fields
      | none => k.fields }

def Cutting.step (separators : Raw) (k : Cutting) : Item → Cutting
  | .mark => { k with current := some (k.current.getD []), ended := false }
  | .cut => k.close
  | .glyph c quoted splits =>
    if splits && separators.contains c then
      if c = ' ' || c = '\t' || c = '\n' then
        if k.current.isSome then { k.close with ended := true } else k
      else if k.current.isSome then k.close
      else if k.ended then { k with ended := false }
      else { k with fields := [] :: k.fields }
    else { k with current := some ((c, quoted) :: k.current.getD []), ended := false }

def fields (separators : Raw) (items : List Item) : List (List Glyph) :=
  (items.foldl (Cutting.step separators) {}).close.fields.reverse

end Item

end ServiceStack.Shell
