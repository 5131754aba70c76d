import ServiceStack.Machine.Tool.Record.Value
import Std.Data.HashMap

/-!
Tables of values. The keys of a table are told in the order of their hashes; keys of one hash come
with the latest first. A key that was only used as a number gets its place when the keys are told,
or when a key is used as a text for the first time.
-/

namespace ServiceStack.Record

/-- A key, and the whole number that it was used as. -/
structure Key where
  text : Raw
  number : Option Int := none

structure Entry where
  value : Value := .unset
  /-- when it was used last by its text -/
  place : Option Nat := none
  /-- when it was used last by its number, and the number -/
  counted : Option (Nat × Int) := none
deriving Inhabited

local instance keyHashing : Hashable Raw := Raw.hashing

structure Table where
  entries : Std.HashMap Raw Entry := {}
  clock : Nat := 0
  /-- whether keys were used as texts -/
  named : Bool := false

namespace Table

/-- How many chains there are at first, and how many keys each of them takes on the average. -/
def firstChains : Nat := 64

def chainLimit : Nat := 12

/-- The number of chains for so many keys. -/
def chains (size : Nat) : Nat := go 32 firstChains
where
  go : Nat → Nat → Nat
    | 0, n => n
    | k + 1, n => if size ≤ n * chainLimit then n else go k (2 * n)

/-- The hash of a text: each byte is mixed in and spread by a prime. -/
def hash (t : Raw) : Nat :=
  (t.foldl (fun (h : UInt32) c => (h ^^^ UInt32.ofNat c.toNat) * 16777619) 2166136261).toNat

def size (t : Table) : Nat := t.entries.size

/-- Gives places to the keys that were only used as numbers. -/
def name (t : Table) : Table :=
  if t.named then t
  else
    let mask : Int := chains t.size
    let late := t.entries.toList.filterMap fun (x, e) => match e.place, e.counted with
      | none, some (time, n) => some (x, e, (n % mask).toNat, time)
      | _, _ => none
    let sorted := late.mergeSort fun a b =>
      a.2.2.1 < b.2.2.1 || a.2.2.1 = b.2.2.1 && b.2.2.2 ≤ a.2.2.2
    let r := sorted.foldl (fun (r : Std.HashMap Raw Entry × Nat) a =>
      (r.1.insert a.1 { a.2.1 with place := some r.2 }, r.2 + 1)) (t.entries, t.clock)
    { entries := r.1, clock := r.2, named := true }

/-- The keys in their order. -/
def keys (t : Table) : List Raw × Table :=
  let t := t.name
  let all := t.entries.toList.map fun (x, e) => (x, hash x % chains t.size, e.place.getD 0)
  let sorted := all.mergeSort fun a b =>
    a.2.1 < b.2.1 || a.2.1 = b.2.1 && b.2.2 ≤ a.2.2
  (sorted.map Prod.fst, t)

/-- An entry that was just used. -/
def used (t : Table) (k : Key) (e : Entry) : Entry :=
  match k.number with
  | none => { e with place := some t.clock }
  | some n =>
    let place := if t.named && e.counted.isNone then some t.clock else e.place
    { e with counted := some (t.clock, n), place }

/-- A table in which a key is about to be used. -/
def ready (t : Table) (k : Key) : Table := if k.number.isNone then t.name else t

/-- Looks for a key, which may become known by that. -/
def find (t : Table) (k : Key) (creates : Bool) : Option Value × Table :=
  let t := t.ready k
  match t.entries[k.text]? with
  | some e =>
    (some e.value,
      { t with entries := t.entries.insert k.text (t.used k e), clock := t.clock + 1 })
  | none =>
    if creates then
      (some .unset,
        { t with entries := t.entries.insert k.text (t.used k {}), clock := t.clock + 1 })
    else (none, t)

def set (t : Table) (k : Key) (v : Value) : Table :=
  let t := t.ready k
  let e := { t.used k ((t.entries[k.text]?).getD {}) with value := v }
  { t with entries := t.entries.insert k.text e, clock := t.clock + 1 }

def erase (t : Table) (k : Key) : Table := { t with entries := t.entries.erase k.text }

/-- A table of values with the keys 1, 2, 3 and so on. -/
def ofList (vs : List Value) : Table :=
  (vs.foldl (fun (r : Table × Nat) v =>
    (r.1.set ⟨Numeral.natText 10 r.2, some r.2⟩ v, r.2 + 1)) ({}, 1)).1

end Table

end ServiceStack.Record
