import Std.Data.HashMap
import RouteDocs.Class.Operation

/-! # Hash tables -/

namespace RouteDocs.Class.Hint
open Number (Binary64)

def hashPrime : Nat := Nat.pow 2 61 - 1

def usedHash (n : Int) : UInt64 :=
  let code : Int := if n = -1 then -2 else n
  (code % Int.pow 2 64).toNat.toUInt64

def hashWhole (n : Int) : Int :=
  let rest : Int := n.natAbs % hashPrime
  if n < 0 then -rest else rest

def hashReal : Binary64 -> Int
  | .infinite isNegative => if isNegative then -314159 else 314159
  | .undefined => 0
  | .finite isNegative significand exponent =>
    let shift := (exponent % 61).toNat
    let rest : Int := (significand * Nat.pow 2 shift % hashPrime : Nat)
    if isNegative then -rest else rest

def hashCodes (start : Nat) (codes : List Nat) : UInt64 :=
  codes.foldl (fun found code => found * 1099511628211 + code.toUInt64 + 1) start.toUInt64

def hashNext (found lane : UInt64) : UInt64 :=
  let sum := found + lane * 14029467366897019727
  ((sum <<< 31) ||| (sum >>> 33)) * 11400714785074694791

def hashRow (lanes : List UInt64) : UInt64 :=
  let start : UInt64 := 2870177450012600261
  let count := lanes.length.toUInt64
  let found := lanes.foldl hashNext start + (count ^^^ (start ^^^ (3527539 : UInt64)))
  if found = 0 - 1 then 1546275796 else found

def hashSet (lanes : List UInt64) : UInt64 :=
  let spread (lane : UInt64) : UInt64 := ((lane ^^^ (89869747 : UInt64)) ^^^ (lane <<< 16)) * 3644798167
  let joined : UInt64 := lanes.foldl (fun found lane => found ^^^ spread lane) 0
  let counted := joined ^^^ ((lanes.length.toUInt64 + 1) * 1927868237)
  let mixed := (counted ^^^ ((counted >>> 11) ^^^ (counted >>> 25))) * 69069 + 907133923
  if mixed = 0 - 1 then 590923713 else mixed

mutual
def hashCode : Hint -> UInt64
  | truth value => if value then 1 else 0
  | int value => usedHash (hashWhole value)
  | real value => usedHash (hashReal value)
  | complex first second => usedHash (hashReal first + 1000003 * hashReal second)
  | text pieces => hashCodes 1 (pieces.map pieceCode)
  | octets bytes => hashCodes 1 bytes
  | row items => hashRow (hashCodesOf items)
  | frozenSet items | set items => hashSet (hashCodesOf items)
  | range start stop step =>
    let size := rangeSize start stop step
    hashRow [usedHash (hashWhole size), if size = 0 then 4 else usedHash (hashWhole start),
      if size <= 1 then 4 else usedHash (hashWhole step)]
  | nothing => 4
  | builtin cls => hashCodes 5 (cls.name.toList.map Char.toNat)
  | declared number _ => hashCodes 6 [number]
  | generic cls _ => hashCodes 7 (cls.name.toList.map Char.toNat)
  | routine name | bound _ name | method _ _ name | const _ name _ =>
    hashCodes 8 (name.toList.map Char.toNat)
  | cell _ number | fn number _ | thing _ _ number | inst _ number _
  | error _ number _ => hashCodes 9 [number]
  | dots => 10
  | notImplemented => 11
  | _ => 12

def hashCodesOf : List Hint -> List UInt64
  | [] => []
  | hint :: rest => hint.hashCode :: hashCodesOf rest
end
end RouteDocs.Class.Hint

namespace RouteDocs.Class
inductive Slot where
  | free
  | left
  | taken (code : UInt64) (item : Hint)

structure Buckets where
  slots : Array Slot := Array.replicate 8 .free
  used : Nat := 0
  filled : Nat := 0
  finger : Nat := 0

namespace Buckets
variable (set : Buckets)

def mask : Nat := set.slots.size - 1
def neighbours : Nat := 9

def placesFrom (mask place : Nat) : List Nat :=
  if place + neighbours <= mask then (List.range (neighbours + 1)).map (place + ·) else [place]

def search {α : Type} (mask : Nat) (ends : Nat -> Option α) :
    Nat -> (place : Nat) -> (rest : Nat) -> Option α
  | 0, _, _ => none
  | fuel + 1, place, rest =>
    match (placesFrom mask place).findSome? ends with
    | some found => some found
    | none => search mask ends fuel ((place * 5 + 1 + rest / 32) % (mask + 1)) (rest / 32)

def jumps (mask : Nat) : Nat := 4 * mask + 64

def locate (code : UInt64) (item : Hint) : Option (Nat × Bool) :=
  let ends (place : Nat) : Option (Nat × Bool) := match set.slots[place]? with
    | some .free => some (place, false)
    | some (.taken other found) =>
      if other == code && found.same item then some (place, true) else none
    | _ => none
  search set.mask ends (jumps set.mask) (code.toNat % (set.mask + 1)) code.toNat

def contains (item : Hint) : Bool := (set.locate item.hashCode item).any Prod.snd

def items : List Hint := set.slots.toList.filterMap fun slot => match slot with
    | .taken _ item => some item
    | _ => none

def coded : List (UInt64 × Hint) := set.slots.toList.filterMap fun slot => match slot with
    | .taken code item => some (code, item)
    | _ => none

def putFree (slots : Array Slot) (entry : UInt64 × Hint) : Array Slot :=
  let mask := slots.size - 1
  let ends (place : Nat) : Option Nat := match slots[place]? with
    | some .free => some place
    | _ => none
  match search mask ends (jumps mask) (entry.1.toNat % (mask + 1)) entry.1.toNat with
  | some place => slots.set! place (.taken entry.1 entry.2)
  | none => slots

def sizeAbove (least : Nat) : Nat -> (size : Nat) -> Nat
  | 0, size => size
  | fuel + 1, size => if size <= least then sizeAbove least fuel (2 * size) else size

def resized (least : Nat) : Buckets :=
  let slots := Array.replicate (sizeAbove least 64 8) Slot.free
  { slots := set.coded.foldl putFree slots, used := set.used, filled := set.used
    finger := set.finger }

def insert (item : Hint) : Buckets :=
  let code := item.hashCode
  match set.locate code item with
  | some (place, false) =>
    let mask := set.mask
    let grown := { set with
      slots := set.slots.set! place (.taken code item)
      used := set.used + 1, filled := set.filled + 1 }
    if grown.filled * 5 < mask * 3 then grown
    else grown.resized (if 50000 < grown.used then grown.used * 2 else grown.used * 4)
  | _ => set

def erase? (item : Hint) : Option Buckets := match set.locate item.hashCode item with
  | some (place, true) =>
    some { set with slots := set.slots.set! place .left, used := set.used - 1 }
  | _ => none

def insertAll (items : List Hint) : Buckets := items.foldl insert set
def ofList (items : List Hint) : Buckets := insertAll {} items

def withRoom (more : Nat) : Buckets :=
  if set.mask * 3 <= (set.filled + more) * 5 then set.resized ((set.used + more) * 2) else set

def merge (set other : Buckets) : Buckets := if other.used = 0 then set else
    let roomy := set.withRoom other.used
    if roomy.filled = 0 then
      if roomy.slots.size = other.slots.size && other.filled = other.used then
        { other with finger := 0 }
      else { roomy with
        slots := other.coded.foldl putFree roomy.slots, used := other.used, filled := other.used }
    else roomy.insertAll other.items

def mergeKeys (keys : List Hint) : Buckets := (set.withRoom keys.length).insertAll keys
def copy : Buckets := merge {} set

def intersect (first second : Buckets) : Buckets :=
  let (large, small) := if first.used < second.used then (second, first) else (first, second)
  ofList (small.items.filter large.contains)

def subtract (first second : Buckets) : Buckets := if second.used < first.used / 4 then
    second.items.foldl (fun rest item => (rest.erase? item).getD rest) first.copy
  else ofList (first.items.filter fun item => !second.contains item)

def toggle (items : List Hint) : Buckets :=
  items.foldl (fun found item => (found.erase? item).getD (found.insert item)) set

def exclusive (first second : Buckets) : Buckets := second.copy.toggle first.items

def pop? : Option (Hint × Buckets) :=
  let size := set.slots.size
  let places := (List.range size).map fun k => (set.finger + k) % size
  places.findSome? fun (place : Nat) =>
    match set.slots[place]? with
    | some (Slot.taken _ item) =>
      some (item, { set with
        slots := set.slots.set! place .left, used := set.used - 1, finger := place + 1 })
    | _ => none
end Buckets

structure Table where
  entries : Array (Option (Hint × Hint)) := #[]
  places : Std.HashMap UInt64 (List Nat) := ∅
  size : Nat := 0

namespace Table
variable (table : Table)

def place? (key : Hint) : Option Nat := ((table.places[key.hashCode]?).getD []).find? fun place =>
    match table.entries[place]? with
    | some (some (found, _)) => found.same key
    | _ => false

def get? (key : Hint) : Option Hint := table.place? key >>= fun place =>
    match table.entries[place]? with
    | some (some (_, value)) => some value
    | _ => none

def contains (key : Hint) : Bool := (table.place? key).isSome

def insert (table : Table) (key value : Hint) : Table := match table.place? key with
  | some place =>
    let kept := match table.entries[place]? with
      | some (some (found, _)) => found
      | _ => key
    { table with entries := table.entries.set! place (some (kept, value)) }
  | none =>
    let code := key.hashCode
    let same := (table.places[code]?).getD []
    { entries := table.entries.push (some (key, value))
      places := table.places.insert code (same ++ [table.entries.size])
      size := table.size + 1 }

def erase (key : Hint) : Table := match table.place? key with
  | none => table
  | some place =>
    let code := key.hashCode
    let same := ((table.places[code]?).getD []).filter (· ≠ place)
    { entries := table.entries.set! place none
      places := table.places.insert code same
      size := table.size - 1 }

def toList (table : Table) : List (Hint × Hint) := table.entries.toList.filterMap id
def keys : List Hint := table.toList.map Prod.fst

def insertAll (entries : List (Hint × Hint)) : Table :=
  entries.foldl (fun found (key, value) => found.insert key value) table

def ofList (entries : List (Hint × Hint)) : Table := insertAll {} entries

/-- The first entry at a place or behind it, `bound` places at most, and the place behind
that. -/
def nextWithin? (table : Table) : (bound place : Nat) -> Option ((Hint × Hint) × Nat)
  | 0, _ => none
  | bound + 1, place =>
    match table.entries[place]? with
    | some (some entry) => some (entry, place + 1)
    | _ => table.nextWithin? bound (place + 1)

def nextFrom? (place : Nat) : Option ((Hint × Hint) × Nat) :=
  table.nextWithin? (table.entries.size - place) place

def last? : Option (Hint × Hint) := table.toList.getLast?
end Table
end RouteDocs.Class
