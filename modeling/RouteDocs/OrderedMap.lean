/-!
# Maps in order of first insertion

The order in which names were first declared is part of every document, so a
map is a list of entries with pairwise distinct keys. Inserting under a known
key replaces the value and keeps the position; inserting under a new key adds
an entry at the end.
-/

namespace RouteDocs

/-- Entries with pairwise distinct keys, in order of first insertion. -/
structure OrderedMap (κ υ : Type) where
  entries : List (κ × υ)
  /-- No key has two entries. -/
  distinct : (entries.map Prod.fst).Nodup
deriving DecidableEq

namespace OrderedMap
variable {κ υ ω : Type}

def empty : OrderedMap κ υ := ⟨[], List.nodup_nil⟩

instance : Inhabited (OrderedMap κ υ) := ⟨empty⟩

instance : EmptyCollection (OrderedMap κ υ) := ⟨empty⟩

def keys (map : OrderedMap κ υ) : List κ := map.entries.map Prod.fst
def values (map : OrderedMap κ υ) : List υ := map.entries.map Prod.snd
def size (map : OrderedMap κ υ) : Nat := map.entries.length
def isEmpty (map : OrderedMap κ υ) : Bool := map.entries.isEmpty

section
variable [DecidableEq κ]

def find? (key : κ) : List (κ × υ) -> Option υ
  | [] => none
  | (k, v) :: rest => if k = key then some v else find? key rest

def get? (map : OrderedMap κ υ) (key : κ) : Option υ := find? key map.entries
def contains (map : OrderedMap κ υ) (key : κ) : Bool := (map.get? key).isSome

def put (key : κ) (value : υ) : List (κ × υ) -> List (κ × υ)
  | [] => [(key, value)]
  | (k, v) :: rest => if k = key then (k, value) :: rest else (k, v) :: put key value rest

/-- Setting a value adds at most its key, and only at the end. -/
theorem map_fst_put (key : κ) (value : υ) (entries : List (κ × υ)) :
    (put key value entries).map Prod.fst = if key ∈ entries.map Prod.fst then entries.map Prod.fst
      else entries.map Prod.fst ++ [key] := by
  induction entries with
  | nil => simp [put]
  | cons entry rest ih =>
    obtain ⟨k, v⟩ := entry
    by_cases same : k = key
    · simp [put, same]
    · have different : key ≠ k := fun equal => same equal.symm
      by_cases present : key ∈ rest.map Prod.fst <;>
        simp_all [put]

theorem nodup_put (key : κ) (value : υ) {entries : List (κ × υ)}
    (distinct : (entries.map Prod.fst).Nodup) : ((put key value entries).map Prod.fst).Nodup := by
  rw [map_fst_put]
  split
  · exact distinct
  · rename_i absent
    exact List.nodup_append.mpr ⟨distinct, by simp, by
      intro a member b single
      simp only [List.mem_singleton] at single
      subst single
      intro equal
      exact absent (equal ▸ member)⟩

def insert (map : OrderedMap κ υ) (key : κ) (value : υ) : OrderedMap κ υ :=
  ⟨put key value map.entries, nodup_put key value map.distinct⟩

/-- The map that some entries build up one after another: a repeated key keeps
its first position and its last value. -/
def ofList (entries : List (κ × υ)) : OrderedMap κ υ :=
  entries.foldl (fun map (key, value) => map.insert key value) empty

def mapValues (f : κ -> υ -> ω) (map : OrderedMap κ υ) : OrderedMap κ ω :=
  ⟨map.entries.map fun (key, value) => (key, f key value), by
    have same : (map.entries.map fun (key, value) => (key, f key value)).map Prod.fst =
        map.entries.map Prod.fst := by simp [Function.comp_def]
    exact same ▸ map.distinct⟩

def sameEntries (same : υ -> υ -> Bool) (first second : OrderedMap κ υ) : Bool :=
  first.size == second.size &&
    first.entries.all fun (key, value) => match second.get? key with
      | some other => same value other
      | none => false
end
end OrderedMap
end RouteDocs
