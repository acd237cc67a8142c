import Mathlib.Data.List.Induction
import Mathlib.Data.List.Nodup
import Mathlib.Data.List.Perm.Subperm
import RouteDocs.OrderedMap

namespace RouteDocs.OrderedMap
open List

/-!
# Laws of maps in order of first insertion

Look-up sees the last value set under a key, and entries, keys and look-up tell
the same story because no key has two entries. A map is therefore known by its
keys in order together with its look-up function; the program's own comparison
`sameEntries` sees only the look-up function.
-/

variable {κ υ ω : Type} [DecidableEq κ] {key : κ} {value : υ} {entries : List (κ × υ)}
  {map first second : OrderedMap κ υ}

theorem find?_put (key other : κ) (value : υ) (entries : List (κ × υ)) :
    find? other (put key value entries) =
      if key = other then some value else find? other entries := by
  induction entries with
  | nil => simp only [put, find?]
  | cons entry rest ih =>
    obtain ⟨k, v⟩ := entry
    by_cases same : k = key
    · subst same
      simp only [put, if_true, find?]
      by_cases found : k = other
      · simp only [if_pos found]
      · simp only [if_neg found]
    · simp only [put, if_neg same, find?, ih]
      by_cases found : k = other
      · have ne : ¬ key = other := fun equal => same (found.trans equal.symm)
        simp only [if_pos found, if_neg ne]
      · simp only [if_neg found]

theorem find?_eq_none_iff (key : κ) (entries : List (κ × υ)) :
    find? key entries = none ↔ key ∉ entries.map Prod.fst := by
  induction entries with
  | nil => simp [find?]
  | cons entry rest ih =>
    obtain ⟨k, v⟩ := entry
    by_cases same : k = key
    · simp [find?, same]
    · have ne : key ≠ k := fun equal => same equal.symm
      simp only [find?, if_neg same, ih, map_cons, mem_cons, ne, false_or]

theorem mem_of_find?_eq_some (found : find? key entries = some value) : (key, value) ∈ entries := by
  induction entries with
  | nil => simp [find?] at found
  | cons entry rest ih =>
    obtain ⟨k, v⟩ := entry
    by_cases same : k = key
    · simp only [find?, if_pos same, Option.some.injEq] at found
      rw [same, found]
      exact .head _
    · simp only [find?, if_neg same] at found
      exact .tail _ (ih found)

theorem find?_eq_some_of_mem (nodup : (entries.map Prod.fst).Nodup)
    (mem : (key, value) ∈ entries) : find? key entries = some value := by
  induction entries with
  | nil => simp at mem
  | cons entry rest ih =>
    obtain ⟨k, v⟩ := entry
    have parts := nodup_cons.mp nodup
    rcases mem_cons.mp mem with here | later
    · cases here
      simp [find?]
    · have ne : ¬ k = key := by
        intro same
        exact parts.1 (mem_map.mpr ⟨(key, value), later, same.symm⟩)
      rw [find?, if_neg ne]
      exact ih parts.2 later

theorem put_of_absent (value : υ) (absent : key ∉ entries.map Prod.fst) :
    put key value entries = entries ++ [(key, value)] := by
  induction entries with
  | nil => rfl
  | cons entry rest ih =>
    obtain ⟨k, v⟩ := entry
    simp only [map_cons, mem_cons, not_or] at absent
    have ne : ¬ k = key := fun same => absent.1 same.symm
    rw [put, if_neg ne, ih absent.2]
    rfl

variable (map : OrderedMap κ υ)

theorem get?_insert (key other : κ) (value : υ) :
    (map.insert key value).get? other = if key = other then some value else map.get? other :=
  find?_put key other value map.entries

@[simp] theorem get?_insert_self (key : κ) (value : υ) :
    (map.insert key value).get? key = some value := by
  rw [get?_insert, if_pos rfl]

theorem get?_insert_of_ne (value : υ) (ne : key ≠ other) :
    (map.insert key value).get? other = map.get? other := by
  rw [get?_insert, if_neg ne]

theorem get?_insert_new (key other : κ) (value : υ) :
    (if map.contains key then map else map.insert key value).get? other =
      (map.get? other).or (if key = other then some value else none) := by
  by_cases same : key = other
  · subst same
    cases found : map.get? key <;> simp [contains, found]
  · split <;> simp [get?_insert, same]

theorem mem_entries_iff (key : κ) (value : υ) :
    (key, value) ∈ map.entries ↔ map.get? key = some value :=
  ⟨find?_eq_some_of_mem map.distinct, mem_of_find?_eq_some⟩

theorem get?_eq_none_iff (key : κ) : map.get? key = none ↔ key ∉ map.keys :=
  find?_eq_none_iff key map.entries

theorem mem_keys_iff (key : κ) : key ∈ map.keys ↔ ∃ value, map.get? key = some value := by
  rw [<- Option.isSome_iff_exists, Option.isSome_iff_ne_none, ne_eq, get?_eq_none_iff, not_not]

theorem contains_iff (key : κ) : map.contains key = true ↔ key ∈ map.keys := by
  rw [contains, Option.isSome_iff_exists, mem_keys_iff]

theorem entries_insert_of_absent (value : υ) (absent : map.get? key = none) :
    (map.insert key value).entries = map.entries ++ [(key, value)] :=
  put_of_absent value ((map.get?_eq_none_iff key).mp absent)

theorem mem_entries_insert {map : OrderedMap κ υ} (mem : entry ∈ (map.insert key value).entries) :
    entry = (key, value) \/ entry ∈ map.entries := by
  obtain ⟨other, held⟩ := entry
  rw [mem_entries_iff, get?_insert] at mem
  by_cases same : key = other
  · rw [if_pos same, Option.some.injEq] at mem
    exact .inl (by rw [same, mem])
  · rw [if_neg same, <- mem_entries_iff] at mem
    exact .inr mem

theorem keys_insert (key : κ) (value : υ) :
    (map.insert key value).keys = if key ∈ map.keys then map.keys else map.keys ++ [key] :=
  map_fst_put key value map.entries

theorem insert_next {map all : OrderedMap κ υ}
    (entries : all.entries = map.entries ++ (key, value) :: rest) :
    map.get? key = none /\ all.entries = (map.insert key value).entries ++ rest := by
  have nodup := all.distinct
  rw [entries, map_append, map_cons] at nodup
  have absent : map.get? key = none := by
    rw [get?_eq_none_iff]
    intro mem
    exact (nodup_append.mp nodup).2.2 key mem key (.head _) rfl
  refine ⟨absent, ?_⟩
  rw [entries, map.entries_insert_of_absent value absent, append_assoc]
  rfl

theorem get?_mapValues (f : κ -> υ -> ω) (key : κ) :
    (map.mapValues f).get? key = (map.get? key).map (f key) := by
  obtain ⟨entries, nodup⟩ := map
  simp only [get?, mapValues]
  induction entries with
  | nil => rfl
  | cons entry rest ih =>
    obtain ⟨k, v⟩ := entry
    by_cases same : k = key
    · subst same
      simp only [map_cons, find?, if_true, Option.map_some]
    · simp only [map_cons, find?, if_neg same]
      exact ih (nodup_cons.mp nodup).2

theorem entries_eq_keys_filterMap :
    map.entries = map.keys.filterMap fun key => (map.get? key).map fun value => (key, value) := by
  rw [keys, filterMap_map]
  refine Eq.symm ((filterMap_congr ?_).trans filterMap_some)
  intro entry mem
  have found := (map.mem_entries_iff entry.1 entry.2).mp mem
  simp only [Function.comp_apply, found, Option.map_some]

omit [DecidableEq κ] in
theorem eq_of_entries (same : first.entries = second.entries) : first = second := by
  cases first
  cases second
  simp only at same
  subst same
  rfl

theorem eq_of_keys_get? (sameKeys : first.keys = second.keys)
    (sameValues : ∀ key, first.get? key = second.get? key) : first = second := by
  apply eq_of_entries
  rw [entries_eq_keys_filterMap first, entries_eq_keys_filterMap second, sameKeys]
  exact filterMap_congr fun key _ => by rw [sameValues key]

theorem entries_perm_of_get?_eq (sameValues : ∀ key, first.get? key = second.get? key) :
    first.entries.Perm second.entries := by
  have sub : ∀ entry, entry ∈ first.entries ↔ entry ∈ second.entries := by
    rintro ⟨key, value⟩
    rw [mem_entries_iff, mem_entries_iff, sameValues key]
  exact (perm_ext_iff_of_nodup first.distinct.of_map second.distinct.of_map).mpr sub

/-- The program compares maps by their sizes and by the entries of one of them.
Since keys are distinct, this compares the look-up functions. -/
theorem sameEntries_iff [BEq υ] [LawfulBEq υ] (first second : OrderedMap κ υ) :
    sameEntries (· == ·) first second = true ↔ ∀ key, first.get? key = second.get? key := by
  have reduced : sameEntries (· == ·) first second = true ↔
      first.size = second.size /\ first.entries ⊆ second.entries := by
    rw [sameEntries, Bool.and_eq_true, beq_iff_eq, all_eq_true]
    refine and_congr Iff.rfl ⟨?_, ?_⟩
    · rintro all ⟨key, value⟩ mem
      have kept := all (key, value) mem
      rw [mem_entries_iff]
      cases found : second.get? key with
      | none => simp only [found, Bool.false_eq_true] at kept
      | some other =>
        simp only [found, beq_iff_eq] at kept
        rw [kept]
    · rintro sub ⟨key, value⟩ mem
      have found := (second.mem_entries_iff key value).mp (sub mem)
      simp only [found, beq_self_eq_true]
  rw [reduced]
  constructor
  · rintro ⟨sizes, sub⟩ key
    have permutation := (subperm_of_subset first.distinct.of_map sub).perm_of_length_le
      (Nat.le_of_eq sizes.symm)
    apply Option.ext
    intro value
    rw [<- mem_entries_iff, <- mem_entries_iff]
    exact permutation.mem_iff
  · intro sameValues
    have permutation := entries_perm_of_get?_eq sameValues
    exact ⟨permutation.length_eq, permutation.subset⟩

def insertAll (entries : List (κ × υ)) : OrderedMap κ υ :=
  entries.foldl (fun map (key, value) => map.insert key value) map

theorem insertAll_append (front back : List (κ × υ)) :
    map.insertAll (front ++ back) = (map.insertAll front).insertAll back :=
  foldl_append

theorem ofList_append (front back : List (κ × υ)) :
    ofList (front ++ back) = (ofList front).insertAll back :=
  foldl_append

theorem get?_insertAll (entries : List (κ × υ)) (other : κ) :
    (map.insertAll entries).get? other = ((ofList entries).get? other).or (map.get? other) := by
  induction entries using List.reverseRecOn with
  | nil => rfl
  | append_singleton front entry ih =>
    rw [insertAll_append, ofList_append]
    simp only [insertAll, foldl_cons, foldl_nil] at ih ⊢
    rw [get?_insert, get?_insert, ih]
    split <;> rfl

theorem keys_insertAll (entries : List (κ × υ)) : (map.insertAll entries).keys =
      map.keys ++ (ofList entries).keys.filter fun key => key ∉ map.keys := by
  induction entries using List.reverseRecOn with
  | nil => exact (append_nil _).symm
  | append_singleton front entry ih =>
    rw [insertAll_append, ofList_append]
    simp only [insertAll, foldl_cons, foldl_nil] at ih ⊢
    rw [keys_insert, keys_insert, ih]
    by_cases old : entry.1 ∈ map.keys <;> by_cases new : entry.1 ∈ (ofList front).keys <;>
      simp [old, new, filter_append]

theorem entries_insertAll_of_nodup (entries : List (κ × υ)) (map : OrderedMap κ υ)
    (nodup : (map.keys ++ entries.map Prod.fst).Nodup) :
    (map.insertAll entries).entries = map.entries ++ entries := by
  induction entries generalizing map with
  | nil => exact (append_nil _).symm
  | cons entry rest ih =>
    obtain ⟨key, value⟩ := entry
    have absent : key ∉ map.keys := by
      intro mem
      exact (nodup_append.mp nodup).2.2 key mem key (by simp) rfl
    have added := map.entries_insert_of_absent value ((map.get?_eq_none_iff key).mpr absent)
    have keysAdded : (map.insert key value).keys = map.keys ++ [key] := by
      rw [keys_insert, if_neg absent]
    have later := ih (map.insert key value)
    rw [added, keysAdded, append_assoc, append_assoc] at later
    exact later nodup

theorem entries_ofList_subset (entries : List (κ × υ)) : (ofList entries).entries ⊆ entries := by
  have kept : ∀ map : OrderedMap κ υ, (map.insertAll entries).entries ⊆ map.entries ++ entries := by
    induction entries with
    | nil => exact fun map => subset_append_left _ _
    | cons first rest ih =>
      intro map entry mem
      rcases mem_append.mp (ih (map.insert first.1 first.2) mem) with
        inserted | later
      · rcases mem_entries_insert inserted with new | old
        · exact mem_append_right _ (mem_cons.mpr (.inl new))
        · exact mem_append_left _ old
      · exact mem_append_right _ (.tail _ later)
  exact kept empty

theorem entries_ofList_of_nodup (nodup : (entries.map Prod.fst).Nodup) :
    (ofList entries).entries = entries :=
  entries_insertAll_of_nodup entries empty nodup

theorem insertAll_entries_ofList (entries : List (κ × υ)) :
    map.insertAll (ofList entries).entries = map.insertAll entries := by
  have same : ofList (ofList entries).entries = ofList entries :=
    eq_of_entries (entries_ofList_of_nodup (ofList entries).distinct)
  refine eq_of_keys_get? ?_ fun key => ?_
  · rw [keys_insertAll, keys_insertAll, same]
  · rw [get?_insertAll, get?_insertAll, same]
end RouteDocs.OrderedMap
