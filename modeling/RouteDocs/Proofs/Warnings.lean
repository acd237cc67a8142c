import RouteDocs.Proofs.ConflictDetection

namespace RouteDocs.Schema
open List

/-!
# What is remembered and warned about

If every name stands for one type only, then a type is built at most once, so the warnings in the
table are those of the types in the memo, each given once. `Session.Adds` keeps the account of a
step. Warnings are compared up to their order, because those of a union are given before it is
complete, in between those of the types inside it.
-/

def Variant.warnings (union : String) (variant : Variant) : List String :=
  if variant.status?.isSome then [] else [missingStatus union variant.name]

def Descriptor.ownWarnings : Descriptor -> List String
  | .union name variants => variants.flatMap (Variant.warnings name)
  | _ => []

structure Session.Adds (pre post : Session) (added : List Descriptor) (warned : List String) :
    Prop where
  memo : post.memo.entries = pre.memo.entries ++ added.map fun type => (type.typeName, type)
  warnings : post.table.warnings.Perm (pre.table.warnings ++ warned)

section
variable {pre mid post : Session} {first second : List Descriptor}
  {warned further : List String}

theorem Session.Adds.refl (sess : Session) : sess.Adds sess [] [] where
  memo := (append_nil _).symm
  warnings := by rw [append_nil]

theorem Session.Adds.trans (one : pre.Adds mid first warned)
    (other : mid.Adds post second further) :
    pre.Adds post (first ++ second) (warned ++ further) where
  memo := by rw [other.memo, one.memo, map_append, append_assoc]
  warnings := by
    rw [<- append_assoc]
    exact other.warnings.trans (one.warnings.append_right further)

theorem Session.Adds.perm (adds : pre.Adds post first warned) (same : warned.Perm further) :
    pre.Adds post first further :=
  ⟨adds.memo, adds.warnings.trans (same.append_left _)⟩

theorem Session.adds_noted (sess : Session) (union : String) (variant : Variant) :
    sess.Adds (sess.noted union variant) [] (variant.warnings union) := by
  unfold Session.noted Variant.warnings
  split
  · exact .refl sess
  · exact ⟨(append_nil _).symm, .refl _⟩
end

def Drawn (known : String -> Option Descriptor) (types : List Descriptor) : Prop :=
  ∀ type ∈ types, known type.typeName = some type

def Session.MemoDrawn (known : String -> Option Descriptor) (sess : Session) : Prop :=
  ∀ name type, sess.memo.get? name = some type -> known name = some type

section
variable {known : String -> Option Descriptor} {pre post : Session} {added : List Descriptor}
  {warned : List String} {type : Descriptor}

theorem Session.Adds.mem_memo (adds : pre.Adds post added warned)
    (found : post.memo.get? name = some type) :
    pre.memo.get? name = some type \/ (type ∈ added /\ type.typeName = name) := by
  rw [<- OrderedMap.mem_entries_iff, adds.memo] at found
  rcases mem_append.mp found with old | new
  · exact .inl ((pre.memo.mem_entries_iff name type).mp old)
  · obtain ⟨other, listed, same⟩ := mem_map.mp new
    cases same
    exact .inr ⟨listed, rfl⟩

theorem Session.Adds.memo_kept (adds : pre.Adds post added warned)
    (found : pre.memo.get? name = some type) : post.memo.get? name = some type := by
  rw [<- OrderedMap.mem_entries_iff] at found ⊢
  rw [adds.memo]
  exact mem_append_left _ found

theorem Session.MemoDrawn.adds (drawn : pre.MemoDrawn known)
    (adds : pre.Adds post added warned) (new : Drawn known added) : post.MemoDrawn known := by
  intro name type found
  rcases adds.mem_memo found with old | ⟨listed, rfl⟩
  · exact drawn name type old
  · exact new type listed

theorem Session.Adds.complete (type : Descriptor) (adds : pre.Adds mid added warned)
    (sub : added ⊆ inside) (unnested : type.typeName ∉ inside.map Descriptor.typeName)
    (absent : pre.memo.get? type.typeName = none)
    (memo : post.memo = (mid.remember type.typeName type).memo)
    (warnings : post.table.warnings = mid.table.warnings) :
    added ++ [type] ⊆ inside ++ [type] /\ pre.Adds post (added ++ [type]) warned := by
  have fresh : type.typeName ∉ added.map Descriptor.typeName := fun repeated =>
    unnested (map_subset _ sub repeated)
  have missing : mid.memo.get? type.typeName = none := by
    cases found : mid.memo.get? type.typeName with
    | none => rfl
    | some other =>
      rcases adds.mem_memo found with old | ⟨listed, same⟩
      · rw [absent] at old
        cases old
      · exact absurd (same ▸ mem_map_of_mem listed) fresh
  have opened : post.memo = mid.memo.insert type.typeName type := by
    have unknown : mid.memo.contains type.typeName = false := by
      rw [OrderedMap.contains, missing]
      rfl
    rw [memo, Session.remember, unknown]
    rfl
  refine ⟨?_, ?_, ?_⟩
  · exact append_subset.mpr ⟨subset_append_of_subset_left _ sub, subset_append_right _ _⟩
  · rw [opened, mid.memo.entries_insert_of_absent type missing, adds.memo, map_append, append_assoc]
    rfl
  · rw [warnings]
    exact adds.warnings
end

theorem warnings_foldl_enter (defns : List Definition) (table : Table) :
    (defns.foldl Table.enter table).warnings = table.warnings := by
  induction defns generalizing table with
  | nil => rfl
  | cons defn rest ih =>
    rw [foldl_cons, ih]
    exact (table.enter_frame defn).1

namespace Synthesis
variable {known : String -> Option Descriptor}

theorem append_subset_append {first second third fourth : List Descriptor} (one : first ⊆ third)
    (other : second ⊆ fourth) : first ++ second ⊆ third ++ fourth :=
  append_subset.mpr ⟨subset_append_of_subset_left _ one, subset_append_of_subset_right _ other⟩

theorem absent_of_ne {pre : Session} (memo : pre.MemoDrawn known)
    (drawn : known type.typeName = some type) (unknown : pre.memo.get? type.typeName ≠ some type) :
    pre.memo.get? type.typeName = none := by
  cases found : pre.memo.get? type.typeName with
  | none => rfl
  | some other =>
    have same := (memo _ other found).symm.trans drawn
    rw [found, same] at unknown
    exact absurd rfl unknown

def Part.warnings : Part -> List String
  | .variants union listed => listed.flatMap (Variant.warnings union)
  | _ => []

theorem warnings_content (type : Descriptor) : (content type).warnings = type.ownWarnings := by
  cases type <;> rfl

theorem Runs.adds {active : List (String × Descriptor)} (runs : Runs active part pre post)
    (drawn : Drawn known part.types) (memo : pre.MemoDrawn known) (free : Free active part.types)
    (unnested : NoneNested part.types) : ∃ added, added ⊆ part.types /\
      pre.Adds post added (added.flatMap Descriptor.ownWarnings ++ part.warnings) := by
  induction runs with
  | primitive | named | noFields | noVariants | remembered => exact ⟨[], nil_subset _, .refl _⟩
  | optional _ ih | sequence _ ih => exact ih drawn memo free unnested
  | inside isType around =>
    rw [free _ (Descriptor.mem_types_self isType)] at around
    cases around
  | @built _ type _ mid _ isType _ unknown _ _ table remembered ih =>
    have itself := Descriptor.mem_types_self isType
    have within := Free.within isType free unnested
    have absent := absent_of_ne memo (drawn _ itself) unknown
    have alone := unnested _ itself
    rw [Part.types, Descriptor.types_of_isType isType] at drawn unnested ⊢
    rw [types_content, warnings_content] at ih
    obtain ⟨added, sub, adds⟩ := ih (forall_mem_append.mp drawn).1 memo within
      (forall_mem_append.mp unnested).1
    have warnings : _ = mid.table.warnings :=
      (congrArg Table.warnings table).trans (warnings_foldl_enter _ _)
    obtain ⟨allIncluded, allAdded⟩ := adds.complete type sub alone absent remembered warnings
    refine ⟨_, allIncluded, ?_⟩
    rw [flatMap_append]
    exact allAdded.perm (by simp [Part.warnings])
  | field _ _ here later =>
    obtain ⟨first, firstIncluded, firstAdds⟩ := here (forall_mem_append.mp drawn).1 memo
      (forall_mem_append.mp free).1 (forall_mem_append.mp unnested).1
    obtain ⟨others, othersIncluded, othersAdd⟩ := later (forall_mem_append.mp drawn).2
      (memo.adds firstAdds fun inner mem => drawn inner (mem_append_left _ (firstIncluded mem)))
      (forall_mem_append.mp free).2 (forall_mem_append.mp unnested).2
    refine ⟨first ++ others, append_subset_append firstIncluded othersIncluded, ?_⟩
    rw [flatMap_append]
    exact (firstAdds.trans othersAdd).perm (by simp [Part.warnings])
  | @variant _ union name fields doc _ pre _ _ _ _ here later =>
    have noting := pre.adds_noted union ⟨name, fields, doc⟩
    have memoNoted := memo.adds noting (forall_mem_nil _)
    obtain ⟨first, firstIncluded, firstAdds⟩ := here (forall_mem_append.mp drawn).1 memoNoted
      (forall_mem_append.mp free).1 (forall_mem_append.mp unnested).1
    obtain ⟨others, othersIncluded, othersAdd⟩ := later (forall_mem_append.mp drawn).2
      (memoNoted.adds firstAdds fun inner mem =>
        drawn inner (mem_append_left _ (firstIncluded mem)))
      (forall_mem_append.mp free).2 (forall_mem_append.mp unnested).2
    refine ⟨first ++ others, append_subset_append firstIncluded othersIncluded, ?_⟩
    rw [Part.warnings, flatMap_append, flatMap_cons]
    -- The warning of the variant comes before those of the types in its fields.
    refine ((noting.trans firstAdds).trans othersAdd).perm ?_
    dsimp only [Part.warnings]
    rw [append_nil, append_assoc, append_assoc]
    exact (perm_append_comm_assoc _ _ _).trans ((perm_append_comm_assoc _ _ _).append_left _)

theorem Runs.remembers (runs : Runs active (.type type) pre post) (isType : type.isType = true)
    (free : active.lookup type.typeName = none) :
    ∃ other, post.memo.get? type.typeName = some other := by
  cases runs with
  | inside _ around =>
    rw [free] at around
    cases around
  | remembered _ found => exact ⟨type, found⟩
  | @built _ _ _ mid _ _ _ _ _ _ _ memo =>
    rw [memo, Session.get?_memo_remember, if_pos rfl]
    cases mid.memo.get? type.typeName with
    | none => exact ⟨type, rfl⟩
    | some other => exact ⟨other, rfl⟩
  | _ => cases isType
end Synthesis

/-- A session in which every name stands for one type: what it has built, what it
remembers, and what it has warned about. -/
structure Session.Accounted (known : String -> Option Descriptor) (sess : Session)
    (built : List Descriptor) : Prop where
  reflects : sess.Reflects built
  drawn : Drawn known built
  memo : sess.MemoDrawn known
  warnings : sess.table.warnings.Perm (sess.memo.values.flatMap Descriptor.ownWarnings)

namespace Session.Accounted
variable {known : String -> Option Descriptor} {sess post : Session} {built : List Descriptor}

theorem start (known : String -> Option Descriptor) : ({} : Session).Accounted known [] where
  reflects := .start
  drawn := nofun
  memo := nofun
  warnings := .refl _

theorem mono (accounted : sess.Accounted known built)
    (more : ∀ name type, known name = some type -> further name = some type) :
    sess.Accounted further built where
  reflects := accounted.reflects
  drawn := fun type mem => more _ type (accounted.drawn type mem)
  memo := fun name type found => more name type (accounted.memo name type found)
  warnings := accounted.warnings

theorem congr {other : Session} (accounted : sess.Accounted known built)
    (table : other.table = sess.table) (memo : other.memo = sess.memo) :
    other.Accounted known built where
  reflects := by
    refine ⟨?_, accounted.reflects.sound, ?_⟩
    · rw [table]
      exact accounted.reflects.table
    · rw [memo]
      exact accounted.reflects.memo
  drawn := accounted.drawn
  memo := by
    unfold Session.MemoDrawn
    rw [memo]
    exact accounted.memo
  warnings := by
    rw [table, memo]
    exact accounted.warnings

theorem ofDescriptor (accounted : sess.Accounted known built) (isType : type.isType = true)
    (drawn : Drawn known type.types) (unnested : NoneNested type.types)
    (yields : Yields (Synthesis.ofDescriptor type) sess shape post) :
    post.Accounted known (built ++ type.types) /\ post.memo.get? type.typeName = some type /\
      ∀ name other, sess.memo.get? name = some other -> post.memo.get? name = some other := by
  have runs := (Synthesis.runs_of_node type yields).2.2
  have reflects := runs.reflects accounted.reflects (fun _ _ => rfl) unnested
  obtain ⟨added, sub, adds⟩ := runs.adds drawn accounted.memo (fun _ _ => rfl) unnested
  simp only [Synthesis.Part.warnings, append_nil] at adds
  have memo := accounted.memo.adds adds fun inner mem => drawn inner (sub mem)
  have remembered : post.memo.get? type.typeName = some type := by
    obtain ⟨other, found⟩ := runs.remembers isType rfl
    rw [found, <- memo _ other found, drawn type (Descriptor.mem_types_self isType)]
  refine ⟨⟨reflects, ?_, memo, ?_⟩, remembered, fun name other => adds.memo_kept⟩
  · exact forall_mem_append.mpr ⟨accounted.drawn, drawn⟩
  · have values : post.memo.values = sess.memo.values ++ added := by
      unfold OrderedMap.values
      rw [adds.memo, map_append, map_map]
      exact congrArg _ (map_id _)
    rw [values, flatMap_append]
    exact adds.warnings.trans (accounted.warnings.append_right _)
end Session.Accounted
end RouteDocs.Schema
