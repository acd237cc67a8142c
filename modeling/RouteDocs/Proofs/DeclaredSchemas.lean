import RouteDocs.Proofs.Compilation

namespace RouteDocs
open List OrderedMap

/-!
# Compiling declarations is translating them

After a compilation, the table holds the definitions of the declared types, and each reads as it is
written. A definition has an owner, the declared type it comes from, and that of a variant has a
tag in addition. An owner makes one definition for each tag, so conflicts come from nothing but
names that coincide.
-/

def Declaration.Written.missingStatuses (name : String) (written : Written) : List String :=
  (written.variants.filter fun variant => variant.status?.isNone).map fun variant =>
    Schema.missingStatus name variant.name

namespace Declarations
open Declaration Schema

variable (decls : Declarations)

def written? (name : String) : Option Written := (decls.types.get? name).bind Written.ofSpec?

def DeclaresVariant (union : String) (variant : WrittenVariant) : Prop :=
  ∃ written, decls.written? union = some written /\ variant ∈ written.variants

/-- The schema of some variant has the name of a declared type, or that of another
variant's schema. -/
def NamesCoincide : Prop := ∃ union variant, decls.DeclaresVariant union variant /\
    (variantName union variant.name ∈ decls.types.keys \/
      ∃ otherUnion otherVariant, decls.DeclaresVariant otherUnion otherVariant /\
        (otherUnion, otherVariant.name) ≠ (union, variant.name) /\
        variantName otherUnion otherVariant.name = variantName union variant.name)

def missingStatuses : List String := decls.types.keys.flatMap fun name =>
    ((decls.written? name).map (Written.missingStatuses name)).getD []

variable {decls}

structure Defined (decls : Declarations) (defns : List Definition)
    (ofType : String -> List Definition) : Prop where
  members : ∀ defn, defn ∈ defns ↔ ∃ name ∈ decls.types.keys, defn ∈ ofType name
  reads : ∀ name ∈ decls.types.keys, ∃ written, decls.written? name = some written /\
    written.Reads name (ofType name)

section
variable {defns : List Definition} {ofType : String -> List Definition} {name : String}

theorem mem_keys_of_written? (found : decls.written? name = some written) :
    name ∈ decls.types.keys := by
  rw [mem_keys_iff]
  obtain ⟨spec, listed, -⟩ := Option.bind_eq_some_iff.mp found
  exact ⟨spec, listed⟩

section
variable (defined : decls.Defined defns ofType)

include defined

theorem Defined.variant {variant : WrittenVariant}
    (declares : decls.DeclaresVariant union variant) :
    ∃ defn ∈ defns, defn.name = variantName union variant.name /\
      tag? defn.node = some variant.name /\ defn.node.toJson = variant.schema := by
  obtain ⟨written, found, listed⟩ := declares
  have declared := mem_keys_of_written? found
  obtain ⟨other, foundOther, reads⟩ := defined.reads union declared
  obtain rfl : written = other := Option.some.inj (found.symm.trans foundOther)
  obtain ⟨defn, mem, tagged, schema⟩ := reads.variants variant listed
  have named := reads.named defn mem
  rw [tagged] at named
  exact ⟨defn, (defined.members defn).mpr ⟨union, declared, mem⟩, named, tagged, schema⟩

theorem Defined.type (declared : name ∈ decls.types.keys) :
    ∃ written, decls.written? name = some written /\ ∃ defn ∈ defns,
      defn.name = name /\ tag? defn.node = none /\ defn.node.toJson = written.schema name := by
  obtain ⟨written, found, reads⟩ := defined.reads name declared
  obtain ⟨defn, mem, untagged, schema⟩ := reads.itself
  have named := reads.named defn mem
  rw [untagged] at named
  exact ⟨written, found, defn, (defined.members defn).mpr ⟨name, declared, mem⟩,
    named, untagged, schema⟩

theorem Defined.cases (mem : defn ∈ defns) : ∃ owner ∈ decls.types.keys, defn ∈ ofType owner /\
      ((tag? defn.node = none /\ defn.name = owner) \/
        ∃ variant, decls.DeclaresVariant owner variant /\ tag? defn.node = some variant.name /\
          defn.name = variantName owner variant.name) := by
  obtain ⟨owner, declared, listed⟩ := (defined.members defn).mp mem
  obtain ⟨written, found, reads⟩ := defined.reads owner declared
  have named := reads.named defn listed
  refine ⟨owner, declared, listed, ?_⟩
  cases tagged : tag? defn.node with
  | none =>
    rw [tagged] at named
    exact .inl ⟨rfl, named⟩
  | some tag =>
    rw [tagged] at named
    obtain ⟨variant, variantListed, rfl⟩ := reads.listed defn listed tag tagged
    exact .inr ⟨variant, ⟨written, found, variantListed⟩, rfl, named⟩

theorem Defined.named_iff (name : String) : (∃ defn ∈ defns, defn.name = name) ↔
      name ∈ decls.types.keys \/ ∃ union variant,
        decls.DeclaresVariant union variant /\ name = variantName union variant.name := by
  constructor
  · rintro ⟨defn, mem, rfl⟩
    obtain ⟨owner, declared, -, ⟨-, named⟩ | ⟨variant, declares, -, named⟩⟩ := defined.cases mem
    · rw [named]
      exact .inl declared
    · exact .inr ⟨owner, variant, declares, named⟩
  · rintro (declared | ⟨union, variant, declares, rfl⟩)
    · obtain ⟨-, -, defn, mem, named, -, -⟩ := defined.type declared
      exact ⟨defn, mem, named⟩
    · obtain ⟨defn, mem, named, -, -⟩ := defined.variant declares
      exact ⟨defn, mem, named⟩

theorem Defined.unique (declared : owner ∈ decls.types.keys) (one : first ∈ ofType owner)
    (other : second ∈ ofType owner) (sameTag : tag? first.node = tag? second.node) :
    first = second := by
  obtain ⟨written, -, reads⟩ := defined.reads owner declared
  exact reads.unique first one second other sameTag

theorem Defined.conflicting_iff : (∃ name, Conflicting defns name) ↔ decls.NamesCoincide := by
  constructor
  · rintro ⟨name, first, firstMember, second, secondMember, rfl, sameName, differ⟩
    obtain ⟨owner, declared, listed, kind⟩ := defined.cases firstMember
    obtain ⟨other, otherDeclared, otherListed, otherKind⟩ := defined.cases secondMember
    -- Definitions of the same owner with the same tag do not differ.
    have apart : ¬ (owner = other /\ tag? first.node = tag? second.node) := by
      rintro ⟨rfl, sameTag⟩
      rw [defined.unique declared listed otherListed sameTag] at differ
      exact second.not_disagrees_self differ
    rcases kind with ⟨untagged, named⟩ | ⟨variant, declares, tagged, named⟩ <;>
      rcases otherKind with ⟨otherUntagged, otherNamed⟩ |
        ⟨otherVariant, otherDeclares, otherTagged, otherNamed⟩
    · exact absurd ⟨named.symm.trans (sameName.symm.trans otherNamed),
        untagged.trans otherUntagged.symm⟩ apart
    · refine ⟨other, otherVariant, otherDeclares, .inl ?_⟩
      rw [<- otherNamed, sameName, named]
      exact declared
    · refine ⟨owner, variant, declares, .inl ?_⟩
      rw [<- named, <- sameName, otherNamed]
      exact otherDeclared
    · refine ⟨owner, variant, declares, .inr ⟨other, otherVariant, otherDeclares, ?_, ?_⟩⟩
      · intro same
        have parts := Prod.mk.inj same
        exact apart ⟨parts.1.symm, by rw [tagged, otherTagged, parts.2]⟩
      · rw [<- otherNamed, sameName, named]
  · rintro ⟨union, variant, declares, coincide⟩
    obtain ⟨defn, mem, named, tagged, -⟩ := defined.variant declares
    rcases coincide with declared | ⟨otherUnion, otherVariant, otherDeclares, ne, same⟩
    · obtain ⟨-, -, type, typeMember, typeNamed, untagged, -⟩ := defined.type declared
      refine ⟨_, defn, mem, type, typeMember, named, typeNamed, .inl fun equal => ?_⟩
      rw [equal, untagged] at tagged
      cases tagged
    · obtain ⟨other, otherMember, otherNamed, otherTagged, -⟩ := defined.variant otherDeclares
      refine ⟨_, defn, mem, other, otherMember, named, otherNamed.trans same,
        .inl fun equal => ne ?_⟩
      rw [equal, otherTagged, Option.some.injEq] at tagged
      rw [tagged] at same
      rw [variantName_left_inj same, tagged]
end
end

section
variable {name : String} {type : Descriptor}

theorem get?_specs (found : decls.specs.get? name = some value) :
    ∃ spec, decls.types.get? name = some spec /\ value = .map spec := by
  unfold specs at found
  rw [get?_mapValues] at found
  obtain ⟨spec, listed, same⟩ := Option.map_eq_some_iff.mp found
  exact ⟨spec, listed, same.symm⟩

theorem describes_of_completed (coherent : Coherent decls.specs cache)
    (completed : cache.get? name = some type) :
    ∃ written, decls.written? name = some written /\ written.Describes Names name type := by
  obtain ⟨value, spec, written, listed, opened, read, described⟩ :=
    (coherent name type completed).written
  obtain ⟨found, declared, rfl⟩ := get?_specs listed
  obtain rfl : found = spec := by injection opened
  refine ⟨written, ?_, described.mono coherent.names⟩
  rw [written?, declared]
  exact read

theorem ownWarnings_of_described {written : Written} (described : written.Describes Names name type) :
    type.ownWarnings = written.missingStatuses name := by
  cases written with
  | struct fields about =>
    obtain ⟨members, rfl, -⟩ := described
    rfl
  | union variants =>
    obtain ⟨members, rfl, each⟩ := described
    unfold Descriptor.ownWarnings Written.missingStatuses Written.variants
    dsimp only
    induction each with
    | nil => rfl
    | @cons written variant _ _ here _ ih =>
      rw [flatMap_cons, ih, filter_cons, Variant.warnings, status?_of_doc here.doc, here.name]
      cases written.status? <;> rfl
end

section
variable {progress : Progress}

def remembered (registry : Registry) (name : String) : List Definition :=
  ((registry.memo.get? name).map Descriptor.ownDefinitions).getD []

theorem remembered_eq (found : registry.memo.get? name = some type) :
    remembered registry name = type.ownDefinitions := by
  rw [remembered, found]
  rfl

theorem exists_defined (compiled : Compiled decls.specs progress)
    (complete : ∀ name ∈ decls.types.keys, ∃ type, progress.registry.memo.get? name = some type) :
    ∃ defns, progress.registry.table.Holds defns /\
      decls.Defined defns (remembered progress.registry) := by
  obtain ⟨built, accounted⟩ := compiled.accounted
  refine ⟨_, accounted.reflects.table, fun defn => ?_, fun name declared => ?_⟩
  · rw [mem_flatMap]
    constructor
    · rintro ⟨type, mem, listed⟩
      have completed := accounted.drawn type mem
      obtain ⟨written, found, -⟩ := describes_of_completed compiled.coherent completed
      have declared := mem_keys_of_written? found
      obtain ⟨other, memo⟩ := complete type.typeName declared
      obtain rfl : other = type :=
        Option.some.inj ((accounted.memo _ other memo).symm.trans completed)
      refine ⟨_, declared, ?_⟩
      rw [remembered_eq memo]
      exact listed
    · rintro ⟨name, declared, listed⟩
      obtain ⟨type, memo⟩ := complete name declared
      rw [remembered_eq memo] at listed
      have settled := compiled.coherent name type (accounted.memo name type memo)
      exact ⟨type, accounted.reflects.memo name type memo (Descriptor.mem_types_self settled.isType),
        listed⟩
  · obtain ⟨type, memo⟩ := complete name declared
    have completed := accounted.memo name type memo
    have isType := (compiled.coherent name type completed).isType
    obtain ⟨written, found, described⟩ := describes_of_completed compiled.coherent completed
    refine ⟨written, found, ?_⟩
    rw [remembered_eq memo]
    refine described.reads (accounted.reflects.sound type ?_)
    exact accounted.reflects.memo name type memo (Descriptor.mem_types_self isType)

theorem warnings_perm (compiled : Compiled decls.specs progress)
    (complete : ∀ name ∈ decls.types.keys, ∃ type, progress.registry.memo.get? name = some type) :
    progress.registry.table.warnings.Perm decls.missingStatuses := by
  obtain ⟨built, accounted⟩ := compiled.accounted
  have described : ∀ name type, progress.registry.memo.get? name = some type ->
      ∃ written, decls.written? name = some written /\ written.Describes Names name type :=
    fun name type memo => describes_of_completed compiled.coherent (accounted.memo name type memo)
  have sameKeys : progress.registry.memo.keys.Perm decls.types.keys := by
    refine (perm_ext_iff_of_nodup progress.registry.memo.distinct
      decls.types.distinct).mpr fun name => ?_
    constructor
    · intro known
      obtain ⟨type, memo⟩ := (mem_keys_iff _ name).mp known
      obtain ⟨written, found, -⟩ := described name type memo
      exact mem_keys_of_written? found
    · intro declared
      exact (mem_keys_iff _ name).mpr (complete name declared)
  have ofKeys : progress.registry.memo.values.flatMap Descriptor.ownWarnings =
      progress.registry.memo.keys.flatMap fun name =>
        ((decls.written? name).map (Written.missingStatuses name)).getD [] := by
    rw [values, OrderedMap.keys, flatMap_map, flatMap_map]
    refine flatMap_congr fun entry mem => ?_
    obtain ⟨written, found, stands⟩ := described entry.1 entry.2 ((mem_entries_iff _ _ _).mp mem)
    rw [found, ownWarnings_of_described stands]
    rfl
  refine accounted.warnings.trans ?_
  change (progress.registry.memo.values.flatMap Descriptor.ownWarnings).Perm _
  rw [ofKeys]
  exact sameKeys.flatMap_right _
end

/-- A compilation that succeeds translates every type on its own. The table has a conflict
exactly if names of schemas coincide. If it has none, it holds a schema for every
declared type and for every declared variant, each as it is written, and nothing else.
There is one warning for every variant without a valid status. -/
theorem compiled_as_written {patterns : List String} {progress : Progress}
    (succeeds : Yields (Compilation.register declarations patterns) {} () progress) :
    (progress.registry.table.conflicts ≠ [] ↔ declarations.NamesCoincide) /\
    (progress.registry.table.conflicts = [] -> (∀ name, name ∈ progress.registry.table.schemas.keys ↔
        name ∈ declarations.types.keys \/
          ∃ union variant, declarations.DeclaresVariant union variant /\
            name = variantName union variant.name) /\
      (∀ name ∈ declarations.types.keys, ∃ written node, declarations.written? name = some written /\
          progress.registry.table.get? name = some node /\ node.toJson = written.schema name) /\
      ∀ union variant, declarations.DeclaresVariant union variant -> ∃ node,
        progress.registry.table.get? (variantName union variant.name) = some node /\
          node.toJson = variant.schema) /\
    progress.registry.table.warnings.Perm declarations.missingStatuses := by
  obtain ⟨compiled, complete⟩ := compiled_of_register succeeds
  obtain ⟨definitions, holds, defined⟩ := exists_defined compiled complete
  refine ⟨?_, fun noConflicts => ?_, warnings_perm compiled complete⟩
  · rw [<- defined.conflicting_iff, <- exists_congr holds.conflicts]
    exact ⟨exists_mem_of_ne_nil _, fun ⟨_, recorded⟩ => ne_nil_of_mem recorded⟩
  · have inTable : ∀ definition ∈ definitions,
        progress.registry.table.get? definition.name = some definition.node := by
      intro definition mem
      rw [holds.schemas]
      refine firstNode?_of_mem mem fun conflicting => ?_
      have recorded := (holds.conflicts _).mpr conflicting
      rw [noConflicts] at recorded
      exact not_mem_nil recorded
    refine ⟨fun name => ?_, fun name declared => ?_, fun union variant declares => ?_⟩
    · rw [mem_keys_iff]
      change (∃ node, progress.registry.table.get? name = some node) ↔ _
      rw [holds.schemas, firstNode?_isSome_iff]
      exact defined.named_iff name
    · obtain ⟨written, found, definition, mem, rfl, -, schema⟩ := defined.type declared
      exact ⟨written, definition.node, found, inTable definition mem, schema⟩
    · obtain ⟨definition, mem, named, -, schema⟩ := defined.variant declares
      rw [<- named]
      exact ⟨definition.node, inTable definition mem, schema⟩

/-- Folders whose entries are folders again, and a route that starts at the entries. -/
def folders : Declarations where
  types := .ofList [ ("Folder", [(.text "fields", .map [(.text "entries", .text "list[Entry]")])]),
    ("Entry", [(.text "variants", .map [
      (.text "Nested", .map [(.text "fields", .map [(.text "inner", .text "Folder")])]),
      (.text "Gone", .text "410")])])]
  routes := [{ method := "GET", path := "/entries", response? := some "Entry" }]

theorem compiled_as_written_folders : ∃ progress,
    Yields (Compilation.register folders []) {} () progress /\ ¬ folders.NamesCoincide /\
      (∀ name ∈ ["Folder", "Entry"], ∃ written node, folders.written? name = some written /\
        progress.registry.table.get? name = some node /\ node.toJson = written.schema name) /\
      progress.registry.table.warnings.Perm [Schema.missingStatus "Entry" "Nested"] := by
  have succeeds : Yields (Compilation.register folders []) {} ()
      ((Compilation.register folders []).run.run {}).2 := Prod.ext (by decide +kernel) rfl
  have noConflicts : ((Compilation.register folders []).run.run {}).2.registry.table.conflicts = [] := by
    decide +kernel
  have warned : folders.missingStatuses = [Schema.missingStatus "Entry" "Nested"] := by
    decide +kernel
  obtain ⟨conflicts, schemas, warnings⟩ := compiled_as_written succeeds
  rw [warned] at warnings
  exact ⟨_, succeeds, fun coincide => conflicts.mpr coincide noConflicts,
    (schemas noConflicts).2.1, warnings⟩
end Declarations
end RouteDocs
