import RouteDocs.Proofs.ClassDescriptions
import RouteDocs.Proofs.ConflictDetection

namespace RouteDocs
open List RouteDocs.Class Schema Catalog

/-!
# Conflicts of classes with themselves

A class is described again inside of every class that refers to it, and cut off inside of itself.
The definitions of all descriptions agree as long as no union refers to itself through another
class. If one does, the other class is defined with a reference to a union and with one to a name.
-/

namespace Class.Catalog
variable (cat : Catalog) (hints : Nat -> List FieldHint)

def variantNameOf : VariantClass -> String
  | .object => Builtin.object.name
  | .declared number => cat.nameOf (.declared number)

def schemaNames : Subject -> List String
  | .builtin class_ => [class_.name]
  | .declared number =>
    match cat.declared? number with
    | none => []
    | some profile =>
      profile.name :: if profile.isErrorUnion then
          profile.variants.map fun variant => variantName profile.name (cat.variantNameOf variant)
        else []

def NamesApart (known : Subject -> Prop) : Prop :=
  ∀ first second, known first -> known second -> ∀ name ∈ cat.schemaNames first,
    name ∈ cat.schemaNames second -> first = second

/-- A union refers to another class, and this class refers back to the union. -/
structure ReturnsThrough (union other : Nat) : Prop where
  isUnion : ∃ profile, cat.declared? union = some profile /\ profile.isErrorUnion = true
  different : other ≠ union
  reaches : Relation.TransGen (cat.Leads hints) union other
  returns : cat.Leads hints other union
end Class.Catalog

namespace Class
variable {cat : Catalog} {hints : Nat -> List FieldHint} {kept : Memory -> Prop}
  {known : Subject -> Prop}

theorem Catalog.NamesApart.differ (apart : cat.NamesApart known)
    (settled : cat.Settled kept hints known) : cat.NamesDiffer known := by
  have named : ∀ subject, known subject -> cat.nameOf subject ∈ cat.schemaNames subject := by
    intro subject isKnown
    cases subject with
    | builtin class_ => exact .head _
    | declared number =>
      obtain ⟨profile, declared⟩ := settled.declared number isKnown
      simp only [nameOf, schemaNames, declared, Option.map_some, Option.getD_some]
      exact .head _
  intro first second firstKnown secondKnown sameName
  refine apart first second firstKnown secondKnown _ (named first firstKnown) ?_
  rw [sameName]
  exact named second secondKnown

theorem name_outline (variant : VariantClass) (standIn : Subject -> Descriptor) :
    (variant.outline cat hints standIn).name = cat.variantNameOf variant := by
  cases variant with
  | object => rfl
  | declared number =>
    simp only [VariantClass.outline, variantNameOf, nameOf]
    cases cat.declared? number <;> rfl

theorem name_mem_schemaNames (settled : cat.Settled kept hints known) (isKnown : known subject)
    (defined : defn ∈ (cat.statement hints around subject).ownDefinitions) :
    defn.name ∈ cat.schemaNames subject := by
  cases subject with
  | builtin class_ =>
    rw [mem_singleton.mp defined]
    exact .head _
  | declared number =>
    obtain ⟨profile, declared⟩ := settled.declared number isKnown
    simp only [statement, schemaNames, declared] at defined ⊢
    cases isUnion : profile.isErrorUnion with
    | false =>
      rw [outline_of_struct declared isUnion] at defined
      rw [mem_singleton.mp defined]
      exact .head _
    | true =>
      rw [outline_of_union declared isUnion, Descriptor.ownDefinitions, unionDefinitions] at defined
      rw [if_pos rfl]
      rcases mem_append.mp defined with variant | itself
      · simp only [mem_map] at variant
        obtain ⟨_, ⟨_, ⟨class_, listed, rfl⟩, rfl⟩, rfl⟩ := variant
        apply mem_cons_of_mem
        apply mem_map.mpr
        refine ⟨class_, listed, ?_⟩
        rw [<- name_outline class_ (cat.standIn (number :: around))]
        rfl
      · rw [mem_singleton.mp itself]
        exact .head _

/-- A class defines the same inside of others as on its own, if no union refers to itself
through it. -/
theorem ownDefinitions_statement (settled : cat.Settled kept hints known)
    (straight : ∀ union other, known (.declared union) -> ¬ cat.ReturnsThrough hints union other)
    (isKnown : known subject) (chain : ∀ outer ∈ around, subject ≠ .declared outer /\
      ∀ number, subject = .declared number -> Relation.TransGen (cat.Leads hints) outer number) :
    (cat.statement hints around subject).ownDefinitions =
      (cat.statement hints [] subject).ownDefinitions := by
  cases subject with
  | builtin class_ => rfl
  | declared number =>
    apply ownDefinitions_outline_congr
    intro mentioned mentions
    cases mentioned with
    | builtin class_ => rfl
    | declared other =>
      obtain ⟨profile, declared, otherKnown⟩ := settled.mentioned number other isKnown mentions
      simp only [standIn, declared]
      cases isEnum : profile.isEnum with
      | true => rfl
      | false =>
        by_cases isUnion : profile.isErrorUnion = true
        · -- A union around the class that the class mentions would return through it.
          have absent : other ∉ around := by
            intro mem
            refine straight other number (otherKnown isEnum) ⟨⟨profile, declared, isUnion⟩, ?_,
              (chain other mem).2 number rfl, mentions, profile, declared, isEnum⟩
            rintro rfl
            exact (chain number mem).1 rfl
          simp only [isUnion, mem_cons, absent, or_false, not_mem_nil]
        · simp only [isUnion, Bool.false_and]
end Class

namespace Schema
theorem Descriptor.OwnSound.names_nodup {type : Descriptor} (sound : type.OwnSound) :
    (type.ownDefinitions.map Definition.name).Nodup := by
  cases type with
  | struct name fields about => exact nodup_singleton _
  | union name variants =>
    have names : (Descriptor.union name variants).ownDefinitions.map Definition.name =
        (variants.map Variant.name).map (variantName name) ++ [name] := by
      simp only [Descriptor.ownDefinitions, unionDefinitions, map_append, map_map]
      rfl
    rw [names]
    apply nodup_append.mpr
    refine ⟨sound.2.1.map fun _ _ same => variantName_inj.mp same, nodup_singleton _, ?_⟩
    intro variant listed _ itself
    rw [mem_singleton.mp itself]
    obtain ⟨_, -, rfl⟩ := mem_map.mp listed
    intro same
    have lengths := congrArg String.length same
    simp only [variantName, String.length_append] at lengths
    have dot : ".".length = 1 := rfl
    omega
  | primitive | optional | sequence | named => exact nodup_nil
end Schema

namespace Class
theorem not_conflicting (settled : cat.Settled kept hints known) (apart : cat.NamesApart known)
    (straight : ∀ union other, known (.declared union) -> ¬ cat.ReturnsThrough hints union other)
    (stated : AllStated cat hints known [] types) (sound : ∀ type ∈ types, type.OwnSound)
    (name : String) : ¬ Conflicting (types.flatMap Descriptor.ownDefinitions) name := by
  rintro ⟨first, firstMember, second, secondMember, rfl, sameName, differ⟩
  have owner : ∀ defn ∈ types.flatMap Descriptor.ownDefinitions, ∃ subject, known subject /\
      defn ∈ (cat.statement hints [] subject).ownDefinitions /\
      ((cat.statement hints [] subject).ownDefinitions.map Definition.name).Nodup := by
    intro defn mem
    obtain ⟨type, listed, defined⟩ := mem_flatMap.mp mem
    obtain ⟨subject, around, -, isKnown, typeStated, chain⟩ := stated type listed
    have same : type.ownDefinitions = (cat.statement hints [] subject).ownDefinitions :=
      typeStated.defines.trans (ownDefinitions_statement settled straight isKnown chain)
    rw [same] at defined
    refine ⟨subject, isKnown, defined, ?_⟩
    rw [<- same]
    exact (sound type listed).names_nodup
  obtain ⟨subject, isKnown, defined, nodup⟩ := owner first firstMember
  obtain ⟨other, otherKnown, otherDefined, -⟩ := owner second secondMember
  have sameOwner : other = subject := by
    refine apart other subject otherKnown isKnown second.name
      (name_mem_schemaNames settled otherKnown otherDefined) ?_
    rw [sameName]
    exact name_mem_schemaNames settled isKnown defined
  rw [sameOwner] at otherDefined
  rw [inj_on_of_nodup_map nodup defined otherDefined sameName.symm] at differ
  exact second.not_disagrees_self differ

structure Rooted (cat : Catalog) (hints : Nat -> List FieldHint) (known : Subject -> Prop)
    (subject : Subject) (desc : Descriptor) : Prop where
  itself : cat.Stated hints [] subject desc
  stated : AllStated cat hints known [] desc.types
  unnested : NoneNested desc.types
  finds : ∀ number, subject = .declared number -> ∀ target, cat.Finds hints [] number target ->
    ∃ type ∈ desc.types, ∃ around, (target = number \/ number ∈ around) /\
      cat.Stated hints around (.declared target) type

theorem rooted_builtin (class_ : Builtin) (isKnown : known (.builtin class_)) :
    Rooted cat hints known (.builtin class_)
      (.struct class_.name [] (class_.description?.getD "")) := by
  refine ⟨stated_builtin class_ [], ?_, forall_mem_singleton.mpr not_mem_nil, nofun⟩
  exact forall_mem_singleton.mpr ⟨.builtin class_, [], List.Subset.refl _, isKnown,
    stated_builtin class_ [], nofun⟩

/-- If a union refers to itself through another class and both are described on their own, then
the other class is in conflict with itself. -/
theorem conflicting_of_returns (settled : cat.Settled kept hints known)
    (returns : cat.ReturnsThrough hints union other) (otherKnown : known (.declared other))
    (unionRooted : Rooted cat hints known (.declared union) unionDescriptor)
    (otherRooted : Rooted cat hints known (.declared other) otherDescriptor)
    (unionIncluded : unionDescriptor.types ⊆ types)
    (otherIncluded : otherDescriptor.types ⊆ types) :
    ∃ name, Conflicting (types.flatMap Descriptor.ownDefinitions) name := by
  obtain ⟨inside, insideListed, around, same | standsAround, insideStated⟩ :=
    unionRooted.finds union rfl other (finds_of_reaches returns.reaches.to_reflTransGen)
  · exact absurd same returns.different
  obtain ⟨profile, declared⟩ := settled.declared other otherKnown
  obtain ⟨unionProfile, unionDeclared, isUnion⟩ := returns.isUnion
  have described : unionProfile.isEnum = false := by
    obtain ⟨profile, found, notEnumeration⟩ := returns.returns.2
    rw [Option.some.inj (unionDeclared.symm.trans found)]
    exact notEnumeration
  have apart : union ∉ [other] := fun mem => returns.different (mem_singleton.mp mem).symm
  have differ : (cat.standIn (other :: around) (.declared union)).shape.stripOptional ≠
      (cat.standIn [other] (.declared union)).shape.stripOptional := by
    simp only [standIn, unionDeclared, described, isUnion, mem_cons, standsAround, or_true, apart]
    intro impossible
    cases impossible
  obtain ⟨first, firstDefined, second, secondDefined, sameName, nodes⟩ :=
    exists_outline_differ declared (settled.variants other profile otherKnown declared)
      returns.returns.1 differ
  refine ⟨first.name, first, mem_flatMap.mpr ⟨inside, unionIncluded insideListed, ?_⟩,
    second, mem_flatMap.mpr ⟨otherDescriptor,
      otherIncluded (Descriptor.mem_types_self otherRooted.itself.isType), ?_⟩, rfl, sameName.symm,
    .inl nodes⟩
  · rw [insideStated.defines]
    exact firstDefined
  · rw [otherRooted.itself.defines]
    exact secondDefined
end Class
end RouteDocs
