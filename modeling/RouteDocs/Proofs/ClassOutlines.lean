import RouteDocs.Proofs.ClassTypes

namespace RouteDocs.Class
open List Schema

/-!
# What a class defines

`Catalog.outline` reads the definitions of a class off its hints, given a stand-in for each class in
them. A descriptor of the class has the definitions of the outline if the descriptors of the
classes in it have the shapes of their stand-ins; otherwise the definitions differ.
-/

def Leaf.outline (standIn : Subject -> Descriptor) : Leaf -> Descriptor
  | .primitive name => .primitive name
  | .subject class_ => standIn class_

def FieldHint.outline (standIn : Subject -> Descriptor) (hint : FieldHint) : Field where
  name := hint.name
  type := match hint.hint.reading? with
    | some (wrappers, leaf) => Wrapper.wrapAll wrappers (leaf.outline standIn)
    | none => .named ""
  optional := hint.isOptional

def VariantClass.outline (cat : Catalog) (hints : Nat -> List FieldHint)
    (standIn : Subject -> Descriptor) : VariantClass -> Variant
  | .object => ⟨Builtin.object.name, [], objectDoc⟩
  | .declared number =>
    match cat.declared? number with
    | none => ⟨"", [], ""⟩
    | some profile =>
      ⟨profile.name, (hints number).map (FieldHint.outline standIn), profile.doc?.getD ""⟩

def Catalog.outline (cat : Catalog) (hints : Nat -> List FieldHint)
    (standIn : Subject -> Descriptor) (number : Nat) : Descriptor :=
  match cat.declared? number with
  | none => .named ""
  | some profile =>
    if profile.isErrorUnion then
      .union profile.name (profile.variants.map (VariantClass.outline cat hints standIn))
    else
      .struct profile.name ((hints number).map (FieldHint.outline standIn))
        (String.ofList (firstParagraph (profile.doc?.getD "").toList))

section
variable {cat : Catalog} {hints : Nat -> List FieldHint} {number : Nat} {profile : Profile}
  {standIn first second : Subject -> Descriptor} {hint : FieldHint} {wrappers : List Wrapper}
  {subject : Subject}

section
variable (declared : cat.declared? number = some profile)

include declared

theorem outline_of_struct (isStruct : profile.isErrorUnion = false) :
    cat.outline hints standIn number =
      .struct profile.name ((hints number).map (FieldHint.outline standIn))
        (String.ofList (firstParagraph (profile.doc?.getD "").toList)) := by
  unfold Catalog.outline
  rw [declared]
  simp only [isStruct, Bool.false_eq_true, if_false]

theorem outline_of_union (isUnion : profile.isErrorUnion = true) :
    cat.outline hints standIn number =
      .union profile.name (profile.variants.map (VariantClass.outline cat hints standIn)) := by
  unfold Catalog.outline
  rw [declared]
  simp only [isUnion, if_true]

theorem hintsOf_of_struct
    (isStruct : profile.isErrorUnion = false) : cat.hintsOf hints number = hints number := by
  unfold Catalog.hintsOf
  rw [declared]
  simp only [isStruct, Bool.false_eq_true, if_false]

theorem mem_hintsOf_of_union (isUnion : profile.isErrorUnion = true) :
    field ∈ cat.hintsOf hints number ↔
      ∃ variant, .declared variant ∈ profile.variants /\ field ∈ hints variant := by
  unfold Catalog.hintsOf
  rw [declared]
  simp only [isUnion, if_true, mem_flatMap]
  constructor
  · rintro ⟨variantClass, listed, mem⟩
    cases variantClass with
    | declared variant => exact ⟨variant, listed, mem⟩
    | object => cases mem
  · rintro ⟨variant, listed, mem⟩
    exact ⟨.declared variant, listed, mem⟩
end

theorem member_outline_congr
    (alike : ∀ wrappers subject, hint.hint.reading? = some (wrappers, .subject subject) ->
      (first subject).shape = (second subject).shape) :
    (hint.outline first).member = (hint.outline second).member := by
  have shapes : (hint.outline first).type.shape = (hint.outline second).type.shape := by
    unfold FieldHint.outline
    cases reads : hint.hint.reading? with
    | none => rfl
    | some reading =>
      obtain ⟨wrappers, leaf⟩ := reading
      cases leaf with
      | primitive name => rfl
      | subject class_ => exact Wrapper.shape_wrapAll_congr wrappers (alike wrappers class_ reads)
  unfold Field.member
  rw [shapes]
  rfl

theorem error_congr {one other : Variant} (name : one.name = other.name) (doc : one.doc = other.doc)
    (fields : one.fields.map Field.member = other.fields.map Field.member) :
    one.error = other.error := by
  obtain ⟨oneName, oneFields, oneDoc⟩ := one
  obtain ⟨otherName, otherFields, otherDoc⟩ := other
  obtain rfl : oneName = otherName := name
  obtain rfl : oneDoc = otherDoc := doc
  exact congrArg (ErrorVariant.mk _ _ _) fields

theorem ownDefinitions_outline_congr (alike : ∀ subject, cat.Mentions hints number subject ->
      (first subject).shape = (second subject).shape) :
    (cat.outline hints first number).ownDefinitions =
      (cat.outline hints second number).ownDefinitions := by
  cases declared : cat.declared? number with
  | none =>
    unfold Catalog.outline
    rw [declared]
  | some profile =>
    cases isUnion : profile.isErrorUnion with
    | false =>
      rw [outline_of_struct declared isUnion, outline_of_struct declared isUnion]
      have members : ∀ field ∈ hints number,
          (field.outline first).member = (field.outline second).member := by
        intro field listed
        apply member_outline_congr
        intro wrappers subject reads
        exact alike subject ⟨field, (hintsOf_of_struct declared isUnion).symm ▸ listed, wrappers, reads⟩
      simp only [Descriptor.ownDefinitions, map_map, Function.comp_def]
      rw [map_congr_left members]
    | true =>
      rw [outline_of_union declared isUnion, outline_of_union declared isUnion]
      have errors : ∀ variantClass ∈ profile.variants,
          (variantClass.outline cat hints first).error =
            (variantClass.outline cat hints second).error := by
        intro variantClass listed
        cases variantClass with
        | object => rfl
        | declared variant =>
          simp only [VariantClass.outline]
          cases cat.declared? variant with
          | none => rfl
          | some variantProfile =>
            refine error_congr rfl rfl ?_
            simp only [map_map]
            apply map_congr_left
            intro field mem
            apply member_outline_congr
            intro wrappers subject reads
            exact alike subject ⟨field,
              (mem_hintsOf_of_union declared isUnion).mpr ⟨variant, listed, mem⟩, wrappers, reads⟩
      simp only [Descriptor.ownDefinitions, map_map, Function.comp_def]
      rw [map_congr_left errors]

variable {describes : Subject -> Descriptor -> Prop} {desc : Descriptor}

theorem FieldHint.Depicts.member (depicts : hint.Depicts describes field)
    (alike : ∀ wrappers subject, hint.hint.reading? = some (wrappers, .subject subject) ->
      ∀ inner, describes subject inner -> inner.shape = (standIn subject).shape) :
    (hint.outline standIn).member = field.member := by
  obtain ⟨name, type, optional⟩ := field
  obtain ⟨rfl, rfl, wrappers, leaf, inner, reads, stands, rfl⟩ := depicts
  have shapes : (hint.outline standIn).type.shape = (Wrapper.wrapAll wrappers inner).shape := by
    unfold FieldHint.outline
    rw [reads]
    apply Wrapper.shape_wrapAll_congr
    cases leaf with
    | primitive name => exact congrArg Descriptor.shape stands.symm
    | subject class_ => exact (alike wrappers class_ reads inner stands).symm
  unfold Field.member
  rw [shapes]
  rfl

/-- A descriptor defines what the outline of its class does, if the descriptors of the classes
in it have the shapes of their stand-ins. -/
theorem Catalog.Depicts.ownDefinitions (depicts : cat.Depicts hints describes number desc)
    (alike : ∀ subject, cat.Mentions hints number subject ->
      ∀ inner, describes subject inner -> inner.shape = (standIn subject).shape) :
    desc.ownDefinitions = (cat.outline hints standIn number).ownDefinitions := by
  cases depicts with
  | struct declared isStruct documented depicted =>
    rw [outline_of_struct declared isStruct, documented]
    simp only [Descriptor.ownDefinitions, map_map, Option.getD_some]
    rw [map_eq_of_forall₂ depicted]
    intro field listed other depicts
    apply depicts.member
    intro wrappers subject reads
    exact alike subject ⟨field, (hintsOf_of_struct declared isStruct).symm ▸ listed, wrappers, reads⟩
  | union declared isUnion depicted =>
    rw [outline_of_union declared isUnion]
    simp only [Descriptor.ownDefinitions, map_map]
    rw [map_eq_of_forall₂ depicted]
    intro variantClass listed other depicts
    cases variantClass with
    | object => exact congrArg Variant.error (Eq.symm depicts)
    | declared variant =>
      obtain ⟨profile, known, name, doc, fields⟩ := depicts
      simp only [Function.comp_def, VariantClass.outline, known]
      refine error_congr name.symm ?_ ?_
      · rw [doc]
        rfl
      · rw [map_map]
        refine map_eq_of_forall₂ fields fun field mem other depicts => ?_
        apply depicts.member
        intro wrappers subject reads
        exact alike subject ⟨field,
          (mem_hintsOf_of_union declared isUnion).mpr ⟨variant, listed, mem⟩, wrappers, reads⟩

theorem subject_of_mem_fieldTypes
    (depicted : List.Forall₂ (FieldHint.Depicts describes) hintList fields)
    (mem : type ∈ fieldTypes fields) : ∃ field ∈ hintList, ∃ wrappers subject inner,
      field.hint.reading? = some (wrappers, .subject subject) /\ describes subject inner /\
        type ∈ inner.types := by
  obtain ⟨field, listed, inType⟩ := mem_fieldTypes.mp mem
  obtain ⟨hint, hintListed, depicts⟩ := (exists_of_forall₂ depicted).2 field listed
  obtain ⟨wrappers, leaf, inner, reads, stands, same⟩ := depicts.type
  rw [same, Wrapper.types_wrapAll] at inType
  cases leaf with
  | primitive name =>
    rw [stands] at inType
    cases inType
  | subject class_ => exact ⟨hint, hintListed, wrappers, class_, inner, reads, stands, inType⟩

theorem subset_fieldTypes (depicted : List.Forall₂ (FieldHint.Depicts describes) hintList fields)
    (listed : hint ∈ hintList) (reads : hint.hint.reading? = some (wrappers, .subject subject)) :
    ∃ inner, describes subject inner /\ inner.types ⊆ fieldTypes fields := by
  obtain ⟨field, fieldListed, depicts⟩ := (exists_of_forall₂ depicted).1 hint listed
  obtain ⟨otherWrappers, leaf, inner, otherReads, stands, same⟩ := depicts.type
  obtain ⟨rfl, rfl⟩ := Prod.mk.inj (Option.some.inj (reads.symm.trans otherReads))
  refine ⟨inner, stands, fun type mem => mem_fieldTypes.mpr ⟨field, fieldListed, ?_⟩⟩
  rw [same, Wrapper.types_wrapAll]
  exact mem

section
variable (depicts : cat.Depicts hints describes number desc)

include depicts

theorem Catalog.Depicts.named (declared : cat.declared? number = some profile) :
    desc.isType = true /\ desc.typeName = profile.name := by
  cases depicts with
  | struct known | union known =>
    obtain rfl := Option.some.inj (declared.symm.trans known)
    exact ⟨rfl, rfl⟩

theorem Catalog.Depicts.shape (declared : cat.declared? number = some profile) : desc.shape =
      if profile.isErrorUnion then .enumRef profile.name else .ref profile.name := by
  cases depicts with
  | struct known isStruct =>
    obtain rfl := Option.some.inj (declared.symm.trans known)
    rw [isStruct]
    rfl
  | union known isUnion =>
    obtain rfl := Option.some.inj (declared.symm.trans known)
    rw [isUnion]
    rfl

theorem Catalog.Depicts.subject_of_inside (mem : type ∈ desc.inside) :
    ∃ subject inner, cat.Mentions hints number subject /\ describes subject inner /\
      type ∈ inner.types := by
  cases depicts with
  | struct declared isStruct documented depicted =>
    obtain ⟨field, listed, wrappers, subject, inner, reads, described, inType⟩ :=
      subject_of_mem_fieldTypes depicted mem
    exact ⟨subject, inner, ⟨field, (hintsOf_of_struct declared isStruct).symm ▸ listed, wrappers,
      reads⟩, described, inType⟩
  | union declared isUnion depicted =>
    obtain ⟨variant, variantListed, inVariant⟩ := mem_variantTypes.mp mem
    obtain ⟨variantClass, classListed, depicts⟩ := (exists_of_forall₂ depicted).2 variant variantListed
    cases variantClass with
    | object =>
      obtain rfl : variant = _ := depicts
      cases inVariant
    | declared variantNumber =>
      obtain ⟨_, -, -, -, fields⟩ := depicts
      obtain ⟨field, listed, wrappers, subject, inner, reads, described, inType⟩ :=
        subject_of_mem_fieldTypes fields inVariant
      exact ⟨subject, inner, ⟨field,
        (mem_hintsOf_of_union declared isUnion).mpr ⟨variantNumber, classListed, listed⟩, wrappers,
        reads⟩, described, inType⟩

theorem Catalog.Depicts.inside_of_mentions (mentions : cat.Mentions hints number subject) :
    ∃ inner, describes subject inner /\ inner.types ⊆ desc.inside := by
  obtain ⟨field, listed, wrappers, reads⟩ := mentions
  cases depicts with
  | struct declared isStruct documented depicted =>
    rw [hintsOf_of_struct declared isStruct] at listed
    exact subset_fieldTypes depicted listed reads
  | union declared isUnion depicted =>
    obtain ⟨variantNumber, classListed, mem⟩ := (mem_hintsOf_of_union declared isUnion).mp listed
    obtain ⟨variant, variantListed, depicts⟩ := (exists_of_forall₂ depicted).1 _ classListed
    obtain ⟨_, -, -, -, fields⟩ := depicts
    obtain ⟨inner, described, inFields⟩ := subset_fieldTypes fields mem reads
    exact ⟨inner, described, fun type inType =>
      mem_variantTypes.mpr ⟨variant, variantListed, inFields inType⟩⟩
end

theorem stripOptional_member (field : Field) :
    field.member.2.stripOptional = field.type.shape.stripOptional := by
  unfold Field.member
  split
  · rename_i marked
    rw [Bool.and_eq_true, Bool.not_eq_true'] at marked
    cases shape : field.type.shape with
    | optional =>
      rw [shape] at marked
      cases marked.2
    | _ => rfl
  · rfl

theorem member_outline_differ (reads : hint.hint.reading? = some (wrappers, .subject subject))
    (differ : (first subject).shape.stripOptional ≠ (second subject).shape.stripOptional) :
    (hint.outline first).member ≠ (hint.outline second).member := by
  intro same
  apply differ
  apply Wrapper.stripOptional_shape_of_wrapAll wrappers
  have stripped := congrArg (fun mem : String × Node => mem.2.stripOptional) same
  simp only [stripOptional_member, FieldHint.outline, reads] at stripped
  exact stripped

theorem exists_outline_differ (declared : cat.declared? number = some profile)
    (variants : ∀ variant, .declared variant ∈ profile.variants ->
      ∃ profile, cat.declared? variant = some profile)
    (mentions : cat.Mentions hints number subject)
    (differ : (first subject).shape.stripOptional ≠ (second subject).shape.stripOptional) :
    ∃ one ∈ (cat.outline hints first number).ownDefinitions,
      ∃ other ∈ (cat.outline hints second number).ownDefinitions,
        one.name = other.name /\ one.node ≠ other.node := by
  obtain ⟨field, listed, wrappers, reads⟩ := mentions
  have members : ∀ hintList : List FieldHint, field ∈ hintList ->
      (hintList.map (FieldHint.outline first)).map Field.member ≠
        (hintList.map (FieldHint.outline second)).map Field.member := by
    intro hintList mem same
    rw [map_map, map_map] at same
    exact member_outline_differ reads differ (map_inj_left.mp same field mem)
  cases isUnion : profile.isErrorUnion with
  | false =>
    rw [outline_of_struct declared isUnion, outline_of_struct declared isUnion]
    rw [hintsOf_of_struct declared isUnion] at listed
    refine ⟨_, .head _, _, .head _, rfl, fun same => ?_⟩
    exact members _ listed (Node.object.inj same).1
  | true =>
    obtain ⟨variant, classListed, mem⟩ := (mem_hintsOf_of_union declared isUnion).mp listed
    obtain ⟨variantProfile, known⟩ := variants variant classListed
    rw [outline_of_union declared isUnion, outline_of_union declared isUnion]
    have defined : ∀ standIn : Subject -> Descriptor, ErrorVariant.definition profile.name
          (VariantClass.outline cat hints standIn (.declared variant)).error ∈
        (Descriptor.union profile.name
          (profile.variants.map (VariantClass.outline cat hints standIn))).ownDefinitions := by
      intro standIn
      apply mem_append_left
      exact mem_map_of_mem (mem_map_of_mem (mem_map_of_mem classListed))
    refine ⟨_, defined first, _, defined second, ?_, fun same => ?_⟩
    · simp only [ErrorVariant.definition, VariantClass.outline, known, Variant.error]
    · simp only [ErrorVariant.definition, ErrorVariant.node, VariantClass.outline, known,
        Variant.error] at same
      exact members _ mem (Node.object.inj same).1
end
end RouteDocs.Class
