import RouteDocs.Proofs.Definitions

namespace RouteDocs.Schema
open List OrderedMap StatusMap Descriptor

/-!
# When two definitions agree

The table compares nodes and status maps up to the order of mappings and of statuses. For what a
descriptor defines this is equality: objects have flat nodes, a mapping follows from the
alternatives in order, and with the same alternatives equal look-up gives the same status order.
-/

def Node.Flat : Node -> Prop
  | .primitive _ | .ref _ | .enumRef _ => True
  | .optional inner | .array inner => inner.Flat
  | .object .. | .union .. => False

theorem Node.Flat.stripOptional {node : Node} (flat : node.Flat) : node.stripOptional.Flat := by
  cases node <;> exact flat

theorem Descriptor.shape_flat : (type : Descriptor) -> type.shape.Flat
  | .primitive _ | .named _ | .struct .. | .union .. => trivial
  | .optional inner => (shape_flat inner).stripOptional
  | .sequence inner => (shape_flat inner).stripOptional

theorem Field.member_flat (field : Field) : field.member.2.Flat := by
  unfold Field.member
  split
  · exact field.type.shape_flat
  · exact field.type.shape_flat

theorem Node.same_iff_eq_of_flat :
    (first : Node) -> first.Flat -> (second : Node) -> (first.same second = true ↔ first = second)
  | .primitive _, _, second => by cases second <;> simp [Node.same]
  | .ref _, _, second => by cases second <;> simp [Node.same]
  | .enumRef _, _, second => by cases second <;> simp [Node.same]
  | .optional inner, flat, second => by
    cases second with
    | optional other => simp only [Node.same, Node.optional.injEq, same_iff_eq_of_flat inner flat other]
    | _ => simp [Node.same]
  | .array inner, flat, second => by
    cases second with
    | array other => simp only [Node.same, Node.array.injEq, same_iff_eq_of_flat inner flat other]
    | _ => simp [Node.same]

theorem Node.sameFields_iff_eq_of_flat (flat : ∀ field ∈ first, field.2.Flat) :
    Node.sameFields first second = true ↔ first = second := by
  induction first generalizing second with
  | nil => cases second <;> simp [Node.sameFields]
  | cons field rest ih =>
    obtain ⟨name, node⟩ := field
    cases second with
    | nil => simp [Node.sameFields]
    | cons other others =>
      obtain ⟨otherName, otherNode⟩ := other
      have here := Node.same_iff_eq_of_flat node (flat _ (.head _)) otherNode
      have later : Node.sameFields rest others = true ↔ rest = others :=
        ih (forall_mem_cons.mp flat).2
      simp only [Node.sameFields, Bool.and_eq_true, beq_iff_eq, here, later, cons.injEq,
        Prod.mk.injEq]

theorem Node.same_object_iff_eq (flat : ∀ field ∈ fields, field.2.Flat) (second : Node) :
    (Node.object fields about tag?).same second = true ↔
      Node.object fields about tag? = second := by
  cases second with
  | object others text other? =>
    simp only [Node.same, Bool.and_eq_true, beq_iff_eq, Node.sameFields_iff_eq_of_flat flat,
      Node.object.injEq, and_assoc]
  | _ => simp [Node.same]

variable {first second variants : List ErrorVariant} {union : String} {other : Descriptor}

theorem variantName_inj {first second : String} :
    variantName union first = variantName union second ↔ first = second := by
  unfold variantName
  exact String.append_right_inj _

theorem variantName_left_inj {first second variant : String}
    (same : variantName first variant = variantName second variant) : first = second := by
  unfold variantName at same
  exact (String.append_left_inj _).mp ((String.append_left_inj _).mp same)

theorem unionNode_eq_of_names (names : first.map ErrorVariant.name = second.map ErrorVariant.name) :
    unionNode union first = unionNode union second := by
  have through : ∀ variants : List ErrorVariant, unionNode union variants =
      .union ((variants.map ErrorVariant.name).map (variantName union)) discriminator
        (ofList ((variants.map ErrorVariant.name).map fun name =>
          (name, variantName union name))) := by
    intro variants
    simp only [unionNode, map_map, Function.comp_def]
  rw [through first, through second, names]

theorem names_eq_of_variantNames
    (equal : (first.map fun variant => variantName union variant.name) =
      second.map fun variant => variantName union variant.name) :
    first.map ErrorVariant.name = second.map ErrorVariant.name := by
  have injective : Function.Injective (variantName union) := fun _ _ same => variantName_inj.mp same
  apply map_injective_iff.mpr injective
  simpa only [map_map, Function.comp_def] using equal

theorem same_unionNode_iff_eq (union : String) (first second : List ErrorVariant) :
    (unionNode union first).same (unionNode union second) = true ↔
      unionNode union first = unionNode union second := by
  constructor
  · intro same
    simp only [unionNode, Node.same, Bool.and_eq_true, beq_iff_eq] at same
    exact unionNode_eq_of_names (names_eq_of_variantNames same.1.1)
  · intro equal
    rw [equal]
    have entries := (sameEntries_iff
      (ofList (second.map fun variant => (variant.name, variantName union variant.name)))
      _).mpr fun _ => rfl
    simp only [unionNode, Node.same, beq_self_eq_true, Bool.true_and, entries]

def ErrorResponse.extend (union : String) (known : ErrorResponse) (variant : ErrorVariant) :
    ErrorResponse :=
  { known with
    schemas := known.schemas ++ [variantName union variant.name]
    description := known.description ++ "; " ++ variant.description }

/-- What the variants of one status say about it together; nothing if there are none. -/
def groupResponse (union : String) : List ErrorVariant -> Option ErrorResponse
  | [] => none
  | first :: rest => some (rest.foldl (ErrorResponse.extend union)
      ⟨first.status, first.description, [variantName union first.name]⟩)

theorem groupResponse_concat (union : String) (variants : List ErrorVariant) (last : ErrorVariant) :
    groupResponse union (variants ++ [last]) = some (match groupResponse union variants with
        | none => ⟨last.status, last.description, [variantName union last.name]⟩
        | some known => known.extend union last) := by
  cases variants with
  | nil => rfl
  | cons first rest => simp only [cons_append, groupResponse, foldl_append, foldl_cons, foldl_nil]

theorem StatusMap.ofVariants_concat (union : String) (variants : List ErrorVariant)
    (last : ErrorVariant) :
    ofVariants union (variants ++ [last]) = (ofVariants union variants).add union last := by
  simp only [ofVariants, foldl_append, foldl_cons, foldl_nil]

theorem StatusMap.get?_ofVariants (union : String) (variants : List ErrorVariant) (status : Int) :
    (ofVariants union variants).get? status =
      groupResponse union (variants.filter fun variant => (variant.status : Int) = status) := by
  induction variants using reverseRecOn generalizing status with
  | nil => rfl
  | append_singleton variants last ih =>
    rw [ofVariants_concat, add, ih, filter_append]
    by_cases here : (last.status : Int) = status
    · subst here
      simp only [filter_cons, decide_true, if_true, filter_nil, groupResponse_concat]
      cases groupResponse union
          (variants.filter fun variant => (variant.status : Int) = last.status) with
      | none => simp only [get?_insert_self]
      | some known => simp only [get?_insert_self, ErrorResponse.extend]
    · simp only [filter_cons, decide_eq_true_eq, if_neg here, filter_nil, append_nil]
      split
      · rw [get?_insert_of_ne _ _ here, ih]
      · rw [get?_insert_of_ne _ _ here, ih]

def firstUses (codes : List Int) : List Int :=
  codes.foldl (fun known status => if status ∈ known then known else known ++ [status]) []

theorem firstUses_concat (codes : List Int) (last : Int) : firstUses (codes ++ [last]) =
      if last ∈ firstUses codes then firstUses codes else firstUses codes ++ [last] := by
  rw [firstUses, foldl_append]
  rfl

theorem StatusMap.keys_ofVariants (union : String) (variants : List ErrorVariant) :
    (ofVariants union variants).keys =
      firstUses (variants.map fun variant => (variant.status : Int)) := by
  induction variants using reverseRecOn with
  | nil => rfl
  | append_singleton variants last ih =>
    have added : ((ofVariants union variants).add union last).keys =
        if (last.status : Int) ∈ (ofVariants union variants).keys then
          (ofVariants union variants).keys
        else (ofVariants union variants).keys ++ [(last.status : Int)] := by
      unfold add
      split <;> exact keys_insert _ _ _
    rw [ofVariants_concat, map_append, map_cons, map_nil, firstUses_concat, <- ih]
    exact added

theorem foldl_extend_schemas (union : String) (variants : List ErrorVariant) (known : ErrorResponse) :
    (variants.foldl (ErrorResponse.extend union) known).schemas =
      known.schemas ++ variants.map fun variant => variantName union variant.name := by
  induction variants generalizing known with
  | nil => simp
  | cons variant rest ih =>
    rw [foldl_cons, ih]
    simp only [ErrorResponse.extend, append_assoc, map_cons, singleton_append]

theorem groupResponse_schemas (found : groupResponse union variants = some resp) :
    resp.schemas = variants.map fun variant => variantName union variant.name := by
  cases variants with
  | nil => cases found
  | cons first rest =>
    simp only [groupResponse, Option.some.injEq] at found
    rw [<- found, foldl_extend_schemas]
    rfl

theorem StatusMap.status_of_listed (found : (ofVariants union variants).get? status = some resp)
    (listed : variantName union name ∈ resp.schemas) :
    ∃ variant ∈ variants, variant.name = name /\ (variant.status : Int) = status := by
  rw [get?_ofVariants] at found
  rw [groupResponse_schemas found] at listed
  obtain ⟨variant, mem, same⟩ := mem_map.mp listed
  have parts := mem_filter.mp mem
  exact ⟨variant, parts.1, variantName_inj.mp same, of_decide_eq_true parts.2⟩

theorem StatusMap.listed_of_mem (union : String) (mem : variant ∈ variants) :
    ∃ resp, (ofVariants union variants).get? (variant.status : Int) = some resp /\
      variantName union variant.name ∈ resp.schemas := by
  have kept : variant ∈ variants.filter fun other => (other.status : Int) = variant.status :=
    mem_filter.mpr ⟨mem, decide_eq_true rfl⟩
  cases found : groupResponse union
      (variants.filter fun other => (other.status : Int) = variant.status) with
  | none =>
    cases empty : variants.filter fun other => (other.status : Int) = variant.status with
    | nil => rw [empty] at kept; cases kept
    | cons first rest => rw [empty] at found; cases found
  | some resp =>
    refine ⟨resp, (get?_ofVariants _ _ _).trans found, ?_⟩
    rw [groupResponse_schemas found]
    exact mem_map.mpr ⟨variant, kept, rfl⟩

/-- Unions with the same alternatives in order and with equal look-up in their
status maps give each variant the same status, and have the same status map. -/
theorem StatusMap.ofVariants_eq (nodup : (second.map ErrorVariant.name).Nodup)
    (names : first.map ErrorVariant.name = second.map ErrorVariant.name)
    (lookups : ∀ status, (ofVariants union first).get? status =
      (ofVariants union second).get? status) :
    ofVariants union first = ofVariants union second := by
  have lengths : first.length = second.length := by
    simpa only [length_map] using congrArg length names
  have codes : (first.map fun variant => (variant.status : Int)) =
      second.map fun variant => (variant.status : Int) := by
    apply ext_getElem
    · simpa only [length_map] using lengths
    · intro position inFirst inSecond
      simp only [length_map] at inFirst inSecond
      simp only [getElem_map]
      have sameName : first[position].name = second[position].name := by
        have equal := getElem_of_eq names (i := position) (by simpa only [length_map] using inFirst)
        simpa only [getElem_map] using equal
      obtain ⟨resp, found, listed⟩ := listed_of_mem union (getElem_mem inFirst)
      rw [lookups] at found
      obtain ⟨variant, mem, variantSame, status⟩ := status_of_listed found listed
      have same : variant = second[position] :=
        inj_on_of_nodup_map nodup mem (getElem_mem inSecond) (variantSame.trans sameName)
      rw [<- status, same]
  apply eq_of_keys_get?
  · rw [keys_ofVariants, keys_ofVariants, codes]
  · exact lookups

theorem Descriptor.ownDefinitions_cases {type : Descriptor} (mem : defn ∈ type.ownDefinitions) :
    (defn.statuses? = none /\ ∃ fields about tag?,
        (∀ field ∈ fields, field.2.Flat) /\ defn.node = .object fields about tag?) \/
      ∃ name variants, type = .union name variants /\
        defn = unionDefinition name (variants.map Variant.error) := by
  have flat : ∀ fields : List Field, ∀ field ∈ fields.map Field.member, field.2.Flat := by
    intro fields field listed
    obtain ⟨source, -, rfl⟩ := mem_map.mp listed
    exact source.member_flat
  cases type with
  | struct name fields about =>
    rw [mem_singleton.mp mem]
    exact .inl ⟨rfl, _, about, none, flat fields, rfl⟩
  | union name variants =>
    rcases mem_append.mp mem with ofVariant | itself
    · obtain ⟨error, listed, rfl⟩ := mem_map.mp ofVariant
      obtain ⟨variant, -, rfl⟩ := mem_map.mp listed
      exact .inl ⟨rfl, _, _, _, flat variant.fields, rfl⟩
    · exact .inr ⟨name, variants, rfl, mem_singleton.mp itself⟩
  | _ => cases mem

theorem same_iff_eq_of_ownDefinitions {one : Descriptor} {first second : Definition}
    (atOne : first ∈ one.ownDefinitions) (atOther : second ∈ other.ownDefinitions)
    (names : first.name = second.name) :
    first.node.same second.node = true ↔ first.node = second.node := by
  rcases ownDefinitions_cases atOne with
    ⟨-, fields, about, tag?, flat, object⟩ | ⟨name, variants, -, rfl⟩
  · rw [object]
    exact Node.same_object_iff_eq flat second.node
  · rcases ownDefinitions_cases atOther with
      ⟨-, fields, about, tag?, -, object⟩ | ⟨name', variants', -, rfl⟩
    · rw [object]
      simp [unionDefinition, unionNode, Node.same]
    · obtain rfl : name = name' := names
      exact same_unionNode_iff_eq name _ _

theorem name_error (variants : List Variant) :
    (variants.map Variant.error).map ErrorVariant.name = variants.map Variant.name := by
  rw [map_map]
  rfl

theorem statuses_eq_of_agree {one : Descriptor} {first second : Definition}
    (atOne : first ∈ one.ownDefinitions) (atOther : second ∈ other.ownDefinitions)
    (sound : other.OwnSound) (names : first.name = second.name) (nodes : first.node = second.node)
    (stated : first.statuses? = some codes) (otherStated : second.statuses? = some otherStatuses)
    (lookups : ∀ status, codes.get? status = otherStatuses.get? status) :
    codes = otherStatuses := by
  rcases ownDefinitions_cases atOne with ⟨plain, -⟩ | ⟨name, variants, -, rfl⟩
  · rw [plain] at stated
    cases stated
  · rcases ownDefinitions_cases atOther with ⟨plain, -⟩ | ⟨name', variants', rfl, rfl⟩
    · rw [plain] at otherStated
      cases otherStated
    · obtain rfl : name = name' := names
      cases stated
      cases otherStated
      have alternatives := names_eq_of_variantNames (Node.union.inj nodes).1
      refine ofVariants_eq ?_ alternatives lookups
      rw [name_error]
      exact sound.2.1
end RouteDocs.Schema
