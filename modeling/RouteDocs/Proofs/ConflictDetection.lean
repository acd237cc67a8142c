import RouteDocs.Proofs.SynthesisSteps

namespace RouteDocs.Schema
open List Synthesis

/-!
# Conflict detection

A type that is remembered is not looked into again. `Session.Reflects` ties the session to the full
list of types that occur in what was synthesized, skipped or not. Its table holds the definitions
of all of them, and a descriptor in its memo has all its types among them; this is why skipping is
sound. A type inside a type of the same name is never built, so descriptors here are `Unnested`.
-/

/-- A session is what the synthesis of some types, completed in this order, leaves
behind. -/
structure Session.Reflects (sess : Session) (types : List Descriptor) : Prop where
  table : sess.table.Holds (types.flatMap Descriptor.ownDefinitions)
  sound : ∀ type ∈ types, type.OwnSound
  memo : ∀ name descriptor, sess.memo.get? name = some descriptor -> descriptor.types ⊆ types

namespace Session.Reflects
variable {sess post : Session} {types : List Descriptor}

theorem start : ({} : Session).Reflects [] where
  table := Table.holds_empty
  sound := nofun
  memo := nofun

theorem absorb (reflects : sess.Reflects types) (sub : again ⊆ types) :
    sess.Reflects (types ++ again) where
  table := by
    rw [flatMap_append]
    apply reflects.table.absorb
    intro defn mem
    obtain ⟨type, listed, defined⟩ := mem_flatMap.mp mem
    exact mem_flatMap.mpr ⟨type, sub listed, defined⟩
  sound := by
    intro type mem
    rcases mem_append.mp mem with old | met
    · exact reflects.sound type old
    · exact reflects.sound type (sub met)
  memo := by
    intro name descriptor found
    exact subset_append_of_subset_left _ (reflects.memo name descriptor found)

theorem noted (reflects : sess.Reflects types) (union : String) (variant : Variant) :
    (sess.noted union variant).Reflects types := by
  unfold Session.noted
  split
  · exact reflects
  · exact ⟨⟨reflects.table.schemas, reflects.table.statuses, reflects.table.conflicts⟩,
      reflects.sound, reflects.memo⟩

theorem holds_enterAll {table : Table} (holds : table.Holds known)
    (ofTypes : ∀ defn ∈ known ++ added, ∃ type : Descriptor, defn ∈ type.ownDefinitions) :
    (added.foldl Table.enter table).Holds (known ++ added) := by
  induction added generalizing table known with
  | nil =>
    rw [append_nil]
    exact holds
  | cons defn rest ih =>
    have reordered : known ++ defn :: rest = known ++ [defn] ++ rest := by
      rw [append_assoc, singleton_append]
    rw [reordered] at ofTypes ⊢
    obtain ⟨last, lastDefined⟩ := ofTypes defn (by simp)
    refine ih (holds.enter fun first mem sameName => ?_) ofTypes
    obtain ⟨type, defined⟩ := ofTypes first (by simp [mem])
    exact same_iff_eq_of_ownDefinitions defined lastDefined sameName

/-- A type is completed once the types inside it are: its definitions enter the
table, and it is remembered. -/
theorem complete (reflects : sess.Reflects types) (isType : type.isType = true)
    (sound : type.OwnSound) (inside : type.inside ⊆ types)
    (table : post.table = type.ownDefinitions.foldl Table.enter sess.table)
    (memo : post.memo = (sess.remember type.typeName type).memo) :
    post.Reflects (types ++ [type]) where
  table := by
    rw [table, flatMap_append, flatMap_singleton]
    apply holds_enterAll reflects.table
    intro defn mem
    rcases mem_append.mp mem with old | own
    · obtain ⟨other, -, defined⟩ := mem_flatMap.mp old
      exact ⟨other, defined⟩
    · exact ⟨type, own⟩
  sound := forall_mem_append.mpr ⟨reflects.sound, forall_mem_singleton.mpr sound⟩
  memo := by
    intro name descriptor found
    rw [memo, Session.get?_memo_remember] at found
    rcases Option.or_eq_some_iff.mp found with old | ⟨-, new⟩
    · exact subset_append_of_subset_left _ (reflects.memo name descriptor old)
    · by_cases named : type.typeName = name
      · rw [if_pos named, Option.some.injEq] at new
        rw [<- new, Descriptor.types_of_isType isType]
        exact append_subset.mpr ⟨subset_append_of_subset_left _ inside, subset_append_right _ _⟩
      · rw [if_neg named] at new
        cases new
end Session.Reflects

namespace Synthesis
def Free (active : List (String × Descriptor)) (types : List Descriptor) : Prop :=
  ∀ type ∈ types, active.lookup type.typeName = none

theorem Free.within (isType : type.isType = true) (free : Free active type.types)
    (unnested : NoneNested type.types) : Free ((type.typeName, type) :: active) type.inside := by
  intro inner mem
  rw [Descriptor.types_of_isType isType] at free unnested
  have outside := unnested type (by simp)
  have ne : ¬ inner.typeName = type.typeName := by
    intro same
    exact outside (same ▸ mem_map_of_mem mem)
  rw [lookup_cons, beq_eq_false_iff_ne.mpr ne]
  exact free inner (by simp [mem])

theorem Runs.reflects (runs : Runs active part pre post) (reflects : pre.Reflects types)
    (free : Free active part.types) (unnested : NoneNested part.types) :
    post.Reflects (types ++ part.types) := by
  induction runs generalizing types with
  | primitive | named | noFields | noVariants => exact reflects.absorb (nil_subset _)
  | optional _ ih | sequence _ ih => exact ih reflects free unnested
  | inside isType around =>
    rw [free _ (Descriptor.mem_types_self isType)] at around
    cases around
  -- What is remembered is skipped with the types in it, which all occurred before.
  | remembered _ found => exact reflects.absorb (reflects.memo _ _ found)
  | @built _ type _ _ _ isType _ _ sound _ table memo ih =>
    have within := Free.within isType free unnested
    rw [Part.types, Descriptor.types_of_isType isType] at unnested ⊢
    rw [types_content] at ih
    have inner := ih reflects within (forall_mem_append.mp unnested).1
    rw [<- append_assoc]
    exact inner.complete isType sound (subset_append_right _ _) table memo
  | field _ _ here later =>
    have first := here reflects (forall_mem_append.mp free).1 (forall_mem_append.mp unnested).1
    rw [Part.types, fieldTypes, <- append_assoc]
    exact later first (forall_mem_append.mp free).2 (forall_mem_append.mp unnested).2
  | variant _ _ here later =>
    have first := here (reflects.noted _ _) (forall_mem_append.mp free).1
      (forall_mem_append.mp unnested).1
    rw [Part.types, variantTypes, <- append_assoc]
    exact later first (forall_mem_append.mp free).2 (forall_mem_append.mp unnested).2

/-! ## Faultless descriptors are synthesized

Nothing but a fault or a frozen table stops a synthesis: the memo and the types
around a descriptor only decide what is skipped. -/

mutual
theorem node_succeeds : (descriptor : Descriptor) ->
    descriptor.Sound -> (pre : Session) -> pre.table.frozen = false ->
      ∃ post, Yields (node active descriptor) pre descriptor.shape post /\ post.table.frozen = false
  | .primitive name, sound, pre, writable => by
    obtain ⟨type, known⟩ := Option.isSome_iff_exists.mp sound.grounded
    exact ⟨pre, by simp [node, known, Descriptor.shape], writable⟩
  | .named name, sound, pre, writable => by exact ⟨pre, by simp [node, Descriptor.shape], writable⟩
  | .optional inner, sound, pre, writable
  | .sequence inner, sound, pre, writable => by
    obtain ⟨post, built, kept⟩ := node_succeeds inner ⟨sound.grounded, sound.types⟩ pre writable
    refine ⟨post, ?_, kept⟩
    rw [node, yields_bind]
    exact ⟨_, post, built, yields_pure.mpr ⟨rfl, rfl⟩⟩
  | .struct name fields about, sound, pre, writable => by
    cases around : active.lookup name with
    | some outer =>
      exact ⟨_, (yields_type_inside (.struct name fields about) rfl around).mpr ⟨rfl, rfl⟩,
        frozen_conflictedUnless.trans writable⟩
    | none =>
      by_cases known : pre.memo.get? name = some (.struct name fields about)
      · exact ⟨pre, (yields_struct around).mpr ⟨rfl, .inl ⟨known, rfl⟩⟩, writable⟩
      · have own : FieldsSound fields := sound.types _ (Descriptor.mem_types_self rfl)
        obtain ⟨mid, read, kept⟩ := members_succeed fields own.distinct
          (fun _ _ => not_mem_nil) own.grounded
          (fun type mem => sound.types type (mem_append_left _ mem)) pre writable
        have stillWritable :
            (mid.remember name (.struct name fields about)).table.frozen = false := by
          rw [Session.table_remember]
          exact kept
        refine ⟨_, (yields_struct around).mpr ⟨rfl, .inr ⟨known, _, mid, read,
          yields_register.mpr ⟨stillWritable, rfl⟩⟩⟩, ?_⟩
        exact (frozen_defined _ (structDefinition name about _)).trans stillWritable
  | .union name variants, sound, pre, writable => by
    cases around : active.lookup name with
    | some outer =>
      exact ⟨_, (yields_type_inside (.union name variants) rfl around).mpr ⟨rfl, rfl⟩,
        frozen_conflictedUnless.trans writable⟩
    | none =>
      by_cases known : pre.memo.get? name = some (.union name variants)
      · exact ⟨pre, (yields_union around).mpr ⟨rfl, .inl ⟨known, rfl⟩⟩, writable⟩
      · obtain ⟨nonempty, nodup, own⟩ := sound.types _ (Descriptor.mem_types_self rfl)
        obtain ⟨mid, read, kept⟩ := errorVariants_succeed variants own
          (fun type mem => sound.types type (mem_append_left _ mem)) pre writable
        have built : Yields (registerVariants name (variants.map Variant.error)) mid
            (unionNode name (variants.map Variant.error)) _ :=
          yields_registerVariants.mpr ⟨kept, rfl, rfl⟩
        have stillWritable := (frozen_of_registerVariants built).trans kept
        have remembered := (congrArg Table.frozen (Session.table_remember _ name
          (.union name variants))).trans stillWritable
        refine ⟨_, (yields_union around).mpr ⟨rfl, .inr ⟨known, nonempty, nodup, _, mid, _,
          read, built, yields_register.mpr ⟨remembered, rfl⟩⟩⟩, ?_⟩
        exact (frozen_defined _ (unionDefinition name _)).trans remembered

theorem members_succeed : (fields : List Field) -> (fields.map Field.name).Nodup ->
      (∀ field ∈ fields, field.name ∉ seen) -> (∀ field ∈ fields, field.type.Grounded) ->
      (∀ type ∈ fieldTypes fields, type.OwnSound) -> (pre : Session) -> pre.table.frozen = false ->
      ∃ post, Yields (members active seen fields) pre (fields.map Field.member) post /\
        post.table.frozen = false
  | [], _, _, _, _, pre, writable => by exact ⟨pre, by simp [members], writable⟩
  | ⟨name, type, optional⟩ :: rest, nodup, fresh, grounded, sound, pre, writable => by
    obtain ⟨mid, built, kept⟩ := node_succeeds type
      ⟨grounded _ (.head _), fun inner mem => sound inner (mem_append_left _ mem)⟩
      pre writable
    have apart := nodup_cons.mp nodup
    have unseen : ∀ field ∈ rest, field.name ∉ name :: seen := by
      intro field mem known
      rcases mem_cons.mp known with same | old
      · exact apart.1 (mem_map.mpr ⟨field, mem, same⟩)
      · exact fresh field (.tail _ mem) old
    obtain ⟨post, read, stillKept⟩ := members_succeed rest apart.2 unseen
      (forall_mem_cons.mp grounded).2
      (fun inner mem => sound inner (mem_append_right _ mem)) mid kept
    exact ⟨post, yields_members_cons.mpr ⟨fresh _ (.head _), _, mid, _, built, read,
      rfl⟩, stillKept⟩

theorem errorVariants_succeed : (variants : List Variant) -> (∀ variant ∈ variants, variant.Sound) ->
      (∀ type ∈ variantTypes variants, type.OwnSound) -> (pre : Session) -> pre.table.frozen = false ->
      ∃ post, Yields (errorVariants active union variants) pre (variants.map Variant.error)
          post /\ post.table.frozen = false
  | [], _, _, pre, writable => by exact ⟨pre, by simp [errorVariants], writable⟩
  | ⟨name, fields, doc⟩ :: rest, own, sound, pre, writable => by
    have here := own _ (.head _)
    have documented : Yields (variantStatus union name doc) pre _ _ :=
      (yields_variantStatus ⟨name, fields, doc⟩).mpr ⟨here.readable, rfl, rfl⟩
    obtain ⟨mid, read, kept⟩ := members_succeed fields here.fields.distinct
      (fun _ _ => not_mem_nil) here.fields.grounded
      (fun inner mem => sound inner (mem_append_left _ mem)) _
      ((frozen_noted pre union ⟨name, fields, doc⟩).trans writable)
    obtain ⟨post, others, stillKept⟩ := errorVariants_succeed rest (forall_mem_cons.mp own).2
      (fun inner mem => sound inner (mem_append_right _ mem)) mid kept
    refine ⟨post, yields_errorVariants_cons.mpr ⟨_, _, _, mid, _, documented, read, ?_, others,
      rfl⟩, stillKept⟩
    rw [fst_member]
    exact here.untagged
end

variable {descriptors : List Descriptor}

/-- A run over some descriptors leaves behind what all the types in them define, and
has found no fault in any of them. -/
theorem ofDescriptors_reflects (reflects : pre.Reflects types)
    (unnested : ∀ type ∈ descriptors, type.Unnested)
    (yields : Yields (ofDescriptors descriptors) pre () post) :
    post.Reflects (types ++ descriptors.flatMap Descriptor.types) /\
      ∀ type ∈ descriptors, type.Grounded := by
  induction descriptors generalizing pre types with
  | nil =>
    rw [ofDescriptors, yields_forM_nil] at yields
    rw [yields]
    exact ⟨reflects.absorb (nil_subset _), forall_mem_nil _⟩
  | cons type rest ih =>
    obtain ⟨shape, mid, built, remaining⟩ := yields_ofDescriptors_cons.mp yields
    obtain ⟨-, grounded, runs⟩ := runs_of_node type built
    have here := runs.reflects reflects (fun _ _ => rfl) (unnested type (.head _))
    have later := ih here (forall_mem_cons.mp unnested).2 remaining
    rw [flatMap_cons, <- append_assoc]
    exact ⟨later.1, forall_mem_cons.mpr ⟨grounded, later.2⟩⟩

theorem ofDescriptors_succeeds (sound : ∀ type ∈ descriptors, type.Sound)
    (pre : Session) (writable : pre.table.frozen = false) :
    ∃ post, Yields (ofDescriptors descriptors) pre () post := by
  induction descriptors generalizing pre with
  | nil => exact ⟨pre, yields_forM_nil.mpr rfl⟩
  | cons type rest ih =>
    obtain ⟨mid, built, kept⟩ := node_succeeds type (sound type (.head _)) pre writable
    obtain ⟨post, remaining⟩ := ih (forall_mem_cons.mp sound).2 mid kept
    exact ⟨post, yields_ofDescriptors_cons.mpr ⟨_, mid, built, remaining⟩⟩
end Synthesis

section
theorem conflicting_congr (members : ∀ defn, defn ∈ first ↔ defn ∈ second)
    (name : String) : Conflicting first name ↔ Conflicting second name :=
  ⟨Conflicting.mono fun defn => (members defn).mp, Conflicting.mono fun defn => (members defn).mpr⟩

theorem firstNode?_congr (members : ∀ defn, defn ∈ first ↔ defn ∈ second)
    (agreeing : ¬ Conflicting second name) : firstNode? first name = firstNode? second name := by
  cases found : firstNode? second name with
  | none =>
    rw [firstNode?_eq] at found ⊢
    exact firstPart?_eq_none_of_subset (fun defn => (members defn).mp) found
  | some node =>
    obtain ⟨defn, mem, rfl, rfl⟩ := exists_of_firstNode? found
    exact firstNode?_of_mem ((members defn).mpr mem)
      (mt (conflicting_congr members defn.name).mp agreeing)
end

theorem firstStatuses?_congr {types : List Descriptor}
    (members : ∀ defn, defn ∈ first ↔ defn ∈ second)
    (ofTypes : second = types.flatMap Descriptor.ownDefinitions)
    (sound : ∀ type ∈ types, type.OwnSound) (agreeing : ¬ Conflicting second name) :
    firstStatuses? first name = firstStatuses? second name := by
  cases found : firstStatuses? second name with
  | none => exact firstPart?_eq_none_of_subset (fun defn => (members defn).mp) found
  | some codes =>
    obtain ⟨defn, mem, named, stated⟩ := exists_of_firstPart? found
    obtain ⟨other, foundOther⟩ := firstStatuses?_isSome_of_mem ((members defn).mpr mem) stated
    rw [named] at foundOther
    obtain ⟨earliest, earliestMember, earliestNamed, earliestStated⟩ :=
      exists_of_firstPart? foundOther
    have earliestSecond := (members earliest).mp earliestMember
    have agree : ¬ earliest.Disagrees defn := fun differ =>
      agreeing ⟨earliest, earliestSecond, defn, mem, earliestNamed, named, differ⟩
    have nodes : earliest.node = defn.node := by
      by_contra ne
      exact agree (.inl ne)
    have lookups : ∀ status, other.get? status = codes.get? status := by
      intro status
      by_contra ne
      exact agree (.inr ⟨other, codes, earliestStated, stated, status, ne⟩)
    rw [ofTypes] at earliestSecond mem
    obtain ⟨one, -, atOne⟩ := mem_flatMap.mp earliestSecond
    obtain ⟨type, listed, atType⟩ := mem_flatMap.mp mem
    rw [foundOther, Option.some.injEq]
    exact statuses_eq_of_agree atOne atType (sound type listed) (earliestNamed.trans named.symm)
      nodes earliestStated stated lookups

theorem mem_definitions_congr (members : ∀ type, type ∈ others ↔ type ∈ descriptors)
    (defn : Definition) : defn ∈ definitions others ↔ defn ∈ definitions descriptors := by
  simp only [definitions, mem_flatMap, members]

/-- Descriptors without a type nested in one of its own name are synthesized one
after another, from nothing. A name is in conflict exactly if two definitions of
it, at any depth, differ; and the node under a name is that of the definition
completed first. The same descriptors in any other order, and any number of times,
are synthesized with the same conflicts; without a conflict, they give the same
nodes and the same status maps. -/
theorem conflicts_exact {descriptors : List Descriptor} {after : Session}
    (unnested : ∀ descriptor ∈ descriptors, descriptor.Unnested)
    (synthesized : Yields (ofDescriptors descriptors) {} () after) :
    (∀ name, name ∈ after.table.conflicts ↔ Conflicting (definitions descriptors) name) /\
      (∀ name, after.table.get? name = firstNode? (definitions descriptors) name) /\
      ∀ others : List Descriptor, (∀ descriptor, descriptor ∈ others ↔ descriptor ∈ descriptors) ->
        ∃ final, Yields (ofDescriptors others) {} () final /\
          (∀ name, name ∈ final.table.conflicts ↔ name ∈ after.table.conflicts) /\
          (after.table.conflicts = [] -> ∀ name, final.table.get? name = after.table.get? name /\
              final.table.statusMap? name = after.table.statusMap? name) := by
  obtain ⟨reflects, grounded⟩ := ofDescriptors_reflects Session.Reflects.start unnested synthesized
  rw [nil_append] at reflects
  have holds : after.table.Holds (definitions descriptors) := reflects.table
  refine ⟨holds.conflicts, holds.schemas, fun others members => ?_⟩
  have sound : ∀ descriptor ∈ others, descriptor.Sound := by
    intro descriptor mem
    have listed := (members descriptor).mp mem
    exact ⟨grounded descriptor listed, fun type inner =>
      reflects.sound type (mem_flatMap.mpr ⟨descriptor, listed, inner⟩)⟩
  obtain ⟨final, again⟩ := ofDescriptors_succeeds sound {} rfl
  have finalReflects := (ofDescriptors_reflects Session.Reflects.start
    (fun descriptor mem => unnested descriptor ((members descriptor).mp mem)) again).1
  rw [nil_append] at finalReflects
  have finalHolds : final.table.Holds (definitions others) := finalReflects.table
  have sameDefinitions := mem_definitions_congr members
  refine ⟨final, again, fun name => ?_, fun unconflicted name => ?_⟩
  · rw [finalHolds.conflicts, holds.conflicts]
    exact conflicting_congr sameDefinitions name
  · have agreeing : ¬ Conflicting (definitions descriptors) name := by
      rw [<- holds.conflicts, unconflicted]
      exact not_mem_nil
    rw [finalHolds.schemas, holds.schemas, finalHolds.statuses, holds.statuses]
    exact ⟨firstNode?_congr sameDefinitions agreeing,
      firstStatuses?_congr sameDefinitions rfl reflects.sound agreeing⟩

/-- An order with an item by number, and an error of the order with an item by
name. -/
def twoItems : List Descriptor :=
  [.struct "Order" [⟨"item", .struct "Item" [⟨"id", .primitive "int", false⟩] "", false⟩] "",
    .union "OrderError"
      [⟨"Missing", [⟨"item", .struct "Item" [⟨"id", .primitive "str", false⟩] "", false⟩],
        "404 No such item"⟩]]

/-- The two items inside the order and its error are in conflict, in either order. -/
theorem conflicts_exact_twoItems : ∃ after final, Yields (ofDescriptors twoItems) {} () after /\
      Yields (ofDescriptors twoItems.reverse) {} () final /\
      Conflicting (definitions twoItems) "Item" /\ "Item" ∈ final.table.conflicts := by
  have synthesized : Yields (ofDescriptors twoItems) {} ()
      ((ofDescriptors twoItems).run.run {}).2 := rfl
  have found : "Item" ∈ ((ofDescriptors twoItems).run.run {}).2.table.conflicts := by decide
  obtain ⟨conflicts, -, reordered⟩ := conflicts_exact (by decide) synthesized
  obtain ⟨final, again, same, -⟩ := reordered twoItems.reverse fun _ => mem_reverse
  exact ⟨_, final, synthesized, again, (conflicts "Item").mp found, (same "Item").mpr found⟩
end RouteDocs.Schema
