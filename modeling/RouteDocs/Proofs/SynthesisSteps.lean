import RouteDocs.Proofs.Steps
import RouteDocs.Proofs.Table

namespace RouteDocs.Schema
open List Session

/-!
# The steps of a synthesis

Each function of the synthesis is taken apart once: when it succeeds, with which value, and what it
has done to the table and to the memo. The laws are exact, so that they serve both to open a
successful synthesis and to show that a synthesis succeeds. Notices only make the session after a
step definite.
-/

namespace Session
variable {σ : Type} (sess : Session σ)

def conflicted (name : String) (clash : Clash) : Session σ :=
  { sess with
    table := sess.table.recordConflict name
    notices := sess.notices ++ [.conflict name clash] }

def warned (message : String) : Session σ :=
  { sess with
    table := sess.table.warn message
    notices := sess.notices ++ [.variant message] }

def noted (union : String) (variant : Variant) : Session σ := if variant.status?.isSome then sess
  else sess.warned (missingStatus union variant.name)

def remember (name : String) (desc : Descriptor) : Session σ :=
  if sess.memo.contains name then sess
  else { sess with memo := sess.memo.insert name desc }

def defined (name : String) (change : Table σ × Option Clash) : Session σ :=
  { sess with
    table := change.1
    notices := sess.notices ++ (change.2.map (Notice.conflict name)).toList }

@[simp] theorem table_remember (name : String) (desc : Descriptor) :
    (sess.remember name desc).table = sess.table := by
  unfold remember
  split <;> rfl

theorem get?_memo_remember (name : String) (desc : Descriptor) (other : String) :
    (sess.remember name desc).memo.get? other =
      (sess.memo.get? other).or (if name = other then some desc else none) := by
  have memo : (sess.remember name desc).memo =
      if sess.memo.contains name then sess.memo else sess.memo.insert name desc := by
    unfold remember
    split <;> rfl
  rw [memo]
  exact sess.memo.get?_insert_new name other desc
end Session

namespace Synthesis
variable {σ α : Type} {pre post : Session σ} {name : String} {variants : List ErrorVariant}

theorem run_inside (owner : String) (step : Synthesis σ α) (pre : Session σ) :
    (inside owner step).run.run pre = match step.run.run pre with
      | (.ok value, mid) => (.ok value, mid)
      | (.error failure, mid) => (.error (failure.inside owner), mid) := by
  unfold inside
  simp only [ExceptT.run_mk, StateT.run_bind]
  cases ran : (step.run.run pre : Except Failure α × Session σ) with
  | mk answer mid => cases answer <;> rfl

@[simp] theorem yields_inside {result : α} :
    Yields (inside owner step) pre result post ↔ Yields step pre result post := by
  unfold Yields
  rw [run_inside]
  cases ran : (step.run.run pre : Except Failure α × Session σ) with
  | mk answer mid =>
    cases answer with
    | ok value => exact Iff.rfl
    | error failure =>
      constructor <;>
        · intro impossible
          cases impossible

@[simp] theorem yields_fail : Yields (fail fault : Synthesis σ α) pre result post ↔ False :=
  yields_throw

@[simp] theorem yields_recordConflict : Yields (recordConflict name clash) pre result post ↔
      post = pre.conflicted name clash := by
  simp [recordConflict, notice, changeTable, conflicted]

theorem yields_define : Yields (define name defn) pre result post ↔
      pre.table.frozen = false /\ post = pre.defined name (defn pre.table) := by
  unfold define notice Session.defined
  cases writable : pre.table.frozen <;> cases clash : (defn pre.table).2 <;>
    simp [writable, clash]

theorem run_staged (step : Synthesis σ α) (pre : Session σ) : (staged step).run.run pre =
      match step.run.run pre with
      | (.ok value, post) => (.ok value, post)
      | (.error failure, post) => (.error failure, { pre with notices := post.notices }) := by
  unfold staged
  simp only [ExceptT.run_mk, StateT.run_bind, StateT.run_get, pure_bind]
  cases ran : (step.run.run pre : Except Failure α × Session σ) with
  | mk answer post => cases answer <;> rfl

section
variable [Storable σ] {name : String} {active : List (String × Descriptor)}
  {desc : Descriptor}

theorem yields_register : Yields (register name schema) pre result post ↔ pre.table.frozen = false /\
        post = pre.defined name (pre.table.define name schema) :=
  yields_define

theorem yields_named_inside (around : active.lookup name = some outer) :
    Yields (named active name desc reference build) pre result post ↔ result = reference /\
        post = if outer = desc then pre else pre.conflicted name .nestedShape := by
  unfold named
  by_cases same : outer = desc <;> simp [around, same, and_comm]

/-- Elsewhere, a type that is remembered is only referred to; any other one is built,
remembered and registered. -/
theorem yields_named (free : active.lookup name = none) :
    Yields (named active name desc reference build) pre result post ↔ result = reference /\
        ((pre.memo.get? name = some desc /\ post = pre) \/
          (pre.memo.get? name ≠ some desc /\ ∃ node mid, Yields build pre node mid /\
            Yields (register name (Storable.ofNode node)) (mid.remember name desc) () post)) := by
  have remembering : ∀ sess : Session σ, (if sess.memo.contains name = true then sess
        else { sess with memo := sess.memo.insert name desc }) =
      sess.remember name desc := fun _ => rfl
  by_cases known : pre.memo.get? name = some desc
  · simp [named, free, known]
  · have opened : Yields (named active name desc reference build) pre result post ↔
        ∃ node mid, Yields build pre node mid /\
          (∃ done, Yields (register name (Storable.ofNode node)) (mid.remember name desc)
            done post) /\ result = reference := by
      simp [named, free, known, remembering]
    rw [opened]
    constructor
    · rintro ⟨node, mid, built, ⟨⟨⟩, registered⟩, same⟩
      exact ⟨same, .inr ⟨known, node, mid, built, registered⟩⟩
    · rintro ⟨same, ⟨remembered, -⟩ | ⟨-, node, mid, built, registered⟩⟩
      · exact absurd remembered known
      · exact ⟨node, mid, built, ⟨(), registered⟩, same⟩
end

variable {union : String}

theorem yields_variantStatus (variant : Variant) :
    Yields (variantStatus union variant.name variant.doc) pre result post ↔
      (∃ reading, readStatus variant.doc.toList = .ok reading) /\
        result = (variant.error.status, variant.error.description) /\
        post = pre.noted union variant := by
  unfold variantStatus noted
  cases reads : readStatus variant.doc.toList with
  | error overflow => simp
  | ok reading =>
    obtain ⟨status?, rest⟩ := reading
    have read : variant.reading = (status?, rest) := by
      simp [Variant.reading, reads, Except.toOption]
    have known : variant.status? = status?.filter Http.isStatus := by rw [Variant.status?, read]
    cases valid : status?.filter Http.isStatus with
    | some status => simp [valid, known, Variant.error, read]
    | none => simp [valid, known, Variant.error, read, notice, changeTable, warned, and_comm]

def definedAll (sess : Session) (defns : List Definition) : Session :=
  defns.foldl (fun sess defn => sess.defined defn.name (sess.table.define defn.name defn.node)) sess

theorem frozen_defined (sess : Session) (defn : Definition) : (sess.defined defn.name
      (sess.table.define defn.name defn.node)).table.frozen = sess.table.frozen :=
  (sess.table.define_frame defn.name defn.node).2.2

theorem definedAll_frame (sess : Session) (defns : List Definition) :
    (definedAll sess defns).memo = sess.memo /\
      (definedAll sess defns).table.frozen = sess.table.frozen := by
  induction defns generalizing sess with
  | nil => exact ⟨rfl, rfl⟩
  | cons defn rest ih =>
    have later := ih (sess.defined defn.name (sess.table.define defn.name defn.node))
    exact ⟨later.1, later.2.trans (frozen_defined sess defn)⟩

theorem table_definedAll (sess : Session) (plain : ∀ defn ∈ defns, defn.statuses? = none) :
    (definedAll sess defns).table = defns.foldl Table.enter sess.table := by
  induction defns generalizing sess with
  | nil => rfl
  | cons defn rest ih =>
    have entered : sess.table.enter defn = (sess.table.define defn.name defn.node).1 := by
      rw [Table.enter, Table.enterStatuses, plain defn (.head _)]
    have later := ih (sess.defined defn.name (sess.table.define defn.name defn.node))
      (forall_mem_cons.mp plain).2
    rw [foldl_cons, entered]
    exact later

theorem yields_register_each {pre post : Session} : Yields (List.foldlM (fun _ variant =>
        register (variantName union variant.name) (Storable.ofNode variant.node))
        PUnit.unit variants : Synthesis Node PUnit) pre result post ↔
      (variants ≠ [] -> pre.table.frozen = false) /\
        post = definedAll pre (variants.map (ErrorVariant.definition union)) := by
  induction variants generalizing pre with
  | nil => simp [definedAll]
  | cons variant rest ih =>
    rw [foldlM_cons, yields_bind]
    have here := frozen_defined pre (variant.definition union)
    constructor
    · rintro ⟨⟨⟩, mid, registered, remaining⟩
      obtain ⟨writable, rfl⟩ := yields_register.mp registered
      obtain ⟨-, rfl⟩ := ih.mp remaining
      exact ⟨fun _ => writable, rfl⟩
    · rintro ⟨writable, rfl⟩
      have open' := writable (cons_ne_nil _ _)
      exact ⟨⟨⟩, _, yields_register.mpr ⟨open', rfl⟩, ih.mpr ⟨fun _ => here.trans open', rfl⟩⟩

theorem registerVariants_eq (union : String) (variants : List ErrorVariant) :
    (registerVariants union variants : Synthesis Node Node) = (do
      List.foldlM (fun _ variant =>
        register (variantName union variant.name) (Storable.ofNode variant.node))
        PUnit.unit variants
      registerStatuses union (StatusMap.ofVariants union variants)
      return unionNode union variants) := by
  simp [registerVariants]

theorem yields_registerVariants {pre post : Session} :
    Yields (registerVariants union variants : Synthesis Node Node) pre result post ↔
      pre.table.frozen = false /\ result = unionNode union variants /\
        post = (definedAll pre (variants.map (ErrorVariant.definition union))).defined union
          ((definedAll pre (variants.map (ErrorVariant.definition union))).table.defineStatuses
            union (StatusMap.ofVariants union variants)) := by
  have frame := definedAll_frame pre (variants.map (ErrorVariant.definition union))
  rw [registerVariants_eq, yields_bind]
  constructor
  · rintro ⟨⟨⟩, mid, registered, rest⟩
    obtain ⟨-, rfl⟩ := yields_register_each.mp registered
    obtain ⟨⟨⟩, last, stated, finished⟩ := yields_bind.mp rest
    obtain ⟨writable, rfl⟩ := yields_define.mp stated
    obtain ⟨rfl, rfl⟩ := yields_pure.mp finished
    exact ⟨frame.2.symm.trans writable, rfl, rfl⟩
  · rintro ⟨writable, rfl, rfl⟩
    refine ⟨⟨⟩, _, yields_register_each.mpr ⟨fun _ => writable, rfl⟩, yields_bind.mpr ?_⟩
    exact ⟨⟨⟩, _, yields_define.mpr ⟨frame.2.trans writable, rfl⟩, yields_pure.mpr ⟨rfl, rfl⟩⟩

/-! None of these steps freezes the table. -/

theorem frozen_conflictedUnless {condition : Prop} [Decidable condition] {pre : Session} :
    (if condition then pre else pre.conflicted name clash).table.frozen = pre.table.frozen := by
  split
  · rfl
  · exact pre.table.frozen_recordConflict name

theorem frozen_noted (sess : Session) (union : String) (variant : Variant) :
    (sess.noted union variant).table.frozen = sess.table.frozen := by
  unfold noted
  split <;> rfl

theorem frozen_of_registerVariants {pre post : Session}
    (built : Yields (registerVariants union variants) pre result post) :
    post.table.frozen = pre.table.frozen := by
  obtain ⟨-, -, rfl⟩ := yields_registerVariants.mp built
  have frame := definedAll_frame pre (variants.map (ErrorVariant.definition union))
  exact ((Table.defineStatuses_frame _ _ _).2.2).trans frame.2

section
variable {pre post : Session} {active : List (String × Descriptor)} {name : String} {result : Node}
  {desc : Descriptor} {fields : List Field} {about : String} {variants : List Variant}
  {parts : List (String × Node)} {errors : List ErrorVariant} {mid : Session}

theorem yields_type_inside (desc : Descriptor) (isType : desc.isType = true)
    (around : active.lookup desc.typeName = some outer) :
    Yields (node active desc) pre result post ↔ result = desc.shape /\
        post = if outer = desc then pre else pre.conflicted desc.typeName .nestedShape := by
  cases desc with
  | struct name fields about =>
    rw [node]
    exact yields_named_inside around
  | union name variants =>
    rw [node]
    exact yields_named_inside around
  | _ => cases isType

theorem yields_struct (free : active.lookup name = none) :
    Yields (node active (.struct name fields about)) pre result post ↔ result = .ref name /\
        ((pre.memo.get? name = some (.struct name fields about) /\ post = pre) \/
          (pre.memo.get? name ≠ some (.struct name fields about) /\ ∃ parts mid,
              Yields (members ((name, .struct name fields about) :: active) [] fields)
                pre parts mid /\ Yields (register name (.object parts about none))
                (mid.remember name (.struct name fields about)) () post)) := by
  rw [node, yields_named free]
  simp only [yields_bind, yields_inside, yields_pure]
  refine and_congr_right fun _ => or_congr_right (and_congr_right fun _ => ?_)
  constructor
  · rintro ⟨_, mid, ⟨parts, _, built, rfl, rfl⟩, registered⟩
    exact ⟨parts, _, built, registered⟩
  · rintro ⟨parts, mid, built, registered⟩
    exact ⟨_, mid, ⟨parts, mid, built, rfl, rfl⟩, registered⟩

theorem yields_union (free : active.lookup name = none) :
    Yields (node active (.union name variants)) pre result post ↔ result = .enumRef name /\
        ((pre.memo.get? name = some (.union name variants) /\ post = pre) \/
          (pre.memo.get? name ≠ some (.union name variants) /\
            variants ≠ [] /\ (variants.map Variant.name).Nodup /\ ∃ errors mid registered,
              Yields (errorVariants ((name, .union name variants) :: active) name variants)
                pre errors mid /\
              Yields (registerVariants name errors) mid (unionNode name errors) registered /\
              Yields (register name (unionNode name errors))
                (registered.remember name (.union name variants)) () post)) := by
  rw [node, yields_named free]
  refine and_congr_right fun _ => or_congr_right (and_congr_right fun _ => ?_)
  by_cases empty : variants = []
  · simp [empty]
  · by_cases nodup : (variants.map Variant.name).Nodup
    · have opened : ∀ node mid, Yields (do
          if variants.isEmpty then fail (.noVariants name)
          if !(variants.map Variant.name).Nodup then fail (.repeatedVariants name)
          registerVariants name
            (<- errorVariants ((name, .union name variants) :: active) name variants))
            pre node mid ↔
          ∃ errors middle,
            Yields (errorVariants ((name, .union name variants) :: active) name variants)
              pre errors middle /\
            Yields (registerVariants name errors) middle node mid := by
        intro node mid
        simp [empty, nodup]
      constructor
      · rintro ⟨node, registered, built, defined⟩
        obtain ⟨errors, mid, read, variantsBuilt⟩ := (opened node registered).mp built
        obtain ⟨-, rfl, -⟩ := yields_registerVariants.mp variantsBuilt
        exact ⟨empty, nodup, errors, mid, registered, read, variantsBuilt, defined⟩
      · rintro ⟨-, -, errors, mid, registered, read, variantsBuilt, defined⟩
        exact ⟨_, registered, (opened _ registered).mpr ⟨errors, mid, read, variantsBuilt⟩, defined⟩
    · simp [List.isEmpty_iff, empty, nodup]

theorem yields_members_cons : Yields (members active seen (field :: rest)) pre parts post ↔
      field.name ∉ seen /\ ∃ shape mid later, Yields (node active field.type) pre shape mid /\
        Yields (members active (field.name :: seen) rest) mid later post /\
        parts = (field.name, if field.optional && !shape.isOptional then .optional shape
          else shape) :: later := by
  obtain ⟨fieldName, type, optional⟩ := field
  rw [members]
  by_cases repeated : fieldName ∈ seen
  · simp [repeated]
  · simp only [repeated, if_false, yields_bind, yields_pure, not_false_eq_true, true_and]
    constructor
    · rintro ⟨shape, mid, built, later, _, read, rfl, rfl⟩
      exact ⟨shape, mid, later, built, read, rfl⟩
    · rintro ⟨shape, mid, later, built, read, rfl⟩
      exact ⟨shape, mid, built, later, _, read, rfl, rfl⟩

theorem yields_errorVariants_cons :
    Yields (errorVariants active union (variant :: rest)) pre errors post ↔
      ∃ status noted parts mid later,
        Yields (variantStatus union variant.name variant.doc) pre status noted /\
        Yields (members active [] variant.fields) noted parts mid /\
        discriminator ∉ parts.map Prod.fst /\
        Yields (errorVariants active union rest) mid later post /\
        errors = ⟨status.1, variant.name, status.2, parts⟩ :: later := by
  obtain ⟨variantName', fields, doc⟩ := variant
  rw [errorVariants]
  simp only [yields_bind, yields_inside]
  constructor
  · rintro ⟨status, noted, documented, parts, mid, read, remaining⟩
    by_cases tagged : discriminator ∈ parts.map Prod.fst
    · rw [if_pos tagged, yields_bind] at remaining
      obtain ⟨_, _, impossible, -⟩ := remaining
      exact absurd impossible yields_fail.mp
    · rw [if_neg tagged, yields_bind] at remaining
      obtain ⟨later, _, others, finished⟩ := remaining
      obtain ⟨rfl, rfl⟩ := yields_pure.mp finished
      exact ⟨status, noted, parts, mid, later, documented, read, tagged, others, rfl⟩
  · rintro ⟨status, noted, parts, mid, later, documented, read, untagged, others, rfl⟩
    refine ⟨status, noted, documented, parts, mid, read, ?_⟩
    rw [if_neg untagged, yields_bind]
    exact ⟨later, post, others, yields_pure.mpr ⟨rfl, rfl⟩⟩

theorem table_of_completed_struct (registered : Yields (register name (.object parts about none))
      (mid.remember name desc) () post) :
    post.table = mid.table.enter (structDefinition name about parts) /\
      post.memo = (mid.remember name desc).memo := by
  obtain ⟨-, rfl⟩ := yields_register.mp registered
  refine ⟨?_, rfl⟩
  simp only [Session.defined, table_remember]
  rfl

theorem table_of_completed_union
    (variantsBuilt : Yields (registerVariants name errors) mid (unionNode name errors) registered)
    (defined : Yields (register name (unionNode name errors))
      (registered.remember name desc) () post) :
    post.table = (unionDefinitions name errors).foldl Table.enter mid.table /\
      post.memo = (mid.remember name desc).memo := by
  obtain ⟨-, -, rfl⟩ := yields_registerVariants.mp variantsBuilt
  obtain ⟨-, rfl⟩ := yields_register.mp defined
  have frame := definedAll_frame mid (errors.map (ErrorVariant.definition name))
  have plain : ∀ defn ∈ errors.map (ErrorVariant.definition name), defn.statuses? = none := by
    intro defn mem
    obtain ⟨error, -, rfl⟩ := mem_map.mp mem
    rfl
  constructor
  · rw [unionDefinitions, foldl_append, <- table_definedAll mid plain]
    simp only [Session.defined, table_remember]
    rfl
  · simp only [Session.defined, remember, frame.1]
    split <;> rfl
end

/-- What a synthesis works through: a descriptor, fields, or the variants of a union. -/
inductive Part where
  | type (desc : Descriptor)
  | fields (fields : List Field)
  | variants (union : String) (variants : List Variant)

def Part.types : Part -> List Descriptor
  | .type desc => desc.types
  | .fields listed => fieldTypes listed
  | .variants _ listed => variantTypes listed

def content : Descriptor -> Part
  | .union name variants => .variants name variants
  | .struct _ fields _ => .fields fields
  | _ => .fields []

theorem types_content (type : Descriptor) : (content type).types = type.inside := by
  cases type <;> rfl

/-- A synthesis that succeeds. A struct or a union is referred to inside a type of the same name,
skipped if it is remembered, and otherwise completed behind the types inside it. -/
inductive Runs : List (String × Descriptor) -> Part -> Session -> Session -> Prop
  | primitive {active sess name} : Runs active (.type (.primitive name)) sess sess
  | named {active sess name} : Runs active (.type (.named name)) sess sess
  | optional {active inner pre post} (runs : Runs active (.type inner) pre post) :
      Runs active (.type (.optional inner)) pre post
  | sequence {active inner pre post} (runs : Runs active (.type inner) pre post) :
      Runs active (.type (.sequence inner)) pre post
  | inside {active type outer sess} (isType : type.isType = true)
      (around : active.lookup type.typeName = some outer) :
      Runs active (.type type) sess (if outer = type then sess
        else sess.conflicted type.typeName .nestedShape)
  | remembered {active type sess} (isType : type.isType = true)
      (found : sess.memo.get? type.typeName = some type) :
      Runs active (.type type) sess sess
  | built {active type pre mid post} (isType : type.isType = true)
      (free : active.lookup type.typeName = none)
      (unknown : pre.memo.get? type.typeName ≠ some type) (sound : type.OwnSound)
      (inner : Runs ((type.typeName, type) :: active) (content type) pre mid)
      (table : post.table = type.ownDefinitions.foldl Table.enter mid.table)
      (memo : post.memo = (mid.remember type.typeName type).memo) :
      Runs active (.type type) pre post
  | noFields {active sess} : Runs active (.fields []) sess sess
  | field {active name type optional rest pre mid post}
      (here : Runs active (.type type) pre mid)
      (later : Runs active (.fields rest) mid post) :
      Runs active (.fields (⟨name, type, optional⟩ :: rest)) pre post
  | noVariants {active union sess} : Runs active (.variants union []) sess sess
  | variant {active union name fields doc rest pre mid post}
      (here : Runs active (.fields fields) (pre.noted union ⟨name, fields, doc⟩) mid)
      (later : Runs active (.variants union rest) mid post) :
      Runs active (.variants union (⟨name, fields, doc⟩ :: rest)) pre post

theorem fst_member (fields : List Field) :
    (fields.map Field.member).map Prod.fst = fields.map Field.name := by
  rw [map_map]
  rfl

/-! Whatever the table, the memo and the types around it, a step that succeeds gives the
reading of `Definitions`, and what it has read is without fault. -/

mutual
theorem runs_of_node {pre post : Session} : (desc : Descriptor) -> {result : Node} ->
      Yields (node active desc) pre result post ->
      result = desc.shape /\ desc.Grounded /\ Runs active (.type desc) pre post
  | .primitive name, result, yields => by
    rw [node] at yields
    cases known : primitive? name with
    | none => simp [known] at yields
    | some type =>
      simp only [known, yields_pure] at yields
      rw [yields.2]
      exact ⟨by simp [yields.1, Descriptor.shape, known], by simp [Descriptor.Grounded, known],
        .primitive⟩
  | .named name, result, yields => by
    rw [node, yields_pure] at yields
    rw [yields.2]
    exact ⟨yields.1, trivial, .named⟩
  | .optional inner, result, yields => by
    rw [node] at yields
    obtain ⟨shape, built, rfl⟩ := yields_bind_pure.mp yields
    obtain ⟨rfl, grounded, runs⟩ := runs_of_node inner built
    exact ⟨rfl, grounded, .optional runs⟩
  | .sequence inner, result, yields => by
    rw [node] at yields
    obtain ⟨shape, built, rfl⟩ := yields_bind_pure.mp yields
    obtain ⟨rfl, grounded, runs⟩ := runs_of_node inner built
    exact ⟨rfl, grounded, .sequence runs⟩
  | .struct name fields about, result, yields => by
    cases around : active.lookup name with
    | some outer =>
      obtain ⟨shape, rfl⟩ := (yields_type_inside (.struct name fields about) rfl around).mp yields
      exact ⟨shape, trivial, .inside rfl around⟩
    | none =>
      obtain ⟨shape, ⟨found, rfl⟩ | ⟨unknown, parts, mid, read, registered⟩⟩ :=
        (yields_struct around).mp yields
      · exact ⟨shape, trivial, .remembered rfl found⟩
      · obtain ⟨rfl, sound, -, runs⟩ := runs_of_members fields read
        have completed := table_of_completed_struct registered
        exact ⟨shape, trivial, .built rfl around unknown sound runs completed.1 completed.2⟩
  | .union name variants, result, yields => by
    cases around : active.lookup name with
    | some outer =>
      obtain ⟨shape, rfl⟩ := (yields_type_inside (.union name variants) rfl around).mp yields
      exact ⟨shape, trivial, .inside rfl around⟩
    | none =>
      obtain ⟨shape, ⟨found, rfl⟩ |
          ⟨unknown, nonempty, nodup, errors, mid, registered, read, built, defined⟩⟩ :=
        (yields_union around).mp yields
      · exact ⟨shape, trivial, .remembered rfl found⟩
      · obtain ⟨rfl, sound, runs⟩ := runs_of_errorVariants variants read
        have completed := table_of_completed_union built defined
        exact ⟨shape, trivial,
          .built rfl around unknown ⟨nonempty, nodup, sound⟩ runs completed.1 completed.2⟩

theorem runs_of_members {pre post : Session} {seen : List String} :
    (fields : List Field) -> {parts : List (String × Node)} ->
      Yields (members active seen fields) pre parts post ->
      parts = fields.map Field.member /\ FieldsSound fields /\
        (∀ field ∈ fields, field.name ∉ seen) /\ Runs active (.fields fields) pre post
  | [], parts, yields => by
    rw [members, yields_pure] at yields
    rw [yields.2]
    exact ⟨yields.1, ⟨nodup_nil, nofun⟩, nofun, .noFields⟩
  | ⟨name, type, optional⟩ :: rest, parts, yields => by
    obtain ⟨fresh, shape, mid, later, built, read, rfl⟩ := yields_members_cons.mp yields
    obtain ⟨rfl, grounded, here⟩ := runs_of_node type built
    obtain ⟨rfl, sound, unseen, runs⟩ := runs_of_members rest read
    have ne : name ∉ rest.map Field.name := by
      intro repeated
      obtain ⟨other, mem, same⟩ := mem_map.mp repeated
      exact unseen other mem (mem_cons.mpr (.inl same))
    refine ⟨rfl, ⟨nodup_cons.mpr ⟨ne, sound.distinct⟩, ?_⟩, ?_, .field here runs⟩
    · exact forall_mem_cons.mpr ⟨grounded, sound.grounded⟩
    · refine forall_mem_cons.mpr ⟨fresh, fun other mem => ?_⟩
      exact fun known => unseen other mem (.tail _ known)

theorem runs_of_errorVariants {pre post : Session} {union : String} :
    (variants : List Variant) -> {errors : List ErrorVariant} ->
      Yields (errorVariants active union variants) pre errors post ->
      errors = variants.map Variant.error /\ (∀ variant ∈ variants, variant.Sound) /\
        Runs active (.variants union variants) pre post
  | [], errors, yields => by
    rw [errorVariants, yields_pure] at yields
    rw [yields.2]
    exact ⟨yields.1, nofun, .noVariants⟩
  | ⟨name, fields, doc⟩ :: rest, errors, yields => by
    obtain ⟨status, noted, parts, mid, later, documented, read, untagged, others, rfl⟩ :=
      yields_errorVariants_cons.mp yields
    obtain ⟨readable, rfl, rfl⟩ := (yields_variantStatus _).mp documented
    obtain ⟨rfl, fieldsSound, -, here⟩ := runs_of_members fields read
    obtain ⟨rfl, restSound, runs⟩ := runs_of_errorVariants rest others
    rw [fst_member] at untagged
    exact ⟨rfl, forall_mem_cons.mpr ⟨⟨readable, fieldsSound, untagged⟩, restSound⟩,
      .variant here runs⟩
end

def ofDescriptors (descs : List Descriptor) : Synthesis Node Unit :=
  descs.forM fun desc => do
    let _ <- ofDescriptor desc

theorem yields_ofDescriptors_cons {pre post : Session} {rest : List Descriptor} :
    Yields (ofDescriptors (desc :: rest)) pre () post ↔
      ∃ shape mid, Yields (ofDescriptor desc) pre shape mid /\
        Yields (ofDescriptors rest) mid () post := by
  unfold ofDescriptors
  rw [yields_forM_cons]
  constructor
  · rintro ⟨mid, built, remaining⟩
    obtain ⟨shape, built, -⟩ := yields_bind_pure.mp built
    exact ⟨shape, _, built, remaining⟩
  · rintro ⟨shape, mid, built, remaining⟩
    exact ⟨mid, yields_bind.mpr ⟨shape, mid, built, yields_pure.mpr ⟨rfl, rfl⟩⟩, remaining⟩

theorem yields_ofDescriptors_append {pre post : Session} :
    Yields (ofDescriptors (first ++ second)) pre () post ↔
      ∃ mid, Yields (ofDescriptors first) pre () mid /\
        Yields (ofDescriptors second) mid () post := by
  unfold ofDescriptors
  rw [show List.forM (first ++ second) _ = _ from forM_append, yields_bind]
  exact ⟨fun ⟨_, whole⟩ => whole, fun whole => ⟨⟨⟩, whole⟩⟩

theorem yields_ofDescriptors_singleton {pre post : Session} :
    Yields (ofDescriptors [desc]) pre () post ↔
      ∃ shape, Yields (ofDescriptor desc) pre shape post := by
  rw [yields_ofDescriptors_cons]
  simp only [ofDescriptors, yields_forM_nil, exists_eq_right']
end Synthesis
end RouteDocs.Schema
