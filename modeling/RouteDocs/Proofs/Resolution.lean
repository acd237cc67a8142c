import RouteDocs.Proofs.Translation

namespace RouteDocs.Declaration
open List OrderedMap Record Schema
open Yaml (Value)

/-!
# Resolving declared types

Where the resolver cuts a cycle depends on which types are asked for first, so the descriptor of a
type is not a function of what is written. Three things are certain, and they are what `Settled`
says of a completed type: it stands for what is written about it; every type in it, at whatever
depth, is the one the cache has under its name; and no type of its own name is inside it. A type is
absent from the cache while it is being built, and so are the types under way around it.
-/

/-- A name that is declared is left as it is, or it is replaced by the completed type. -/
def Refers (types : OrderedMap String Value) (cache : Cache) (name : String) (type : Descriptor) :
    Prop :=
  (type = .named name /\ name ∈ types.keys) \/ cache.get? name = some type

structure Settled (types : OrderedMap String Value) (cache : Cache) (name : String)
    (type : Descriptor) : Prop where
  isType : type.isType = true
  typeName : type.typeName = name
  drawn : ∀ inner ∈ type.types, cache.get? inner.typeName = some inner
  named : ∀ inner ∈ type.namedTypes, inner ∈ types.keys
  unnested : type.typeName ∉ type.inside.map Descriptor.typeName
  written : ∃ value spec written, types.get? name = some value /\ value.opened = .map spec /\
    Written.ofSpec? spec = some written /\ written.Describes (Refers types cache) name type

def Coherent (types : OrderedMap String Value) (cache : Cache) : Prop :=
  ∀ name type, cache.get? name = some type -> Settled types cache name type

/-- What a step of the resolution does to a cache while some types are being built. -/
structure Advances (types : OrderedMap String Value) (building : List String)
    (pre post : Cache) : Prop where
  coherent : Coherent types post
  kept : ∀ name type, pre.get? name = some type -> post.get? name = some type
  spared : ∀ name ∈ building, pre.get? name = none -> post.get? name = none

section
variable {types : OrderedMap String Value} {building : List String} {pre mid post : Cache}
  {cache : Cache} {type : Descriptor}

theorem Advances.refl (coherent : Coherent types pre) : Advances types building pre pre :=
  ⟨coherent, fun _ _ found => found, fun _ _ absent => absent⟩

theorem Advances.trans (first : Advances types building pre mid)
    (second : Advances types building mid post) : Advances types building pre post where
  coherent := second.coherent
  kept := fun name type found => second.kept name type (first.kept name type found)
  spared := fun name listed absent => second.spared name listed (first.spared name listed absent)

theorem Advances.mono (advances : Advances types building pre post) (sub : fewer ⊆ building) :
    Advances types fewer pre post :=
  ⟨advances.coherent, advances.kept, fun name listed => advances.spared name (sub listed)⟩

theorem Advances.refers (advances : Advances types building pre post) (name : String)
    (type : Descriptor) (refers : Refers types pre name type) : Refers types post name type :=
  refers.imp_right (advances.kept name type)

theorem Settled.mono (settled : Settled types cache name type)
    (kept : ∀ other known, cache.get? other = some known -> further.get? other = some known) :
    Settled types further name type := by
  obtain ⟨value, spec, written, found, opened, read, described⟩ := settled.written
  exact ⟨settled.isType, settled.typeName,
    fun inner mem => kept _ _ (settled.drawn inner mem), settled.named, settled.unnested,
    value, spec, written, found, opened, read,
    described.mono fun other known => Or.imp_right (kept other known)⟩

theorem Coherent.names (coherent : Coherent types cache) (name : String) (type : Descriptor)
    (refers : Refers types cache name type) : Names name type :=
  refers.imp And.left fun found => ⟨(coherent name type found).isType, (coherent name type found).typeName⟩

def Drawn (types : OrderedMap String Value) (cache : Cache) (inside : List Descriptor)
    (named : List String) : Prop :=
  (∀ inner ∈ inside, cache.get? inner.typeName = some inner) /\ ∀ inner ∈ named, inner ∈ types.keys

theorem drawn_of_denotes (coherent : Coherent types cache) : (expr : TypeExpr) ->
    {type : Descriptor} -> expr.Denotes (Refers types cache) type ->
      Drawn types cache type.types type.namedTypes
  | .primitive _, _, denotes => by
    obtain rfl := denotes
    exact ⟨forall_mem_nil _, forall_mem_nil _⟩
  | .reference name, type, denotes => by
    rcases denotes with ⟨rfl, decl⟩ | found
    · exact ⟨forall_mem_nil _, forall_mem_singleton.mpr decl⟩
    · exact ⟨(coherent name type found).drawn, (coherent name type found).named⟩
  | .optional expr, _, denotes => by
    obtain ⟨within, rfl, denoted⟩ := denotes
    have drawn := drawn_of_denotes coherent expr denoted
    exact drawn
  | .wrapped _ _ expr, _, denotes => by
    obtain ⟨wrap, within, known, rfl, denoted⟩ := denotes
    have drawn := drawn_of_denotes coherent expr denoted
    rcases wrap?_cases known with ⟨rfl, -⟩ | ⟨rfl, -⟩ <;> exact drawn

theorem drawn_of_fields (coherent : Coherent types cache)
    (described : Forall₂ (WrittenField.Describes (Refers types cache)) fields members) :
    Drawn types cache (fieldTypes members) (fieldNamedTypes members) := by
  have each (field : Field) (listed : field ∈ members) :
      Drawn types cache field.type.types field.type.namedTypes := by
    obtain ⟨written, -, here⟩ := (exists_of_forall₂ described).2 field listed
    exact drawn_of_denotes coherent written.type here.type
  constructor
  · intro inner mem
    obtain ⟨field, listed, inType⟩ := mem_fieldTypes.mp mem
    exact (each field listed).1 inner inType
  · intro inner mem
    obtain ⟨field, listed, inType⟩ := mem_fieldNamedTypes.mp mem
    exact (each field listed).2 inner inType

theorem inside_of_describes (coherent : Coherent types cache) {written : Written}
    (described : written.Describes (Refers types cache) name type) :
    type.isType = true /\ type.typeName = name /\ Drawn types cache type.inside type.namedTypes := by
  cases written with
  | struct fields about =>
    obtain ⟨members, rfl, held⟩ := described
    exact ⟨rfl, rfl, drawn_of_fields coherent held⟩
  | union variants =>
    obtain ⟨members, rfl, held⟩ := described
    have each (variant : Variant) (listed : variant ∈ members) : Drawn types cache
        (fieldTypes variant.fields) (fieldNamedTypes variant.fields) := by
      obtain ⟨_, -, here⟩ := (exists_of_forall₂ held).2 variant listed
      exact drawn_of_fields coherent here.fields
    refine ⟨rfl, rfl, fun inner mem => ?_, fun inner mem => ?_⟩
    · obtain ⟨variant, listed, inFields⟩ := mem_variantTypes.mp mem
      exact (each variant listed).1 inner inFields
    · obtain ⟨variant, listed, inFields⟩ := mem_variantNamedTypes.mp mem
      exact (each variant listed).2 inner inFields
end

namespace Resolution
variable {pre post : Cache} {result name : String} {value : Value}
  {types : OrderedMap String Value} {building : List String} {type : Descriptor}

theorem yields_checked {α : Type} {reading : Checked α} {result : α} :
    Yields (checked reading : Resolution α) pre result post ↔ reading = .valid result /\ post = pre := by
  cases reading with
  | valid value => simp [checked, eq_comm]
  | faulty faults => simp [checked]

theorem text?_eq_some_iff {text : String} : text? value = some text ↔ Record.text value = .valid text := by
  unfold text?
  cases Record.text value with
  | valid other => simp
  | faulty faults => simp

theorem yields_readText {mem : String} : Yields (readText mem value : Resolution _) pre result post ↔
    text? value = some result /\ post = pre := by
  rw [readText, yields_checked, text?_eq_some_iff]
  cases Record.text value <;> simp [Checked.below]

theorem yields_wordsOf : Yields (wordsOf value : Resolution _) pre result post ↔
      value.words = .ok result /\ post = pre := by
  unfold wordsOf
  cases value.words with
  | ok words => simp [eq_comm]
  | error cause => simp

theorem toOption_words : value.words.toOption = some words ↔ value.words = .ok words := by
  cases value.words <;> simp [Except.toOption]

/-! ## What is written is all that counts

A type is built by reading its parts and looking up names on the way. The same is done if
all parts are read first. -/

section
variable (resolve : String -> Resolution Descriptor)

def exprOf (expr : TypeExpr) : Resolution Descriptor :=
  expr.descriptor (fun fault => throw (.expression fault)) resolve

def fieldOf (field : WrittenField) : Resolution Field :=
  return ⟨field.name, <- exprOf resolve field.type, field.optional⟩

def variantOf (variant : WrittenVariant) : Resolution Variant :=
  return ⟨variant.name, <- variant.fields.mapM (fieldOf resolve), variant.doc⟩

def writtenOf (name : String) : Written -> Resolution Descriptor
  | .struct fields about => return .struct name (<- fields.mapM (fieldOf resolve)) about
  | .union variants => return .union name (<- variants.mapM (variantOf resolve))

variable {resolve} {owner : String} {entries : List (Value × Value)} {members : List Field}
  {listed : List Variant}

theorem yields_typeOf : Yields (typeOf resolve value) pre type post ↔
    ∃ words, words? value = some words /\
      Yields (exprOf resolve (TypeExpr.read words.toList)) pre type post := by
  unfold typeOf
  cases value with
  | brokenText pieces => simp [words?]
  | null | bool | int | real | text | moment | bytes | list | pair | map | set | node =>
    simp only [words?, toOption_words, yields_bind, yields_wordsOf]
    constructor
    · rintro ⟨words, _, ⟨spoken, rfl⟩, built⟩
      exact ⟨words, spoken, built⟩
    · rintro ⟨words, spoken, built⟩
      exact ⟨words, pre, ⟨spoken, rfl⟩, built⟩

theorem yields_fieldList : Yields (fieldList resolve owner entries) pre members post ↔
    ∃ fields, entries.mapM writtenField? = some fields /\
      Yields (fields.mapM (fieldOf resolve)) pre members post := by
  induction entries generalizing pre members post with
  | nil => simp [fieldList]
  | cons entry rest ih =>
    obtain ⟨key, spec⟩ := entry
    rw [fieldList]
    rcases parts : fieldParts spec with ⟨_ | written, optional⟩
    · simp [writtenField?, parts]
    · simp only [yields_bind, yields_typeOf, yields_readText, yields_pure, ih, mapM_cons,
        writtenField?, parts, Option.bind_eq_bind, Option.pure_def, Option.bind_eq_some_iff,
        Option.some.injEq]
      constructor
      · rintro ⟨type, mid, ⟨words, spoken, built⟩, name, _, ⟨named, rfl⟩, others, _,
          ⟨fields, read, remaining⟩, rfl, rfl⟩
        refine ⟨_, ⟨_, ⟨_, rfl, name, named, words, spoken, rfl⟩, fields, read, rfl⟩, ?_⟩
        exact yields_mapM_cons.mpr ⟨_, _, others,
          yields_bind.mpr ⟨type, _, built, yields_pure.mpr ⟨rfl, rfl⟩⟩, remaining, rfl⟩
      · rintro ⟨_, ⟨_, ⟨_, rfl, name, named, words, spoken, rfl⟩, fields, read, rfl⟩, walked⟩
        obtain ⟨_, mid, others, here, remaining, rfl⟩ := yields_mapM_cons.mp walked
        obtain ⟨type, built, rfl⟩ := yields_bind_pure.mp here
        exact ⟨type, _, ⟨words, spoken, built⟩, name, _, ⟨named, rfl⟩, others, post,
          ⟨fields, read, remaining⟩, rfl, rfl⟩

theorem yields_fields : Yields (fields resolve owner written?) pre members post ↔
      ∃ fields, writtenFields? written? = some fields /\
        Yields (fields.mapM (fieldOf resolve)) pre members post := by
  unfold fields writtenFields?
  generalize written?.map Value.opened = opened
  split
  · simp
  · simp
  · exact yields_fieldList
  · simp

theorem yields_variantParts {text : String} :
    (∃ doc, Yields (variantParts spec : Resolution _) pre (doc, fields?) post /\
        text? doc = some text) ↔ variantText? spec = some (text, fields?) /\ post = pre := by
  unfold variantParts variantText?
  generalize spec.opened = opened
  cases opened with
  | null | text => simp [text?, Record.text, eq_comm, and_assoc, and_comm]
  | brokenText => simp [text?, Record.text, Checked.fault]
  | map entries =>
    cases found : Value.find? "doc" entries with
    | none => simp [found, text?, Record.text, eq_comm, and_assoc, and_comm]
    | some value =>
      cases value with
      | brokenText pieces => simp [found, words?, text?, Record.text, Checked.fault]
      | null | bool | int | real | text | moment | bytes | list | pair | map | set | node =>
        simp only [found, words?, yields_bind, yields_wordsOf, yields_pure, Option.bind_eq_bind,
          Option.pure_def, Option.bind_eq_some_iff, toOption_words, text?_eq_some_iff]
        constructor
        · rintro ⟨_, ⟨words, _, ⟨spoken, rfl⟩, _, _, ⟨rfl, rfl⟩, same, rfl⟩, said⟩
          cases same
          cases said
          exact ⟨⟨text, spoken, rfl⟩, rfl⟩
        · rintro ⟨⟨_, spoken, same⟩, rfl⟩
          cases same
          exact ⟨_, ⟨text, _, ⟨spoken, rfl⟩, _, _, ⟨rfl, rfl⟩, rfl, rfl⟩, rfl⟩
  | _ => simp

theorem valid_both {name text : String} :
    Prod.mk <$> (Record.text key).below above <*> (Record.text doc).below below =
      Checked.valid (name, text) ↔ text? key = some name /\ text? doc = some text := by
  rw [text?_eq_some_iff, text?_eq_some_iff]
  cases Record.text key <;> cases Record.text doc <;>
    simp [Checked.below, Functor.map, Seq.seq, Checked.map, Checked.apply]

theorem words_of_text? {text : String} (isText : text? value = some text) :
    ∃ words, value.words = .ok words := by
  cases value with
  | text | bytes => exact ⟨_, rfl⟩
  | null | bool | int | real | brokenText | moment | list | pair | map | set | node => cases isText

theorem yields_variantList : Yields (variantList resolve owner entries) pre listed post ↔
    ∃ variants, entries.mapM writtenVariant? = some variants /\
      Yields (variants.mapM (variantOf resolve)) pre listed post := by
  induction entries generalizing pre listed post with
  | nil => simp [variantList]
  | cons entry rest ih =>
    obtain ⟨key, spec⟩ := entry
    simp only [variantList, yields_bind, yields_fields, yields_wordsOf, yields_checked, yields_pure,
      ih, mapM_cons, writtenVariant?, Option.bind_eq_bind, Option.pure_def,
      Option.bind_eq_some_iff, Option.some.injEq]
    constructor
    · rintro ⟨⟨doc, fields?⟩, _, parted, _, _, ⟨-, rfl⟩, members, mid, ⟨fields, fieldsRead, built⟩,
        ⟨name, text⟩, _, ⟨valid, rfl⟩, others, _, ⟨variants, read, remaining⟩, rfl, rfl⟩
      obtain ⟨named, said⟩ := valid_both.mp valid
      obtain ⟨specRead, rfl⟩ := yields_variantParts.mp ⟨doc, parted, said⟩
      refine ⟨_, ⟨_, ⟨_, specRead, name, named, fields, fieldsRead, rfl⟩, variants, read, rfl⟩, ?_⟩
      exact yields_mapM_cons.mpr ⟨_, _, others,
        yields_bind.mpr ⟨members, _, built, yields_pure.mpr ⟨rfl, rfl⟩⟩, remaining, rfl⟩
    · rintro ⟨_, ⟨_, ⟨⟨text, fields?⟩, specRead, name, named, fields, fieldsRead, rfl⟩, variants, read,
        rfl⟩, walked⟩
      obtain ⟨_, mid, others, here, remaining, rfl⟩ := yields_mapM_cons.mp walked
      obtain ⟨members, built, rfl⟩ := yields_bind_pure.mp here
      obtain ⟨doc, parted, said⟩ := yields_variantParts.mpr ⟨specRead, rfl⟩
      obtain ⟨words, spoken⟩ := words_of_text? named
      exact ⟨(doc, fields?), _, parted, words, _, ⟨spoken, rfl⟩, members, _,
        ⟨fields, fieldsRead, built⟩, (name, text), _, ⟨valid_both.mpr ⟨named, said⟩, rfl⟩, others, post,
        ⟨variants, read, remaining⟩, rfl, rfl⟩

theorem yields_membersOf {spec : TypeSpec} : Yields (membersOf value : Resolution _) pre spec post ↔
      value.opened = .map spec /\ post = pre := by
  unfold membersOf
  generalize value.opened = opened
  cases opened with
  | map members =>
    rw [yields_pure, Value.map.injEq]
    exact and_congr_left' eq_comm
  | _ => simp

theorem yields_build : Yields (build resolve name value) pre type post ↔
    ∃ spec written, value.opened = .map spec /\ Written.ofSpec? spec = some written /\
      Yields (writtenOf resolve name written) pre type post := by
  simp only [build, yields_bind, yields_membersOf]
  constructor
  · rintro ⟨spec, _, ⟨opened, rfl⟩, built⟩
    cases listed : Value.find? "variants" spec with
    | some members =>
      simp only [listed, variants] at built
      split at built
      · rename_i entries shown
        obtain ⟨parts, _, read, finished⟩ := yields_bind.mp built
        obtain ⟨variants, variantsRead, walked⟩ := yields_variantList.mp read
        exact ⟨spec, .union variants, opened, by simp [Written.ofSpec?, listed, shown, variantsRead],
          yields_bind.mpr ⟨parts, _, walked, finished⟩⟩
      · simp at built
    | none =>
      simp only [listed] at built
      obtain ⟨parts, mid, read, rest⟩ := yields_bind.mp built
      obtain ⟨about, _, described, finished⟩ := yields_bind.mp rest
      obtain ⟨said, rfl⟩ := yields_readText.mp described
      obtain ⟨fields, fieldsRead, walked⟩ := yields_fields.mp read
      exact ⟨spec, .struct fields about, opened,
        by simp [Written.ofSpec?, listed, fieldsRead, said],
        yields_bind.mpr ⟨parts, _, walked, finished⟩⟩
  · rintro ⟨spec, written, opened, read, built⟩
    refine ⟨spec, pre, ⟨opened, rfl⟩, ?_⟩
    unfold Written.ofSpec? at read
    cases listed : Value.find? "variants" spec with
    | some members =>
      simp only [listed] at read ⊢
      split at read
      · rename_i entries shown
        obtain ⟨variants, variantsRead, rfl⟩ := Option.map_eq_some_iff.mp read
        obtain ⟨parts, _, walked, finished⟩ := yields_bind.mp built
        refine yields_bind.mpr ⟨parts, _, ?_, finished⟩
        rw [Resolution.variants, shown]
        exact yields_variantList.mpr ⟨variants, variantsRead, walked⟩
      · cases read
    | none =>
      simp only [listed, Option.bind_eq_bind, Option.pure_def, Option.bind_eq_some_iff,
        Option.some.injEq] at read ⊢
      obtain ⟨fields, fieldsRead, about, said, rfl⟩ := read
      obtain ⟨parts, _, walked, finished⟩ := yields_bind.mp built
      exact yields_bind.mpr ⟨parts, _, yields_fields.mpr ⟨fields, fieldsRead, walked⟩,
        yields_bind.mpr ⟨about, _, yields_readText.mpr ⟨said, rfl⟩, finished⟩⟩
end

section
variable {resolve : String -> Resolution Descriptor}

/-- A way in which coherent caches go on, with what can stand for a name in each of them. -/
structure Course (types : OrderedMap String Value) (moves : Cache -> Cache -> Prop)
    (refers : Cache -> String -> Descriptor -> Prop) : Prop where
  coherent : ∀ {pre post}, moves pre post -> Coherent types post
  refl : ∀ {cache}, Coherent types cache -> moves cache cache
  trans : ∀ {pre mid post}, moves pre mid -> moves mid post -> moves pre post
  kept : ∀ {pre post}, moves pre post -> ∀ name type, refers pre name type -> refers post name type

theorem course_advances (types : OrderedMap String Value) (building : List String) :
    Course types (Advances types building) (Refers types) :=
  ⟨Advances.coherent, Advances.refl, Advances.trans, Advances.refers⟩

variable {moves : Cache -> Cache -> Prop} {refers : Cache -> String -> Descriptor -> Prop}
  (course : Course types moves refers)

include course

theorem forall₂_of_growing {α β : Type} (related : Cache -> α -> β -> Prop) {step : α -> Resolution β}
    (each : ∀ item pre value post, Coherent types pre ->
      Yields (step item) pre value post -> moves pre post /\ related post item value)
    (mono : ∀ pre post item value, moves pre post -> related pre item value ->
      related post item value) {items : List α} {values : List β} (coherent : Coherent types pre)
    (yields : Yields (items.mapM step) pre values post) :
    moves pre post /\ Forall₂ (related post) items values := by
  induction items generalizing pre values with
  | nil =>
    obtain ⟨rfl, rfl⟩ := yields_pure.mp yields
    exact ⟨course.refl coherent, .nil⟩
  | cons item rest ih =>
    obtain ⟨value, mid, others, here, remaining, rfl⟩ := yields_mapM_cons.mp yields
    obtain ⟨first, held⟩ := each item pre value mid coherent here
    obtain ⟨second, later⟩ := ih (course.coherent first) remaining
    exact ⟨course.trans first second, .cons (mono _ _ _ _ second held) later⟩

/-! Looking up a name goes on in this way, and gives what can stand for the name. -/

variable (resolves : ∀ name pre type post, Coherent types pre ->
  Yields (resolve name) pre type post -> moves pre post /\ refers post name type)

include resolves

theorem denotes_of_yields : (expr : TypeExpr) -> {pre post : Cache} -> {type : Descriptor} ->
    Coherent types pre -> Yields (exprOf resolve expr) pre type post ->
      moves pre post /\ expr.Denotes (refers post) type
  | .primitive name, pre, post, type, coherent, yields => by
    obtain ⟨rfl, rfl⟩ := yields_pure.mp yields
    exact ⟨course.refl coherent, rfl⟩
  | .reference name, pre, post, type, coherent, yields =>
    resolves name pre type post coherent yields
  | .optional expr, pre, post, type, coherent, yields => by
    obtain ⟨inner, read, rfl⟩ := yields_bind_pure.mp yields
    obtain ⟨moved, denotes⟩ := denotes_of_yields expr coherent read
    exact ⟨moved, inner, rfl, denotes⟩
  | .wrapped wrapper whole expr, pre, post, type, coherent, yields => by
    obtain ⟨inner, mid, read, finished⟩ := yields_bind.mp yields
    obtain ⟨moved, denotes⟩ := denotes_of_yields expr coherent read
    cases known : wrap? wrapper with
    | none => simp [known] at finished
    | some wrap =>
      rw [known] at finished
      obtain ⟨rfl, rfl⟩ := yields_pure.mp finished
      exact ⟨moved, wrap, inner, known, rfl, denotes⟩
  | .malformed text, pre, post, type, coherent, yields => absurd yields yields_throw.mp

theorem fields_describe {fields : List WrittenField} {members : List Field}
    (coherent : Coherent types pre)
    (yields : Yields (fields.mapM (fieldOf resolve)) pre members post) :
    moves pre post /\ Forall₂ (WrittenField.Describes (refers post)) fields members := by
  refine forall₂_of_growing course (fun cache => WrittenField.Describes (refers cache)) ?_ ?_
    coherent yields
  · intro field pre mem post coherent yields
    obtain ⟨type, built, rfl⟩ := yields_bind_pure.mp yields
    obtain ⟨moved, denotes⟩ := denotes_of_yields course resolves field.type coherent built
    exact ⟨moved, rfl, rfl, denotes⟩
  · exact fun _ _ field _ moved held =>
      ⟨held.name, held.optional, held.type.mono (course.kept moved) field.type⟩

theorem written_describes {written : Written} (coherent : Coherent types pre)
    (yields : Yields (writtenOf resolve name written) pre type post) :
    moves pre post /\ written.Describes (refers post) name type := by
  cases written with
  | struct fields about =>
    obtain ⟨members, walked, rfl⟩ := yields_bind_pure.mp yields
    obtain ⟨moved, described⟩ := fields_describe course resolves coherent walked
    exact ⟨moved, members, rfl, described⟩
  | union variants =>
    obtain ⟨members, walked, rfl⟩ := yields_bind_pure.mp yields
    obtain ⟨moved, described⟩ := forall₂_of_growing course
      (fun cache => WrittenVariant.Describes (refers cache))
      (fun variant pre mem post coherent yields => by
        obtain ⟨fields, walked, rfl⟩ := yields_bind_pure.mp yields
        obtain ⟨moved, described⟩ := fields_describe course resolves coherent walked
        exact ⟨moved, rfl, rfl, described⟩)
      (fun _ _ _ _ moved held =>
        ⟨held.name, held.doc, forall₂_fields_mono (course.kept moved) held.fields⟩) coherent walked
    exact ⟨moved, members, rfl, described⟩
end

theorem Advances.insert {spec : TypeSpec} (coherent : Coherent types cache)
    (absent : cache.get? name = none) (free : name ∉ building)
    (found : types.get? name = some value) (opened : value.opened = .map spec)
    (read : Written.ofSpec? spec = some written)
    (described : written.Describes (Refers types cache) name type) :
    Advances types building cache (cache.insert name type) := by
  obtain ⟨isType, named, inside, decl⟩ := inside_of_describes coherent described
  have kept : ∀ other known, cache.get? other = some known ->
      (cache.insert name type).get? other = some known := by
    intro other known listed
    have ne : name ≠ other := by
      rintro rfl
      rw [absent] at listed
      cases listed
    rw [get?_insert_of_ne _ _ ne]
    exact listed
  have itself : (cache.insert name type).get? name = some type := get?_insert_self _ _ _
  -- The types inside come from the cache as it was, and there the name had no type.
  have settled : Settled types (cache.insert name type) name type := by
    refine ⟨isType, named, fun inner mem => ?_, decl, fun repeated => ?_, value, spec, written, found,
      opened, read, described.mono fun other known => Or.imp_right (kept other known)⟩
    · rw [Descriptor.types_of_isType isType] at mem
      rcases mem_append.mp mem with within | last
      · exact kept _ _ (inside inner within)
      · rw [mem_singleton.mp last, named]
        exact itself
    · obtain ⟨inner, within, sameName⟩ := mem_map.mp repeated
      have known := inside inner within
      rw [sameName, named, absent] at known
      cases known
  refine ⟨fun other known listed => ?_, kept, fun other under missing => ?_⟩
  · by_cases same : name = other
    · subst same
      rw [itself, Option.some.injEq] at listed
      subst listed
      exact settled
    · rw [get?_insert_of_ne _ _ same] at listed
      exact (coherent other known listed).mono kept
  · have ne : name ≠ other := fun same => free (same ▸ under)
    rw [get?_insert_of_ne _ _ ne]
    exact missing

def lookUp (types : OrderedMap String Value) (depth : Nat) (building : List String)
    (inner : String) : Resolution Descriptor :=
  if inner ∈ building then return .named inner else descriptorWithin types depth building inner

/-- A type that was completed before is in the cache; any other one is built from what is
written about it and put there. -/
theorem yields_descriptorWithin :
    Yields (descriptorWithin types (depth + 1) building name) pre type post ↔
      (pre.get? name = some type /\ post = pre) \/
        (pre.get? name = none /\ ∃ value mid, types.get? name = some value /\ value ≠ .null /\
          Yields (build (lookUp types depth (name :: building)) name value) pre type mid /\
          post = mid.insert name type) := by
  rw [descriptorWithin, yields_get_bind]
  cases pre.get? name with
  | some completed => simp [eq_comm]
  | none =>
    cases types.get? name with
    | none => simp
    | some value =>
      -- All values but `null` are built from in the same way.
      have completes : Yields (do
          let descriptor <- build (lookUp types depth (name :: building)) name value
          modify (·.insert name descriptor)
          return descriptor : Resolution Descriptor) pre type post ↔
          ∃ mid, Yields (build (lookUp types depth (name :: building)) name value) pre type
            mid /\ post = mid.insert name type := by
        simp only [yields_bind, yields_modify, yields_pure]
        constructor
        · rintro ⟨_, mid, built, -, _, rfl, rfl, rfl⟩
          exact ⟨mid, built, rfl⟩
        · rintro ⟨mid, built, rfl⟩
          exact ⟨type, mid, built, ⟨⟩, _, rfl, rfl, rfl⟩
      cases value with
      | null => simp
      | bool | int | real | text | brokenText | moment | bytes | list | pair | map | set | node =>
        exact completes.trans (by simp)

theorem descriptorWithin_completes (decl : building ⊆ types.keys) (free : name ∉ building)
    (coherent : Coherent types pre)
    (yields : Yields (descriptorWithin types depth building name) pre type post) :
    Advances types building pre post /\ post.get? name = some type := by
  induction depth generalizing building name pre post type with
  | zero => exact absurd yields yields_throw.mp
  | succ depth ih =>
    rcases yields_descriptorWithin.mp yields with
      ⟨known, rfl⟩ | ⟨unknown, value, mid, found, -, built, rfl⟩
    · exact ⟨.refl coherent, known⟩
    · have around : name :: building ⊆ types.keys :=
        cons_subset.mpr ⟨(types.mem_keys_iff name).mpr ⟨value, found⟩, decl⟩
      have resolves : ∀ inner mid answer later, Coherent types mid ->
          Yields (lookUp types depth (name :: building) inner) mid answer later ->
          Advances types (name :: building) mid later /\ Refers types later inner answer := by
        intro inner mid answer later held answered
        unfold lookUp at answered
        split at answered
        · rename_i under
          obtain ⟨rfl, rfl⟩ := yields_pure.mp answered
          exact ⟨.refl held, .inl ⟨rfl, around under⟩⟩
        · rename_i outside
          obtain ⟨advances, completed⟩ := ih around outside held answered
          exact ⟨advances, .inr completed⟩
      obtain ⟨spec, written, opened, read, walked⟩ := yields_build.mp built
      obtain ⟨advances, described⟩ :=
        written_describes (course_advances types _) resolves coherent walked
      -- While the name was being built, nothing was put into the cache under it.
      have absent := advances.spared name (.head _) unknown
      exact ⟨(advances.mono (subset_cons_self _ _)).trans (Advances.insert
        advances.coherent absent free found opened read described),
        get?_insert_self _ _ _⟩

theorem descriptor_completes (coherent : Coherent types pre)
    (yields : Yields (descriptor types name) pre type post) :
    Advances types [] pre post /\ post.get? name = some type :=
  descriptorWithin_completes (nil_subset _) not_mem_nil coherent yields
end Resolution
end RouteDocs.Declaration
