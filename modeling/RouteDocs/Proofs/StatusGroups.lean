import RouteDocs.Proofs.DocTotality
import RouteDocs.Proofs.NestedTypes

namespace RouteDocs.Schema
open List Text StatusMap Variant

/-!
# Error variants by status

The variants of an error union are grouped by the statuses in their documentation. Unions inside
the union leave status maps of their own on the same table, but none under its name: a type of this
name inside it is only referred to. So its status map is the one of its own variants.
-/

/-- A synthesis does not freeze the table, and gives no statuses to a type around it. -/
theorem Synthesis.Runs.frame (runs : Runs active part pre post) :
    post.table.frozen = pre.table.frozen /\ ∀ name, active.lookup name ≠ none ->
      post.table.statusMap? name = pre.table.statusMap? name := by
  induction runs with
  | primitive | named | remembered | noFields | noVariants => exact ⟨rfl, fun _ _ => rfl⟩
  | optional _ ih | sequence _ ih => exact ih
  | @inside _ type _ sess =>
    refine ⟨frozen_conflictedUnless, fun name _ => ?_⟩
    split
    · rfl
    · exact congrArg (OrderedMap.get? · name) (sess.table.statusMaps_recordConflict type.typeName)
  | @built active type _ _ _ _ free _ _ _ table _ ih =>
    rw [table]
    constructor
    · refine Eq.trans ?_ ih.1
      exact List.foldlRecOn (motive := fun later : Table => later.frozen = _) _ _ rfl
        fun later same defn _ => (later.enter_frame defn).2.trans same
    · intro name around
      have outside : ((type.typeName, type) :: active).lookup name ≠ none := by
        rw [lookup_cons]
        split <;> simp_all
      have other : firstPart? Definition.statuses? type.ownDefinitions name = none := by
        refine firstPart?_eq_none_iff.mpr fun defn mem named => ?_
        rcases Descriptor.ownDefinitions_cases mem with ⟨plain, -⟩ | ⟨union, _, rfl, rfl⟩
        · exact plain
        · exact absurd (named ▸ free) around
      rw [Table.foldl_enter (·.statusMap? name) _ fun table defn =>
        table.statusMap?_enter defn name, other, Option.or_none]
      exact ih.2 name outside
  | field _ _ here later =>
    exact ⟨later.1.trans here.1, fun name around =>
      (later.2 name around).trans (here.2 name around)⟩
  | @variant _ union name fields doc _ pre _ _ _ _ here later =>
    refine ⟨later.1.trans (here.1.trans (Synthesis.frozen_noted ..)), fun name around => ?_⟩
    refine (later.2 name around).trans ((here.2 name around).trans ?_)
    unfold Session.noted
    split <;> rfl

/-- A text that has a number in it: the digits of the first one, and what stands around them. -/
structure FirstNumber (text front digits rest : Chars) : Prop where
  parts : text = front ++ digits ++ rest
  present : digits ≠ []
  before : ∀ c ∈ front, isDigit c = false
  digits : ∀ c ∈ digits, isDigit c = true
  behind : ∀ c, rest.head? = some c -> isDigit c = false

/-- The status and the description that the first line of a documentation gives. The status is the
first number if it is one of the protocol, and the description is the text behind the number and its
mark. Without a number the description is the whole line, and for an empty text it is the reason
phrase of the status. -/
def Variant.Documents (variant : Variant) (status : Nat) (about : String) : Prop :=
  ∃ said : Chars, about = (if said = [] then Http.reasonPhrase status else String.ofList said) /\
    (((∀ c ∈ firstLine variant.doc.toList, isDigit c = false) /\ status = 500 /\
        said = firstLine variant.doc.toList) \/
      ∃ front digits rest, FirstNumber (firstLine variant.doc.toList) front digits rest /\
        status = (if 100 <= numeral digits /\ numeral digits <= 599 then numeral digits
          else 500) /\
        said = dropMark (trim rest))

theorem firstNumber_dropWhile (numbered : ∃ c ∈ text, isDigit c = true) :
    FirstNumber text (text.takeWhile (!isDigit ·)) ((text.dropWhile (!isDigit ·)).takeWhile isDigit)
      ((text.dropWhile (!isDigit ·)).dropWhile isDigit) where
  parts := by rw [append_assoc, takeWhile_append_dropWhile, takeWhile_append_dropWhile]
  present := by
    induction text with
    | nil => simp at numbered
    | cons c rest ih =>
      rw [dropWhile_cons]
      cases digit : isDigit c with
      | true => simp [digit]
      | false => exact ih (by simpa [digit] using numbered)
  before := fun c mem => by simpa using mem_takeWhile_imp mem
  digits := fun c mem => mem_takeWhile_imp mem
  behind := by
    intro c found
    have stops := head?_dropWhile_not isDigit (text.dropWhile (!isDigit ·))
    rwa [found] at stops

theorem Variant.documents (variant : Variant) (short : Short variant.doc.toList) :
    (∃ reading, readStatus variant.doc.toList = .ok reading) /\
      variant.Documents variant.error.status variant.error.description := by
  have inside : firstLine variant.doc.toList <:+: variant.doc.toList := by
    unfold firstLine
    split
    · exact List.nil_infix
    · rename_i line _ lines
      exact (trim_part line).trans (((cut_splitLines _).inside line
        (by rw [lines]; exact .head _)).trans (trim_part _))
  have said {status? : Option Nat} {text : Chars}
      (read : readStatus variant.doc.toList = .ok (status?, text)) :
      variant.error.status = (status?.filter Http.isStatus).getD 500 /\ variant.error.description =
        if text = [] then Http.reasonPhrase variant.error.status else String.ofList text := by
    have reading : variant.reading = (status?, text) := by
      rw [reading, read]
      rfl
    simp only [error, Variant.status?, reading, List.isEmpty_iff]
    trivial
  by_cases numbered : ∃ c ∈ firstLine variant.doc.toList, isDigit c = true
  · have number := firstNumber_dropWhile numbered
    generalize post : (firstLine variant.doc.toList).dropWhile (!isDigit ·) = fromNumber at number
    have read : readStatus variant.doc.toList = .ok (some (numeral (fromNumber.takeWhile
        isDigit)), dropMark (trim (fromNumber.dropWhile isDigit))) := by
      have numeral := short.readNumeral (List.IsInfix.trans ⟨_, _, number.parts.symm⟩ inside)
        number.digits
      unfold readStatus
      dsimp only
      rw [post]
      cases fromNumber with
      | nil => exact absurd rfl number.present
      | cons => rw [numeral]; rfl
    obtain ⟨status, about⟩ := said read
    refine ⟨⟨_, read⟩, _, about, .inr ⟨_, _, _, number, status.trans ?_, rfl⟩⟩
    simp only [Option.filter, Http.isStatus, Bool.and_eq_true, decide_eq_true_eq]
    split <;> rfl
  · have plain : ∀ c ∈ firstLine variant.doc.toList, isDigit c = false := by simpa using numbered
    have read : readStatus variant.doc.toList = .ok (none, firstLine variant.doc.toList) := by
      have nothing : (firstLine variant.doc.toList).dropWhile (!isDigit ·) = [] := by
        simpa using plain
      unfold readStatus
      dsimp only
      rw [nothing]
    obtain ⟨status, about⟩ := said read
    exact ⟨⟨_, read⟩, _, about, .inl ⟨plain, status, rfl⟩⟩

theorem groupResponse_eq (union : String) (first : ErrorVariant) (rest : List ErrorVariant) :
    groupResponse union (first :: rest) = some ⟨first.status,
      "; ".intercalate ((first :: rest).map ErrorVariant.description),
      (first :: rest).map fun variant => variantName union variant.name⟩ := by
  have extended (known : ErrorResponse) : rest.foldl (ErrorResponse.extend union) known =
      ⟨known.status, "; ".intercalate (known.description :: rest.map ErrorVariant.description),
        known.schemas ++ rest.map fun variant => variantName union variant.name⟩ := by
    induction rest generalizing known with
    | nil => simp
    | cons next others ih =>
      rw [foldl_cons, ih]
      simp [ErrorResponse.extend, String.intercalate_cons_cons]
  exact congrArg some (extended _)

namespace Synthesis
variable {name : String} {variants : List Variant}

/-- The fields of a variant can be synthesized on every table that is not frozen, and none of them
stands where the name of the variant should. -/
def FieldsSynthesize (active : List (String × Descriptor)) (variant : Variant) : Prop :=
  discriminator ∉ variant.fields.map Field.name /\ ∀ sess : Session, sess.table.frozen = false ->
    ∃ parts post, Yields (members active [] variant.fields) sess parts post

theorem exists_errorVariants (short : ∀ variant ∈ variants, Short variant.doc.toList)
    (synthesize : ∀ variant ∈ variants, FieldsSynthesize active variant) (pre : Session)
    (writable : pre.table.frozen = false) :
    ∃ post, Yields (errorVariants active name variants) pre (variants.map error) post /\
      post.table.frozen = false := by
  induction variants generalizing pre with
  | nil => exact ⟨pre, by rw [errorVariants, yields_pure]; exact ⟨rfl, rfl⟩, writable⟩
  | cons variant rest ih =>
    obtain ⟨untagged, fields⟩ := synthesize variant (.head _)
    have noted := (frozen_noted pre name variant).trans writable
    obtain ⟨parts, mid, read⟩ := fields _ noted
    obtain ⟨rfl, -, -, runs⟩ := runs_of_members _ read
    obtain ⟨post, remaining, kept⟩ := ih (forall_mem_cons.mp short).2
      (forall_mem_cons.mp synthesize).2 mid
      (runs.frame.1.trans noted)
    have documented : Yields (variantStatus name variant.name variant.doc) pre _ _ :=
      (yields_variantStatus variant).mpr
        ⟨(variant.documents (short variant (.head _))).1, rfl, rfl⟩
    refine ⟨post, yields_errorVariants_cons.mpr ⟨_, _, _, mid, _, documented, read, ?_,
      remaining, rfl⟩, kept⟩
    rw [fst_member]
    exact untagged

theorem names_error (name : String) (variants : List Variant) :
    (variants.map error).map (variantName name ·.name) =
      variants.map (variantName name ·.name) := by
  rw [map_map]
  rfl

theorem response_of_get?
    (found : (ofVariants name (variants.map error)).get? status = some response) :
    let group := variants.filter fun variant => (variant.error.status : Int) = status
    response = ⟨status, "; ".intercalate (group.map (·.error.description)),
      group.map (variantName name ·.name)⟩ := by
  intro group
  rw [get?_ofVariants, filter_map] at found
  change groupResponse name (group.map error) = some response at found
  have own : ∀ variant ∈ group, (variant.error.status : Int) = status := by simp [group]
  clear_value group
  cases group with
  | nil => cases found
  | cons first rest =>
    rw [map_cons, groupResponse_eq, <- map_cons, map_map, map_map] at found
    rw [<- own first (.head _)]
    exact (Option.some.inj found).symm

theorem schemas_nodup (distinct : (variants.map Variant.name).Nodup)
    (found : (ofVariants name (variants.map error)).get? status = some response) :
    response.schemas.Nodup := by
  have once : ((variants.map error).map (variantName name ·.name)).Nodup := by
    rw [names_error]
    simpa [Function.comp_def] using distinct.map fun _ _ => variantName_inj.mp
  rw [get?_ofVariants] at found
  rw [groupResponse_schemas found]
  exact (filter_sublist.map _).nodup once

theorem statusMap?_of_unionDefinitions (unstated : table.statusMap? name = none) :
    ((unionDefinitions name errors).foldl Table.enter table).statusMap? name =
      some (ofVariants name errors) := by
  have plain : firstPart? Definition.statuses? (errors.map (ErrorVariant.definition name)) name =
      none := firstPart?_eq_none_iff.mpr <| by
    rintro _ mem -
    obtain ⟨_, -, rfl⟩ := mem_map.mp mem
    rfl
  rw [Table.foldl_enter (·.statusMap? name) _ fun table defn =>
    table.statusMap?_enter defn name, unstated, unionDefinitions, firstPart?_append, plain]
  simp [firstPart?, unionDefinition]

/-- The status map of a union that is not known yet groups its variants by their statuses. Every
variant is listed once, under the status of its documentation, and its schema is registered. -/
theorem statuses_grouped {before : Session} (writable : before.table.frozen = false)
    (unremembered : before.memo.get? name = none) (unstated : before.table.statusMap? name = none)
    (present : variants ≠ []) (distinct : (variants.map Variant.name).Nodup)
    (short : ∀ variant ∈ variants, Short variant.doc.toList)
    (synthesize : ∀ variant ∈ variants, FieldsSynthesize [(name, .union name variants)] variant) :
    ∃ statuses after, Yields (statusMapOf (.union name variants)) before (some statuses) after /\
      statuses.keys = firstUses (variants.map fun variant => (variant.error.status : Int)) /\
      (∀ status response, statuses.get? status = some response ->
        let group := variants.filter fun variant => (variant.error.status : Int) = status
        response = ⟨status, "; ".intercalate (group.map (·.error.description)),
          group.map (variantName name ·.name)⟩) /\
      (∀ variant ∈ variants, variant.Documents variant.error.status variant.error.description /\
          after.table.contains (variantName name variant.name) = true /\
          (∃ response, statuses.get? variant.error.status = some response /\
            response.schemas.count (variantName name variant.name) = 1) /\
          ∀ status response, statuses.get? status = some response ->
            variantName name variant.name ∈ response.schemas -> status = variant.error.status) /\
      ∃ node, after.table.get? name = some node /\
        (node.references = variants.map (variantName name ·.name) \/
          name ∈ after.table.conflicts) := by
  obtain ⟨between, read, kept⟩ := exists_errorVariants short synthesize before writable
  obtain ⟨registered, built⟩ : ∃ registered, Yields (registerVariants name (variants.map
      error)) between (unionNode name (variants.map error)) registered :=
    ⟨_, yields_registerVariants.mpr ⟨kept, rfl, rfl⟩⟩
  have remembered := (congrArg Table.frozen (Session.table_remember registered name
    (.union name variants))).trans ((frozen_of_registerVariants built).trans kept)
  obtain ⟨after, defined⟩ : ∃ after, Yields (register name (unionNode name (variants.map
      error))) (registered.remember name (.union name variants)) () after :=
    ⟨_, yields_register.mpr ⟨remembered, rfl⟩⟩
  have table := (table_of_completed_union built defined).1
  have known : before.memo.get? name ≠ some (.union name variants) := by simp [unremembered]
  have synthesized := (yields_union rfl).mpr
    ⟨rfl, .inr ⟨known, present, distinct, _, between, _, read, built, defined⟩⟩
  have statuses : after.table.statusMap? name = _ := table ▸ statusMap?_of_unionDefinitions
    (((runs_of_errorVariants _ read).2.2.frame.2 name (by simp)).trans unstated)
  refine ⟨ofVariants name (variants.map error), after, ?_, ?_, fun _ _ => response_of_get?, ?_, ?_⟩
  · rw [statusMapOf, yields_bind]
    refine ⟨_, after, synthesized, ?_⟩
    simp [Descriptor.name?, statuses]
  · rw [keys_ofVariants, map_map]
    rfl
  · intro variant mem
    obtain ⟨response, found, listed⟩ := listed_of_mem name (mem_map_of_mem mem)
    refine ⟨(variant.documents (short variant mem)).2, ?_, ⟨response, found,
      count_eq_one_of_mem (schemas_nodup distinct found) listed⟩, ?_⟩
    · obtain ⟨node, found, -⟩ := Table.get?_enterAll_of_mem between.table
        (mem_append_left [unionDefinition name (variants.map error)]
          (mem_map_of_mem (mem_map_of_mem mem)))
      exact Table.contains_iff_exists.mpr ⟨node, table ▸ found⟩
    · intro status response found listed
      obtain ⟨_, other, sameName, rfl⟩ := status_of_listed found listed
      obtain ⟨other, otherMember, rfl⟩ := mem_map.mp other
      rw [inj_on_of_nodup_map distinct otherMember mem sameName]
  · obtain ⟨node, found, agreed⟩ := Table.get?_enterAll_of_mem between.table
      (mem_append_right ((variants.map error).map (ErrorVariant.definition name))
        (mem_singleton_self (unionDefinition name (variants.map error))))
    have alternatives := names_error name variants
    refine ⟨node, table ▸ found, ?_⟩
    rcases agreed with rfl | same | conflict
    · exact .inl alternatives
    · cases node <;> simp_all [unionDefinition, unionNode, Node.same, Node.references]
    · exact .inr (table ▸ conflict)

/-- Three faults of two statuses, one of them without a number. -/
theorem statuses_grouped_fault : let faults : List Variant :=
      [⟨"Busy", [], "503: Try later"⟩, ⟨"Lost", [], "No such item"⟩, ⟨"Closed", [], "503"⟩]
    ∃ statuses after, Yields (statusMapOf (.union "Fault" faults)) ({} : Session) (some statuses)
      after /\ statuses.keys = [503, 500] := by
  intro faults
  have short : ∀ variant ∈ faults, Short variant.doc.toList := by
    have brief : ∀ variant ∈ faults, variant.doc.toList.length <= digitLimit := by decide
    exact fun variant mem run inside _ => inside.length_le.trans (brief variant mem)
  have synthesize : ∀ variant ∈ faults,
      FieldsSynthesize [("Fault", .union "Fault" faults)] variant := by
    intro variant mem
    have plain : ∀ variant ∈ faults, variant.fields = [] := by simp [faults]
    rw [FieldsSynthesize, plain variant mem]
    exact ⟨by simp, fun session _ => ⟨[], session, by simp [members]⟩⟩
  obtain ⟨statuses, after, yields, keys, -⟩ := statuses_grouped
    (rfl : ({} : Session).table.frozen = false) rfl rfl (cons_ne_nil _ _) (by decide) short
    synthesize
  exact ⟨statuses, after, yields, keys.trans (by decide)⟩
end Synthesis
end RouteDocs.Schema
