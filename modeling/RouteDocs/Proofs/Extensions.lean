import RouteDocs.Proofs.ResponseEntries
import RouteDocs.Proofs.RouteDocuments

/-!
# Sections of other titles

The text of a section with an unknown title is kept under the title; where the title comes again,
the text goes on. Titles of which the same is left in the name of a field have one field, in which
only the last of them stands, without a warning.
-/

namespace RouteDocs
open List OrderedMap Doc

namespace OrderedMap
variable {κ υ : Type} [DecidableEq κ]

/-- Of several entries with one key a map keeps the last. -/
theorem get?_ofList (entries : List (κ × υ)) (key : κ) : (ofList entries).get? key =
    (entries.filter fun entry => entry.1 = key).getLast?.map Prod.snd := by
  induction entries using List.reverseRecOn with
  | nil => rfl
  | append_singleton front entry ih =>
    have step : ofList (front ++ [entry]) = (ofList front).insert entry.1 entry.2 :=
      ofList_append ..
    rw [step, get?_insert, filter_append, ih]
    split
    · rename_i isKey
      rw [filter_singleton, decide_eq_true isKey, cond_true, getLast?_concat]
      rfl
    · rename_i other
      rw [filter_singleton, decide_eq_false other, cond_false, append_nil]

theorem find?_append_of_absent {key : κ} {front back : List (κ × υ)}
    (absent : ∀ entry ∈ front, entry.1 ≠ key) : find? key (front ++ back) = find? key back := by
  induction front with
  | nil => rfl
  | cons entry rest ih =>
    rw [cons_append, find?, if_neg (absent entry (.head _))]
    exact ih (forall_mem_cons.mp absent).2
end OrderedMap

namespace Doc

/-- The texts of the sections that have a title which is not known. -/
def textsUnder (title : String) (parts : List Section) : List String :=
  (parts.filter fun part => part.isExtension && String.ofList part.title = title).map fun part =>
    sectionText part.lines

/-- The titles that are not known, each where it comes first. -/
def extensionTitles (parts : List Section) : List String :=
  parts.foldl (fun titles part =>
    let title := String.ofList part.title
    if part.isExtension /\ title ∉ titles then titles ++ [title] else titles) []

def onLines : List String -> Option String
  | [] => none
  | first :: rest => some (rest.foldl (fun earlier text => earlier ++ "\n" ++ text) first)

theorem onLines_concat (texts : List String) (text : String) :
    onLines (texts ++ [text]) = some (match onLines texts with
      | some earlier => earlier ++ "\n" ++ text
      | none => text) := by
  cases texts with
  | nil => rfl
  | cons first rest => rw [cons_append, onLines, foldl_append]; rfl

theorem exists_onLines (mem : text ∈ texts) :
    ∃ whole, onLines texts = some whole /\ text.toList <:+: whole.toList := by
  induction texts using List.reverseRecOn with
  | nil => cases mem
  | append_singleton front last ih =>
    rw [onLines_concat]
    refine ⟨_, rfl, ?_⟩
    rcases mem_append.mp mem with inFront | here
    · obtain ⟨whole, made, inside⟩ := ih inFront
      rw [made]
      simp only [String.toList_append, append_assoc]
      exact inside.trans (prefix_append _ _).isInfix
    · obtain rfl := mem_singleton.mp here
      cases onLines front with
      | none => exact infix_rfl
      | some earlier =>
        simp only [String.toList_append]
        exact (suffix_append _ _).isInfix

theorem textsUnder_eq (title : String) (parts : List Section) : textsUnder title parts =
    parts.flatMap fun part => if part.isExtension && String.ofList part.title = title then
      [sectionText part.lines] else [] := by
  induction parts with
  | nil => rfl
  | cons part rest ih =>
    rw [flatMap_cons, <- ih, textsUnder, filter_cons]
    split <;> rfl

theorem get?_extend (extensions : OrderedMap String String) (title text other : String) :
    (extend extensions title text).get? other = if title = other then
      some (match extensions.get? other with
        | some earlier => earlier ++ "\n" ++ text
        | none => text)
    else extensions.get? other := by
  rw [extend, get?_insert]
  split
  · rename_i same
    subst same
    rfl
  · rfl

theorem get?_extensions (empty : start.extensions = ∅)
    (read : parts.foldlM addSection start = .ok doc) (title : String) :
    doc.extensions.get? title = onLines (textsUnder title parts) := by
  refine @foldlM_induction _ _ _ _
    (fun parts doc => doc.extensions.get? title = onLines (textsUnder title parts)) _ _ _ ?_ ?_ read
  · rw [empty]
    rfl
  · intro done part state post added known
    rw [addSection_eq added, textsUnder_eq, flatMap_append, <- textsUnder_eq, flatMap_singleton]
    cases part.isExtension with
    | false => simpa using known
    | true =>
      simp only [if_true, Bool.true_and, decide_eq_true_eq, get?_extend, known]
      split
      · rw [onLines_concat]
      · rw [append_nil]

theorem keys_extensions (empty : start.extensions = ∅)
    (read : parts.foldlM addSection start = .ok doc) :
    doc.extensions.keys = extensionTitles parts := by
  refine @foldlM_induction _ _ _ _ (fun parts doc => doc.extensions.keys = extensionTitles parts)
    _ _ _ ?_ ?_ read
  · rw [empty]
    rfl
  · intro done part state post added known
    rw [addSection_eq added, extensionTitles, foldl_append, foldl_cons, foldl_nil,
      <- extensionTitles, <- known]
    cases part.isExtension with
    | false => simp
    | true =>
      simp only [if_true, extend, keys_insert, true_and, ite_not]
end Doc

namespace OpenApi
def extensionField (title : String) : String := String.ofList ('x' :: '-' :: Site.slug title)

theorem extensionField_eq_iff (first second : String) :
    extensionField first = extensionField second ↔ Site.slug first = Site.slug second := by
  rw [extensionField, extensionField, String.ofList_inj]
  simp

theorem Operation.member?_extensionField (op : Operation) (title : String) :
    op.toJson.member? (extensionField title) =
      (op.extensions.get? (extensionField title)).map .string := by
  have others : ∀ name ∈ ["operationId", "summary", "description", "parameters", "requestBody",
      "responses"], name ≠ extensionField title := by
    intro name listed same
    have first : ∀ name ∈ ["operationId", "summary", "description", "parameters", "requestBody",
        "responses"], name.toList.head? ≠ some 'x' := by decide
    refine first name listed ?_
    rw [same, extensionField, String.toList_ofList]
    rfl
  rw [toJson, Json.member?, find?_append_of_absent]
  · exact find?_map_entries Function.injective_id Json.string _ _
  · simp only [forall_mem_cons] at others
    cases op.description.isEmpty <;> cases op.parameters.isEmpty <;>
      cases op.requestBody? <;> simp [others]

namespace Site

/-- A field has what stands under the last of the titles whose field it is. -/
theorem get?_extensionField (site : Site) (title : String) :
    site.extensions.get? (extensionField title) = (site.entry.doc.extensions.entries.filter
      fun entry => slug entry.1 = slug title).getLast?.map Prod.snd := by
  have fields : site.extensions = ofList (site.entry.doc.extensions.entries.map
      fun entry => (extensionField entry.1, entry.2)) := rfl
  rw [fields, OrderedMap.get?_ofList, filter_map, getLast?_map, Option.map_map]
  simp only [Function.comp_def, extensionField_eq_iff]

/-- A section of a title that is not known goes into the field of its title. Of the titles with one
field, in the order in which they come first, the last keeps it: the field has the texts of all
sections of this title, one after another. Titles have one field just if the same part of a name is
left of them. -/
theorem extension_sections_kept {text : String} {site : Site} {operation : Operation}
    (read : EndpointDoc.ofText text = .ok site.entry.doc) (built : site.alone = .ok operation) :
    (∀ part ∈ blockSections text, part.isExtension = true -> ∃ title value,
      ((extensionTitles (blockSections text)).filter fun title =>
        slug title = slug (String.ofList part.title)).getLast? = some title /\
      onLines (textsUnder title (blockSections text)) = some value /\
      operation.toJson.member? (extensionField (String.ofList part.title)) =
        some (.string value) /\
      (title = String.ofList part.title ->
        (sectionText part.lines).toList <:+: value.toList)) /\
      ∀ first second, extensionField first = extensionField second ↔ slug first = slug second := by
  have kept : ∀ title, site.entry.doc.extensions.get? title =
      onLines (textsUnder title (blockSections text)) := get?_extensions rfl read
  have titles : site.entry.doc.extensions.keys = extensionTitles (blockSections text) :=
    keys_extensions rfl read
  refine ⟨fun part listed isExtension => ?_, extensionField_eq_iff⟩
  have among : sectionText part.lines ∈
      textsUnder (String.ofList part.title) (blockSections text) :=
    mem_map.mpr ⟨part, mem_filter.mpr ⟨listed, by simp [isExtension]⟩, rfl⟩
  obtain ⟨own, whole, inside⟩ := exists_onLines among
  have entered := (mem_entries_iff _ _ _).mpr ((kept _).trans whole)
  obtain ⟨⟨title, value⟩, last⟩ : ∃ entry, (site.entry.doc.extensions.entries.filter
      fun entry => slug entry.1 = slug (String.ofList part.title)).getLast? = some entry :=
    ⟨_, getLast?_eq_some_getLast
      (ne_nil_of_mem (mem_filter.mpr ⟨entered, decide_eq_true rfl⟩))⟩
  have stands := (mem_entries_iff _ _ _).mp (mem_filter.mp (mem_of_getLast? last)).1
  refine ⟨title, value, ?_, (kept title).symm.trans stands, ?_, ?_⟩
  · rw [<- titles, OrderedMap.keys, filter_map, getLast?_map]
    exact congrArg (Option.map Prod.fst) last
  · rw [Operation.member?_extensionField, (describes_of_alone built).extensions,
      get?_extensionField, last]
    rfl
  · rintro rfl
    rw [kept, whole] at stands
    rwa [<- Option.some.inj stands]

def documentedBy (text : String) : Site where
  entry := ⟨.get, "/items", (EndpointDoc.ofText text).toOption.getD {}, none, none, none⟩
  table := {}
  options := {}

theorem extension_sections_kept_limits : ∃ operation,
    (documentedBy "List\n# Limits\nTen\n# Notes\nNew").alone = .ok operation /\
      operation.toJson.member? "x-limits" = some (.string "Ten") := by
  obtain ⟨doc, read⟩ : ∃ doc, EndpointDoc.ofText "List\n# Limits\nTen\n# Notes\nNew" = .ok doc :=
    exists_ok (by decide +kernel)
  obtain ⟨operation, built⟩ : ∃ operation,
      (documentedBy "List\n# Limits\nTen\n# Notes\nNew").alone = .ok operation :=
    exists_ok (by decide +kernel)
  have documented : (documentedBy "List\n# Limits\nTen\n# Notes\nNew").entry.doc = doc := by
    rw [documentedBy, read]
    rfl
  obtain ⟨title, value, last, whole, stands, -⟩ :=
    (extension_sections_kept (documented ▸ read) built).1 ⟨"Limits".toList, [⟨3, "Ten".toList⟩]⟩
      (by decide +kernel) (by decide +kernel)
  have limits : some title = some "Limits" := last.symm.trans (by decide +kernel)
  cases limits
  have ten : some value = some "Ten" := whole.symm.trans (by decide +kernel)
  have field : extensionField (String.ofList "Limits".toList) = "x-limits" := by decide +kernel
  rw [field, Option.some.inj ten] at stands
  exact ⟨operation, built, stands⟩

/-- Of two titles that differ in a mark the first section is lost. -/
theorem extension_section_lost : ∃ operation,
    (documentedBy "List\n# Rate limits\nTen\n# Rate-limits\nFive").alone = .ok operation /\
      ∃ part ∈ blockSections "List\n# Rate limits\nTen\n# Rate-limits\nFive",
        part.isExtension = true /\ ∀ entry ∈ operation.extensions.entries,
          ¬ (sectionText part.lines).toList <:+: entry.2.toList := by
  obtain ⟨operation, built⟩ : ∃ operation,
      (documentedBy "List\n# Rate limits\nTen\n# Rate-limits\nFive").alone = .ok operation :=
    exists_ok (by decide +kernel)
  refine ⟨operation, built, ?_⟩
  rw [(describes_of_alone built).extensions]
  decide +kernel
end Site
end OpenApi
end RouteDocs
