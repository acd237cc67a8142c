import RouteDocs.Proofs.DocSections

namespace RouteDocs
open List
open Text (OneLine)

/-!
# Documentation that is written and read again

Every section that is read adds its share to what has been read before. From the summary and
the description the sections of a written block lead, one by one, to the documentation that the
block was written from.
-/

namespace Doc

/-- Reading sections as they were written leads from one documentation to another. -/
def Leads (start : EndpointDoc) (written : List (Chars × List Chars))
    (stop : EndpointDoc) : Prop :=
  (written.map fun written => ⟨written.1, unnumbered written.2⟩).foldlM addSection start = .ok stop

theorem leads_singleton {title : Chars} (step : ∀ part : Section, part.title = title ->
    part.lines = unnumbered lines -> addSection start part = .ok stop) :
    Leads start [(title, lines)] stop := by
  rw [Leads, map_singleton, foldlM_cons, step _ rfl rfl]
  rfl

theorem Leads.append (leads : Leads start first middle) (further : Leads middle second stop) :
    Leads start (first ++ second) stop := by
  rw [Leads, map_append, foldlM_append, show foldlM addSection start _ = .ok middle from leads]
  exact further

section
variable (start : EndpointDoc)

theorem leads_parameters (writable : ∀ param ∈ params, param.Writable) : Leads start
      (if params.isEmpty then [] else [("Parameters".toList, params.map Parameter.line)])
      { start with parameters := start.parameters ++ params } := by
  split
  · rename_i empty
    rw [isEmpty_iff.mp empty, append_nil]
    rfl
  · obtain ⟨read, unwarned⟩ := parametersOn_lines writable
    refine leads_singleton fun part titled lines => ?_
    rw [addSection, if_pos titled, lines, read, unwarned, append_nil]

theorem leads_requestBody (pre : start.requestBody? = none)
    (writable : ∀ body, body? = some body -> body.Writable) :
    Leads start (body?.toList.map fun body => ("Request Body".toList, body.lines))
      { start with requestBody? := body? } := by
  cases body? with
  | none =>
    have same : { start with requestBody? := none } = start := by rw [<- pre]
    rw [same]
    rfl
  | some body =>
    refine leads_singleton fun part titled lines => ?_
    rw [addSection, if_neg (titled ▸ by decide), if_pos titled, lines,
      readRequestBody_lines (writable body rfl)]

theorem leads_responses (pre : start.responses = ∅)
    (writable : ∀ status response, (status, response) ∈ resps.entries ->
      response.status = status /\ response.Writable) : Leads start (if resps.isEmpty then []
        else [("Responses".toList, resps.values.flatMap Response.lines)])
      { start with responses := resps } := by
  split
  · rename_i empty
    have same : start.responses = resps := by
      rw [pre]
      exact OrderedMap.eq_of_entries (isEmpty_iff.mp empty).symm
    rw [<- same]
    rfl
  · rename_i notEmpty
    have present : resps.values ≠ [] := fun empty =>
      notEmpty (isEmpty_iff.mpr (map_eq_nil_iff.mp empty))
    have merged : mergeResponses start.responses start.warnings resps.entries =
        (resps, start.warnings) := by
      rw [pre]
      exact mergeResponses_of_entries rfl _
    refine leads_singleton fun part titled lines => ?_
    rw [addSection, if_neg (titled ▸ by decide), if_neg (titled ▸ by decide), if_pos titled, lines]
    simp only [readResponses_written writable present, bind, Except.bind, append_nil, merged]
    rfl

theorem leads_extensions (all : extensions.entries = start.extensions.entries ++ entries)
    (writable : ∀ title text, (title, text) ∈ entries ->
      Filled title /\ title ∉ knownTitles /\ ∃ lines, FreeText text lines) :
    Leads start (entries.map fun (title, text) => (title.toList, Text.splitAt '\n' text.toList))
      { start with extensions := extensions } := by
  induction entries generalizing start with
  | nil =>
    have same : extensions = start.extensions := OrderedMap.eq_of_entries (all.trans (append_nil _))
    rw [same]
    rfl
  | cons first rest ih =>
    obtain ⟨title, text⟩ := first
    obtain ⟨-, unknown, written, free⟩ := writable title text (.head _)
    obtain ⟨fresh, further⟩ := OrderedMap.insert_next all
    have later := ih
      { start with extensions := start.extensions.insert title text } further
      fun title text mem => writable title text (.tail _ mem)
    refine (leads_singleton fun part titled lines => ?_).append later
    have other : ∀ known ∈ knownTitles, part.title ≠ known.toList := by
      intro known listed same
      exact unknown (String.toList_inj.mp (titled.symm.trans same) ▸ listed)
    rw [addSection, if_neg (other _ (by decide)), if_neg (other _ (by decide)),
      if_neg (other _ (by decide)), titled, lines, free.splitAt_eq, sectionText_written free,
      String.ofList_toList, extend, fresh]
end

section
variable {doc : EndpointDoc}

theorem sectional_of_mem (writable : doc.Writable) :
    ∀ written ∈ doc.writtenSections, Sectional written := by
  intro written mem
  rcases mem_append.mp mem with inParameters | later
  · split at inParameters
    · cases inParameters
    · obtain rfl := mem_singleton.mp inParameters
      refine sectional_of_lines (by decide) (by decide) fun line listed => ?_
      obtain ⟨param, given, rfl⟩ := mem_map.mp listed
      have oneLine := (writable.parameters param given).oneLine
      exact sectionLine_of_head? oneLine rfl (by decide)
  rcases mem_append.mp later with inBody | later
  · obtain ⟨body, given, rfl⟩ := mem_map.mp inBody
    refine sectional_of_lines (by decide) (by decide) fun line listed => ?_
    obtain ⟨oneLine, unmarked, -⟩ :=
      (writable.requestBody body (Option.mem_toList.mp given)).lines line listed
    exact ⟨oneLine.flat, oneLine.ends, unmarked⟩
  rcases mem_append.mp later with inResponses | inExtensions
  · split at inResponses
    · cases inResponses
    · obtain rfl := mem_singleton.mp inResponses
      refine sectional_of_lines (by decide) (by decide) fun line listed => ?_
      obtain ⟨response, given, inside⟩ := mem_flatMap.mp listed
      obtain ⟨⟨status, _⟩, entry, rfl⟩ := mem_map.mp given
      exact (writable.responses status _ entry).2.lines line inside
  · obtain ⟨⟨title, text⟩, entry, rfl⟩ := mem_map.mp inExtensions
    obtain ⟨filled, -, lines, free⟩ := writable.extensions title text entry
    exact free.sectional filled

theorem leads_writtenSections (writable : doc.Writable) :
    Leads { summary := doc.summary, description := doc.description } doc.writtenSections doc := by
  have params := leads_parameters { summary := doc.summary, description := doc.description }
    writable.parameters
  have requestBody := leads_requestBody
    { summary := doc.summary, description := doc.description, parameters := doc.parameters }
    rfl writable.requestBody
  have resps := leads_responses
    { summary := doc.summary, description := doc.description, parameters := doc.parameters,
      requestBody? := doc.requestBody? }
    rfl writable.responses
  have extensions := leads_extensions
    { summary := doc.summary, description := doc.description, parameters := doc.parameters,
      requestBody? := doc.requestBody?, responses := doc.responses }
    (nil_append _).symm writable.extensions
  have whole := params.append (requestBody.append (resps.append extensions))
  obtain ⟨summary, about, params, requestBody?, resps, extensions, warnings⟩ := doc
  obtain rfl : warnings = [] := writable.unwarned
  exact whole

theorem flatMap_writtenParts (oneLine : ∀ text ∈ texts, OneLine text /\ text ≠ [])
    (described : doc.description.toList = Text.joinWith ['\n', '\n'] texts) :
    (doc.writtenParts.flatMap fun part => [] :: part) =
      spread texts ++ doc.writtenSections.flatMap fun written => [] :: sectionLines written := by
  have unbroken : ∀ text ∈ texts, '\n' ∉ text :=
    fun text listed => (oneLine text listed).1.flat.newline_not_mem
  have about : ((if doc.description.toList.isEmpty then []
      else [Text.splitAt '\n' doc.description.toList]).flatMap fun part => [] :: part) =
      spread texts := by
    cases texts with
    | nil =>
      rw [described]
      rfl
    | cons first rest =>
      have filled : doc.description.toList.isEmpty = false := by
        rw [described, isEmpty_eq_false_iff]
        exact Text.joinWith_ne_nil _ (oneLine first (.head _)).2 rest
      rw [filled, if_neg Bool.false_ne_true, described, flatMap_singleton]
      exact cons_splitAt_joinWith (cons_ne_nil _ _) unbroken
  rw [EndpointDoc.writtenParts, flatMap_append, about, flatMap_map]
  rfl

theorem block_write (writable : doc.Writable) (oneLine : ∀ text ∈ texts, OneLine text /\ text ≠ []) :
    Text.Block doc.summary.toList (spread texts ++
      doc.writtenSections.flatMap fun written => [] :: sectionLines written) where
  flat := by
    refine forall_mem_cons.mpr ⟨writable.summary.oneLine.flat, forall_mem_append.mpr
      ⟨forall_mem_spread (forall_mem_nil _) fun text listed => (oneLine text listed).1.flat, ?_⟩⟩
    intro line mem
    obtain ⟨written, listed, inside⟩ := mem_flatMap.mp mem
    rcases mem_cons.mp inside with rfl | found
    · exact forall_mem_nil _
    · exact (sectional_of_mem writable written listed).flat line found
  starts := writable.summary.oneLine.visible writable.summary.filled
  anchored := by
    cases texts with
    | cons first rest =>
      obtain ⟨plain, filled⟩ := oneLine first (.head _)
      exact .inr ⟨first, .tail _ (.head _), plain.visible filled⟩
    | nil =>
      cases doc.writtenSections with
      | nil => exact .inl rfl
      | cons first rest => exact .inr ⟨_, .tail _ (.head _), '#', rfl, rfl⟩
end
end Doc

open Doc in
/-- Documentation that can be written as a block is read from that block, and nothing is noted
about it. -/
theorem EndpointDoc.ofText_write (doc : EndpointDoc) (writable : doc.Writable) :
    EndpointDoc.ofText doc.write = .ok doc := by
  obtain ⟨paragraphs, passages, described⟩ := writable.description
  have oneLine : ∀ text ∈ paragraphs.map String.toList, OneLine text /\ text ≠ [] := by
    intro text listed
    obtain ⟨paragraph, given, rfl⟩ := mem_map.mp listed
    exact ⟨(passages paragraph given).oneLine, (passages paragraph given).filled⟩
  have plain : ∀ line ∈ doc.summary.toList :: spread (paragraphs.map String.toList),
      headingTitle? line = none := by
    refine forall_mem_cons.mpr ⟨headingTitle?_eq_none writable.summary.unmarked,
      forall_mem_spread rfl ?_⟩
    intro text listed
    obtain ⟨paragraph, given, rfl⟩ := mem_map.mp listed
    exact headingTitle?_eq_none (passages paragraph given).unmarked
  have read := ofText_bared (block_write writable oneLine)
  rw [<- flatMap_writtenParts oneLine described, <- EndpointDoc.write, flatMap_writtenParts oneLine
    described, <- cons_append, reading_written (sectional_of_mem writable) plain, opening,
    readPreamble_written writable.summary.toFilled oneLine described] at read
  exact eq_of_bared writable.unwarned (read.trans (leads_writtenSections writable))

def orderDoc : EndpointDoc where
  summary := "#1: list orders (recent)"
  description := "Newest first.\n\n##No heading: 'next' is the next page."
  parameters := [⟨"page", .query, "Page (from 1): a number"⟩, ⟨"X-Trace:id", .header, ""⟩]
  requestBody? := some ⟨"application/json", "Filters: \"all\" by default", some "Order Filter"⟩
  responses := ⟨[(200, .elaborate 200 "Page: 'orders' # 1" "application/json" (some "OrderPage")
        [⟨"none", none, .string "- 7: \"paid\""⟩, ⟨"one: #7", some "'A' or \"B\"", .string "7"⟩]),
      (404, .simple 404 "# No such page: (gone)")], by decide⟩
  extensions := ⟨[("Rate: limits (#)", "  - ten: calls\n\n    # a minute\n#strict"), ("Parameter", "none")],
    by decide⟩

open Doc in
theorem EndpointDoc.ofText_write_orderDoc :
    orderDoc.Writable /\ EndpointDoc.ofText orderDoc.write = .ok orderDoc := by
  have writable : orderDoc.Writable := by
    refine ⟨by decide +kernel, ⟨["Newest first.", "##No heading: 'next' is the next page."],
      by decide +kernel, by decide +kernel⟩, by decide +kernel, ?_, ?_, ?_, rfl⟩
    · rintro _ ⟨⟩
      exact ⟨by decide +kernel, by rintro _ ⟨⟩; decide +kernel, .inr (by decide +kernel)⟩
    · rintro status response (_ | ⟨_, _ | ⟨_, ⟨⟩⟩⟩)
      · refine ⟨rfl, by decide, by decide +kernel, by decide +kernel, ?_, ?_⟩
        · rintro _ ⟨⟩
          decide +kernel
        · rintro sample (_ | ⟨_, _ | ⟨_, ⟨⟩⟩⟩)
          · exact ⟨by decide +kernel, by rintro _ ⟨⟩, _, rfl, by decide +kernel,
              by rintro _ ⟨⟩; decide⟩
          · exact ⟨by decide +kernel, by rintro _ ⟨⟩; decide +kernel, _, rfl, by decide +kernel,
              by rintro _ ⟨⟩; decide⟩
      · exact ⟨rfl, by decide, show Filled _ by decide +kernel⟩
    · rintro title text (_ | ⟨_, _ | ⟨_, ⟨⟩⟩⟩)
      · exact ⟨by decide +kernel, by decide +kernel, ["  - ten: calls".toList, [],
          "    # a minute".toList, "#strict".toList], by decide +kernel⟩
      · exact ⟨by decide +kernel, by decide +kernel, ["none".toList], by decide +kernel⟩
  exact ⟨writable, EndpointDoc.ofText_write orderDoc writable⟩
end RouteDocs
