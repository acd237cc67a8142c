import RouteDocs.Proofs.ResponseSections

namespace RouteDocs
open List Text
open Text (OneLine)

/-!
# Reading written sections

A written block falls apart as it was put together; only the empty line before a heading is read
with what stands above it. The preamble and every kind of section give back what was written in
them, whatever empty lines stand behind it.
-/

namespace Doc

/-- A title with the lines under it that can be told from the sections around them. -/
structure Sectional (written : Chars × List Chars) : Prop where
  title : OneLine written.1
  titled : written.1 ≠ []
  lines : ∀ line ∈ written.2, SectionLine line

def sectionLines (written : Chars × List Chars) : List Chars :=
  headingLine written.1 :: written.2

theorem sectional_of_lines {title : Chars} (oneLine : OneLine title) (titled : title ≠ [])
    (inside : ∀ line ∈ lines, SectionLine line) : Sectional (title, lines) :=
  ⟨oneLine, titled, inside⟩

theorem Sectional.flat (sectional : Sectional written) :
    ∀ line ∈ sectionLines written, Text.Flat line :=
  forall_mem_cons.mpr ⟨flat_append.mpr ⟨show Text.Flat ['#', ' '] by decide, sectional.title.flat⟩,
    fun line inside => (sectional.lines line inside).flat⟩

theorem joinWith_append_blank (lines : List Chars) (blank : ∀ line ∈ blanks, line = []) :
    ∃ breaks, (∀ c ∈ breaks, c = '\n') /\
      joinWith ['\n'] (lines ++ blanks) = joinWith ['\n'] lines ++ breaks := by
  have broken : ∀ c ∈ joinWith ['\n'] blanks, c = '\n' := by
    intro c mem
    rcases mem_joinWith mem with same | ⟨line, listed, inside⟩
    · exact same
    · rw [blank line listed] at inside
      cases inside
  by_cases some : lines = []
  · exact ⟨_, broken, by rw [some]; rfl⟩
  by_cases more : blanks = []
  · exact ⟨[], nofun, by rw [more, append_nil, append_nil]⟩
  · exact ⟨'\n' :: joinWith ['\n'] blanks, forall_mem_cons.mpr ⟨rfl, broken⟩,
      by rw [joinWith_append _ some more, append_assoc]; rfl⟩

theorem trimWhile_append {α : Type} {drop : α -> Bool} (text : List α) {tail : List α}
    (dropped : ∀ c ∈ tail, drop c = true) :
    trimWhile drop (text ++ tail) = trimWhile drop text := by
  unfold trimWhile
  rw [dropWhile_append]
  split
  · rename_i nothing
    rw [isEmpty_iff.mp nothing, dropWhile_eq_nil_iff.mpr dropped]
  · exact dropEndWhile_append _ dropped

theorem addSection_append_blank (doc : EndpointDoc) (title : Chars) (lines : List Line)
    {blanks : List Line} (blank : ∀ line ∈ blanks, line.text = []) :
    addSection doc ⟨title, lines ++ blanks⟩ = addSection doc ⟨title, lines⟩ := by
  have empty : (blanks.map fun line => trim line.text).filter (!·.isEmpty) = [] := by
    rw [filter_eq_nil_iff, forall_mem_map]
    intro line mem
    rw [blank line mem]
    exact Bool.false_ne_true
  unfold addSection
  dsimp only
  split_ifs
  · have none : blanks.filterMap parameterOn? = [] :=
      filterMap_eq_nil_iff.mpr fun line mem => by rw [parameterOn?, blank line mem]; rfl
    have silent : blanks.flatMap parameterWarnings = [] :=
      flatMap_eq_nil_iff.mpr fun line mem => by rw [parameterWarnings, blank line mem]; rfl
    rw [filterMap_append, flatMap_append, none, silent, append_nil, append_nil]
  · simp only [readRequestBody, map_append, filter_append, empty, append_nil]
  · rw [map_append, readResponses_append_blank]
    refine forall_mem_map.mpr fun line mem => ?_
    rw [blank line mem]
    rfl
  · have trimmed : ∀ line ∈ blanks.map fun line => trimEnd line.text, line = [] :=
      forall_mem_map.mpr fun line mem => by rw [blank line mem]; rfl
    obtain ⟨breaks, broken, joined⟩ :=
      joinWith_append_blank (lines.map fun line => trimEnd line.text) trimmed
    rw [sectionText, map_append, joined,
      trimWhile_append _ fun c mem => beq_iff_eq.mpr (broken c mem), sectionText]

theorem exists_splitWhere_append (lines : List Chars) (blank : ∀ line ∈ blanks, line = []) :
    ∃ more, (∀ piece ∈ more, piece = []) /\
      splitWhere List.isEmpty (lines ++ blanks) = splitWhere List.isEmpty lines ++ more := by
  induction lines with
  | nil =>
    have empty : ∀ piece ∈ splitWhere List.isEmpty blanks, piece = [] := by
      rw [<- flatten_eq_nil_iff, flatten_splitWhere, filter_eq_nil_iff]
      intro line mem
      rw [blank line mem]
      exact Bool.false_ne_true
    obtain ⟨first, more, split⟩ := exists_cons_of_ne_nil (@splitWhere_ne_nil _ List.isEmpty blanks)
    rw [split, forall_mem_cons] at empty
    refine ⟨more, empty.2, ?_⟩
    rw [nil_append, split, empty.1]
    rfl
  | cons line rest ih =>
    obtain ⟨more, empty, split⟩ := ih
    refine ⟨more, empty, ?_⟩
    rw [cons_append, splitWhere, split, splitWhere]
    obtain ⟨first, others, found⟩ := exists_cons_of_ne_nil (@splitWhere_ne_nil _ List.isEmpty rest)
    rw [found]
    split_ifs <;> rfl

theorem readPreamble_append_blank (lines : List Line) {blanks : List Line}
    (blank : ∀ line ∈ blanks, line.text = []) : readPreamble (lines ++ blanks) = readPreamble lines := by
  have empty : ∀ line ∈ blanks.map fun line => trim line.text, line = [] :=
    forall_mem_map.mpr fun line mem => by rw [blank line mem]; rfl
  unfold readPreamble
  rw [map_append, dropWhile_append]
  cases (lines.map fun line => trim line.text).dropWhile isEmpty with
  | nil => rw [dropWhile_eq_nil_iff.mpr fun line mem => isEmpty_iff.mpr (empty line mem)]; rfl
  | cons summary rest =>
    obtain ⟨more, nothing, split⟩ := exists_splitWhere_append rest empty
    have unseen : more.filter (!·.isEmpty) = [] :=
      filter_eq_nil_iff.mpr fun piece mem => by rw [nothing piece mem]; exact Bool.false_ne_true
    simp only [isEmpty_cons, Bool.false_eq_true, if_false, cons_append, paragraphs, split,
      filter_append, unseen, append_nil]

theorem forall_mem_unnumbered {holds : Chars -> Prop} :
    (∀ line ∈ unnumbered texts, holds line.text) ↔ ∀ text ∈ texts, holds text :=
  forall_mem_map

theorem splitSections_append (plain : ∀ line ∈ pre, headingTitle? line.text = none)
    (rest : List Line) :
    splitSections (pre ++ rest) = (pre ++ (splitSections rest).1, (splitSections rest).2) := by
  induction pre with
  | nil => rfl
  | cons first others ih =>
    have here := plain first (.head _)
    have later := ih (forall_mem_cons.mp plain).2
    rw [cons_append, splitSections, later]
    simp only [here, cons_append]

/-- Empty lines behind a block or before a heading say nothing. -/
theorem reading_append_blank (lines : List Line) {blanks tail : List Line}
    (blank : ∀ line ∈ blanks, line.text = []) (flush : (splitSections tail).1 = []) :
    reading (lines ++ (blanks ++ tail)) = reading (lines ++ tail) := by
  have cut : (∃ more, (∀ line ∈ more, line.text = []) /\ (splitSections (lines ++ (blanks ++ tail))).1 =
      (splitSections (lines ++ tail)).1 ++ more) /\ ∀ start,
        (splitSections (lines ++ (blanks ++ tail))).2.foldlM addSection start =
          (splitSections (lines ++ tail)).2.foldlM addSection start := by
    induction lines with
    | nil =>
      rw [nil_append, nil_append, splitSections_append, flush]
      · exact ⟨⟨blanks, blank, append_nil _⟩, fun _ => rfl⟩
      · intro line mem
        rw [blank line mem]
        rfl
    | cons line rest ih =>
      rw [cons_append, cons_append, splitSections, splitSections]
      generalize splitSections (rest ++ (blanks ++ tail)) = long at ih ⊢
      generalize splitSections (rest ++ tail) = short at ih ⊢
      obtain ⟨⟨more, empty, preamble⟩, same⟩ := ih
      cases headingTitle? line.text with
      | none => exact ⟨⟨more, empty, congrArg (cons line) preamble⟩, same⟩
      | some title =>
        refine ⟨⟨[], forall_mem_nil _, rfl⟩, fun start => ?_⟩
        change foldlM addSection start (⟨title, long.1⟩ :: long.2) =
          foldlM addSection start (⟨title, short.1⟩ :: short.2)
        rw [preamble, foldlM_cons, foldlM_cons, addSection_append_blank _ _ _ empty]
        exact congrArg (addSection start _ >>= ·) (funext same)
  obtain ⟨⟨more, empty, preamble⟩, same⟩ := cut
  rw [reading, same, preamble, opening, readPreamble_append_blank _ empty]
  rfl

theorem ofText_bared (block : Block first rest) :
    (EndpointDoc.ofText (String.ofList (joinWith ['\n'] (first :: rest)))).map EndpointDoc.bared =
      reading (unnumbered (first :: rest)) := by
  obtain ⟨blanks, blank, whole⟩ := block.exists_splitLines
  have same := @reading_append_blank (unnumbered (splitLines (cleanBlock (joinWith ['\n']
    (first :: rest))))) (unnumbered blanks) [] (forall_mem_unnumbered.mpr blank) rfl
  rw [append_nil, append_nil, unnumbered, unnumbered, <- map_append, <- whole] at same
  rw [EndpointDoc.ofText, String.toList_ofList, ofLines_bared]
  exact same.symm

/-- A heading with the lines up to the next one. -/
structure Chapter where
  heading : Chars
  title : Chars
  inside : List Chars
  titled : headingTitle? heading = some title
  plain : ∀ line ∈ inside, headingTitle? line = none

namespace Chapter
def lines (chapter : Chapter) : List Chars := chapter.heading :: chapter.inside

def part (chapter : Chapter) : Section := ⟨chapter.title, unnumbered chapter.inside⟩

theorem visible (chapter : Chapter) : Visible chapter.heading := by
  have titled := chapter.titled
  cases found : chapter.heading.head? with
  | none =>
    rw [head?_eq_none_iff.mp found] at titled
    cases titled
  | some c =>
    by_cases mark : c = '#'
    · exact ⟨c, found, by rw [mark]; rfl⟩
    · rw [headingTitle?_of_head? found mark] at titled
      cases titled
end Chapter

theorem reading_chapters (plain : ∀ line ∈ preamble, headingTitle? line = none)
    (chapters : List Chapter) : reading (unnumbered (preamble ++ chapters.flatMap Chapter.lines)) =
      (chapters.map Chapter.part).foldlM addSection (opening (unnumbered preamble)) := by
  have split : splitSections (unnumbered (preamble ++ chapters.flatMap Chapter.lines)) =
      (unnumbered preamble, chapters.map Chapter.part) := by
    induction chapters generalizing preamble with
    | nil =>
      have split := splitSections_append (forall_mem_unnumbered.mpr plain) []
      rw [append_nil] at split
      rw [flatMap_nil, append_nil]
      exact split.trans (congrArg (·, []) (append_nil _))
    | cons chapter rest ih =>
      have regroup : unnumbered (preamble ++ (chapter :: rest).flatMap Chapter.lines) =
          unnumbered preamble ++ ⟨0, chapter.heading⟩ ::
            unnumbered (chapter.inside ++ rest.flatMap Chapter.lines) := by
        rw [unnumbered, map_append, flatMap_cons]
        rfl
      rw [regroup, splitSections_append (forall_mem_unnumbered.mpr plain),
        splitSections, ih chapter.plain]
      simp only [chapter.titled, append_nil]
      rfl
  rw [reading, split]

def Sectional.chapter (sectional : Sectional written) : Chapter where
  heading := headingLine written.1
  title := written.1
  inside := written.2
  titled := headingTitle?_headingLine sectional.title sectional.titled
  plain := fun line mem => (sectional.lines line mem).unmarked

theorem reading_written {sections : List (Chars × List Chars)}
    (sectional : ∀ written ∈ sections, Sectional written)
    (plain : ∀ line ∈ pre, headingTitle? line = none) :
    reading (unnumbered (pre ++ sections.flatMap fun written => [] :: sectionLines written)) =
      (sections.map fun written => ⟨written.1, unnumbered written.2⟩).foldlM addSection
        (opening (unnumbered pre)) := by
  have closed (lines : List Chars) (all : ∀ written ∈ sections, Sectional written) :
      reading (unnumbered (lines ++ sections.flatMap fun written => [] :: sectionLines written)) =
        reading (unnumbered (lines ++ sections.flatMap sectionLines)) := by
    clear sectional
    induction sections generalizing lines with
    | nil => rfl
    | cons first rest ih =>
      have here := all _ (.head _)
      have opened (more : List Chars) :
          (splitSections (unnumbered (sectionLines first ++ more))).1 = [] := by
        rw [sectionLines, unnumbered, cons_append, map_cons, splitSections]
        simp only [headingTitle?_headingLine here.title here.titled]
      have dropped (more : List Chars) : reading (unnumbered (lines ++
          ([] :: sectionLines first ++ more))) =
            reading (unnumbered (lines ++ sectionLines first ++ more)) := by
        rw [cons_append, append_assoc]
        exact (congrArg reading map_append).trans ((@reading_append_blank _ [⟨0, []⟩] _
          (forall_mem_singleton.mpr rfl) (opened more)).trans (congrArg reading map_append.symm))
      rw [flatMap_cons, dropped, ih _ (forall_mem_cons.mp all).2, flatMap_cons, append_assoc]
  have chapters := reading_chapters plain (sections.attach.map fun found =>
    (sectional found.1 found.2).chapter)
  rw [flatMap_map, map_map] at chapters
  rw [closed pre sectional]
  conv_lhs => rw [<- attach_map_subtype_val sections, flatMap_map]
  conv_rhs => rw [<- attach_map_subtype_val sections, map_map]
  exact chapters

theorem paragraphs_cons (filled : line ≠ []) (apart : ∀ next, rest.head? = some next -> next = []) :
    paragraphs (line :: rest) = [line] :: paragraphs rest := by
  have visible : line.isEmpty = false := isEmpty_eq_false_iff.mpr filled
  cases rest with
  | nil => simp [paragraphs, splitWhere, consFirst, visible]
  | cons next others =>
    obtain rfl := apart next rfl
    simp [paragraphs, splitWhere, consFirst, visible]

variable {value text : Chars} {texts : List Chars}

def spread (texts : List Chars) : List Chars := texts.flatMap fun text => [[], text]

theorem forall_mem_spread {property : Chars -> Prop} (empty : property [])
    (each : ∀ text ∈ texts, property text) : ∀ line ∈ spread texts, property line := by
  intro line mem
  obtain ⟨text, listed, inside⟩ := mem_flatMap.mp mem
  rcases mem_cons.mp inside with rfl | found
  · exact empty
  · rw [mem_singleton.mp found]
    exact each text listed

theorem paragraphs_spread (filled : ∀ text ∈ texts, text ≠ []) :
    paragraphs (spread texts) = texts.map fun text => [text] := by
  induction texts with
  | nil => rfl
  | cons first rest ih =>
    have apart : ∀ next, (spread rest).head? = some next -> next = [] := by
      intro next found
      cases rest with
      | nil => cases found
      | cons second others => exact (Option.some.inj found).symm
    rw [map_cons, <- ih (forall_mem_cons.mp filled).2,
      <- paragraphs_cons (filled first (.head _)) apart]
    rfl

theorem cons_splitAt_joinWith (present : texts ≠ []) (unbroken : ∀ text ∈ texts, '\n' ∉ text) :
    [] :: Text.splitAt '\n' (joinWith ['\n', '\n'] texts) = spread texts := by
  induction texts with
  | nil => exact absurd rfl present
  | cons first rest ih =>
    have plain : ∀ c ∈ first, (c == '\n') = false := by
      intro c mem
      apply beq_eq_false_iff_ne.mpr
      rintro rfl
      exact unbroken first (.head _) mem
    by_cases more : rest = []
    · subst more
      exact congrArg (cons []) (splitWhere_of_forall plain)
    · have later := ih more (forall_mem_cons.mp unbroken).2
      rw [joinWith_cons _ _ more, append_assoc, Text.splitAt, cons_append,
        splitWhere_append plain rfl]
      exact congrArg (fun lines => [] :: first :: lines) later

theorem readPreamble_written {summary about : String} (summarized : Filled summary)
    (oneLine : ∀ text ∈ texts, OneLine text /\ text ≠ [])
    (described : about.toList = joinWith ['\n', '\n'] texts) :
    readPreamble (unnumbered (summary.toList :: spread texts)) = (summary, about) := by
  have trimmed : (summary.toList :: spread texts).map trim = summary.toList :: spread texts := by
    refine (map_congr_left fun line mem => OneLine.trim_eq ?_).trans (map_id' _)
    exact forall_mem_cons.mpr ⟨summarized.oneLine,
      forall_mem_spread oneLine_nil fun text listed => (oneLine text listed).1⟩ line mem
  have begins : (summary.toList :: spread texts).dropWhile isEmpty =
      summary.toList :: spread texts := by
    apply dropWhile_of_head?
    rintro _ ⟨⟩
    exact isEmpty_eq_false_iff.mpr summarized.filled
  have joined : ((texts.map fun text => [text]).map (joinWith [' '])) = texts := by
    rw [map_map]
    exact map_id' texts
  rw [readPreamble, unnumbered, map_map, show (fun line : Line => trim line.text) ∘ Line.mk 0 = trim
    from rfl, trimmed, begins]
  simp only [paragraphs_spread fun text mem => (oneLine text mem).2, joined, <- described,
    String.ofList_toList]

theorem parametersOn_lines (writable : ∀ param ∈ params, param.Writable) :
    (unnumbered (params.map Parameter.line)).filterMap parameterOn? = params /\
      (unnumbered (params.map Parameter.line)).flatMap parameterWarnings = [] := by
  induction params with
  | nil => exact ⟨rfl, rfl⟩
  | cons first rest ih =>
    obtain ⟨read, unwarned⟩ := @parameterOn?_line first (writable first (.head _)) ⟨0, first.line⟩ rfl
    obtain ⟨readAll, unwarnedAll⟩ := ih (forall_mem_cons.mp writable).2
    constructor
    · exact (filterMap_cons_some read).trans (congrArg _ readAll)
    · refine flatMap_cons.trans ?_
      rw [unwarned, nil_append]
      exact unwarnedAll

theorem afterLabel?_append (label : String) (oneLine : OneLine value) :
    afterLabel? label (label.toList ++ spaced value) = some value := by
  have labelled : label.toList.isPrefixOf (label.toList ++ spaced value) = true :=
    isPrefixOf_iff_prefix.mpr (prefix_append _ _)
  rw [afterLabel?, if_pos labelled, drop_left, trim_spaced oneLine.unpadded]

theorem afterLabel?_eq_none (ne : ¬ label.toList <+: text) : afterLabel? label text = none := by
  rw [afterLabel?, if_neg fun found => ne ( isPrefixOf_iff_prefix.mp found)]

theorem bodyLine_contentType (oneLine : OneLine value) :
    bodyLine ("Content-Type:".toList ++ spaced value) = .contentType value := by
  rw [bodyLine, afterLabel?_append _ oneLine]

theorem bodyLine_schema (oneLine : OneLine value) :
    bodyLine ("Schema:".toList ++ spaced value) = .schema value := by
  have ne : ¬ "Content-Type:".toList <+: "Schema:".toList ++ spaced value := by
    rintro ⟨rest, same⟩
    exact absurd (cons.inj same).1 (by decide)
  rw [bodyLine, afterLabel?_eq_none ne, afterLabel?_append _ oneLine]

theorem bodyLine_text (noContentType : ¬ "Content-Type:".toList <+: text)
    (noSchema : ¬ "Schema:".toList <+: text) : bodyLine text = .text text := by
  rw [bodyLine, afterLabel?_eq_none noContentType, afterLabel?_eq_none noSchema]

section
variable {body : RequestBody}

theorem RequestBody.Writable.lines (writable : body.Writable) :
    ∀ line ∈ body.lines, OneLine line /\ headingTitle? line = none /\ line ≠ [] := by
  intro line mem
  rcases mem_cons.mp mem with rfl | later
  · refine ⟨oneLine_append_spaced (by decide) (by decide) writable.contentType.oneLine,
      headingTitle?_of_head? rfl (by decide), cons_ne_nil _ _⟩
  · rcases mem_append.mp later with inSchema | inDescription
    · obtain ⟨schema, listed, rfl⟩ := mem_map.mp inSchema
      have filled := writable.schema schema (Option.mem_toList.mp listed)
      exact ⟨oneLine_append_spaced (by decide) (by decide) filled.oneLine,
        headingTitle?_of_head? rfl (by decide), cons_ne_nil _ _⟩
    · split at inDescription
      · cases inDescription
      · rename_i present
        rw [mem_singleton.mp inDescription]
        rcases writable.description with none | ⟨passage, -, -⟩
        · exact absurd (by rw [none]; rfl) present
        · exact ⟨passage.oneLine, headingTitle?_eq_none passage.unmarked, passage.filled⟩

theorem RequestBody.Writable.map_bodyLine (writable : body.Writable) :
    body.lines.map bodyLine = .contentType body.contentType.toList ::
      ((body.schema?.toList.map fun schema => BodyLine.schema schema.toList) ++
        if body.description.toList.isEmpty then [] else [.text body.description.toList]) := by
  have schemas : (body.schema?.toList.map fun schema => "Schema:".toList ++ spaced schema.toList).map
      bodyLine = body.schema?.toList.map fun schema => BodyLine.schema schema.toList := by
    rw [map_map]
    apply map_congr_left
    intro schema listed
    exact bodyLine_schema (writable.schema schema (Option.mem_toList.mp listed)).oneLine
  have described : (if body.description.toList.isEmpty then [] else [body.description.toList]).map
      bodyLine = if body.description.toList.isEmpty then [] else [.text body.description.toList] := by
    split
    · rfl
    · rename_i present
      rcases writable.description with none | ⟨-, noContentType, noSchema⟩
      · exact absurd (by rw [none]; rfl) present
      · rw [map_singleton, bodyLine_text noContentType noSchema]
  rw [RequestBody.lines, map_cons, bodyLine_contentType writable.contentType.oneLine,
    map_append, schemas, described]

theorem readRequestBody_lines (writable : body.Writable) :
    readRequestBody (unnumbered body.lines) = body := by
  have trimmed : ((unnumbered body.lines).map fun line => trim line.text) = body.lines := by
    rw [unnumbered, map_map]
    exact (map_congr_left fun line mem => (writable.lines line mem).1.trim_eq).trans (map_id' _)
  have filled : body.lines.filter (!·.isEmpty) = body.lines := by
    rw [filter_eq_self]
    intro line mem
    rw [isEmpty_eq_false_iff.mpr (writable.lines line mem).2.2]
    rfl
  have contentType := nonempty?_toList writable.contentType.filled
  simp only [readRequestBody, trimmed, filled, writable.map_bodyLine]
  obtain ⟨type, about, schema?⟩ := body
  by_cases empty : about = ""
  · subst empty
    cases schema? with
    | none => simp [contentType, joinWith]
    | some schema => simp [contentType, nonempty?_toList (writable.schema schema rfl).filled, joinWith]
  · cases schema? with
    | none => simp [contentType, joinWith, empty]
    | some schema =>
      simp [contentType, nonempty?_toList (writable.schema schema rfl).filled, joinWith, empty]
end

section
variable {resp : Response}

theorem Response.Writable.oneLine_headLine (writable : resp.Writable) : OneLine resp.headLine := by
  obtain ⟨range, sayable⟩ := writable
  obtain ⟨n, status, -, -⟩ := exists_status range
  cases resp with
  | simple _ about =>
    obtain rfl := status
    exact oneLine_statusLine sayable.oneLine
  | elaborate =>
    obtain rfl := status
    exact oneLine_statusLine oneLine_nil

theorem Response.Writable.lines (writable : resp.Writable) :
    ∀ line ∈ resp.lines, SectionLine line := by
  intro line mem
  rcases mem_cons.mp mem with rfl | inBlock
  · have oneLine := writable.oneLine_headLine
    obtain ⟨rest, begins⟩ := headLine_eq_cons resp
    rw [begins] at oneLine ⊢
    exact sectionLine_of_head? oneLine rfl (by decide)
  · obtain ⟨written, listed, rfl⟩ := mem_map.mp inBlock
    exact (writable.sayable.indented written listed).sectionLine

theorem readResponses_written {resps : OrderedMap Int Response}
    (writable : ∀ status resp, (status, resp) ∈ resps.entries ->
      resp.status = status /\ resp.Writable) (present : resps.values ≠ []) :
    readResponses ((unnumbered (resps.values.flatMap Response.lines)).map fun line =>
      { line with text := trimEnd line.text }) = .ok ⟨resps, []⟩ := by
  have each : ∀ resp ∈ resps.values, resp.Writable := by
    intro resp mem
    obtain ⟨⟨status, _⟩, listed, rfl⟩ := mem_map.mp mem
    exact (writable status _ listed).2
  have entries : resps.entries = byStatus resps.values := by
    rw [byStatus, OrderedMap.values, map_map]
    refine Eq.symm ((map_congr_left ?_).trans (map_id' _))
    intro entry mem
    exact congrArg (·, entry.2) (writable entry.1 entry.2 mem).1
  have trimmed : ((unnumbered (resps.values.flatMap Response.lines)).map fun line =>
      { line with text := trimEnd line.text }) = unnumbered (resps.values.flatMap Response.lines) := by
    rw [unnumbered, map_map]
    refine map_congr_left fun line mem => congrArg (Line.mk 0) ?_
    obtain ⟨resp, listed, written⟩ := mem_flatMap.mp mem
    exact ((each resp listed).lines line written).trimEnd_eq
  rw [trimmed]
  exact readResponses_lines entries present each
end

section
variable {text : String} {written : List Chars}

theorem FreeText.sectionLine (free : FreeText text written) : ∀ line ∈ written, SectionLine line := by
  intro line mem
  have here := free.free line mem
  exact ⟨here.flat, here.ends, headingTitle?_eq_none here.unmarked⟩

theorem FreeText.unbroken (free : FreeText text written) : ∀ line ∈ written, '\n' ∉ line :=
  fun line mem => (free.free line mem).flat.newline_not_mem

theorem FreeText.present (free : FreeText text written) : written ≠ [] := by
  rintro rfl
  obtain ⟨line, found, -⟩ := free.begins
  cases found

theorem FreeText.splitAt_eq (free : FreeText text written) :
    Text.splitAt '\n' text.toList = written := by
  rw [free.joined]
  exact splitAt_joinWith free.present free.unbroken

theorem FreeText.sectional {title : String} (free : FreeText text written) (filled : Filled title) :
    Sectional (title.toList, Text.splitAt '\n' text.toList) := by
  rw [free.splitAt_eq]
  exact ⟨filled.oneLine, filled.filled, free.sectionLine⟩

theorem FreeText.unbroken_ends (free : FreeText text written) :
    (∀ c, text.toList.head? = some c -> (c == '\n') = false) /\
      ∀ c, text.toList.getLast? = some c -> (c == '\n') = false := by
  have unbroken {line : Chars} {c : Char} (listed : line ∈ written) (mem : c ∈ line) :
      (c == '\n') = false :=
    beq_eq_false_iff_ne.mpr fun same => free.unbroken line listed (same ▸ mem)
  rw [free.joined]
  constructor
  · obtain ⟨line, found, filled⟩ := free.begins
    obtain ⟨others, rfl⟩ := head?_eq_some_iff.mp found
    rw [head?_joinWith _ filled]
    exact fun c start => unbroken (.head _) (mem_of_mem_head? start)
  · obtain ⟨last, found, filled⟩ := free.ends
    obtain ⟨others, rfl⟩ := getLast?_eq_some_iff.mp found
    have ended : (joinWith ['\n'] (others ++ [last])).getLast? = last.getLast? := by
      by_cases more : others = []
      · subst more
        rfl
      · rw [joinWith_append _ more (cons_ne_nil _ _), getLast?_append,
          show joinWith ['\n'] [last] = last from rfl, getLast?_eq_some_getLast filled,
          Option.some_or]
    rw [ended]
    exact fun c stop => unbroken (mem_append_right _ (.head _)) (mem_of_mem_getLast? stop)

theorem sectionText_written (free : FreeText text written) :
    sectionText (unnumbered written) = text := by
  have trimmed : ((unnumbered written).map fun line => trimEnd line.text) = written := by
    rw [unnumbered, map_map]
    exact (map_congr_left fun line mem => (free.sectionLine line mem).trimEnd_eq).trans (map_id' _)
  rw [sectionText, trimmed, <- free.joined, trimWhile, dropWhile_of_head? free.unbroken_ends.1,
    dropEndWhile_of_getLast? free.unbroken_ends.2, String.ofList_toList]
end
end Doc
end RouteDocs
