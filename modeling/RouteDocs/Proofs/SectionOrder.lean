import RouteDocs.Proofs.DocWarnings
import RouteDocs.Proofs.Extensions
import RouteDocs.Proofs.HandlerDocs

/-!
# The order of sections

What a section says does not depend on where it stands, and sections of different titles say
different things. So two of them that follow one another can change places.
-/

namespace RouteDocs
open List Text Doc

/-- Only the order of the further sections, the order of the warnings and their lines differ. -/
structure EndpointDoc.Alike (doc other : EndpointDoc) : Prop where
  summary : doc.summary = other.summary
  description : doc.description = other.description
  parameters : doc.parameters = other.parameters
  requestBody : doc.requestBody? = other.requestBody?
  responses : doc.responses = other.responses
  extensions : ∀ title, doc.extensions.get? title = other.extensions.get? title
  concerns : (doc.warnings.map Warning.concern).Perm (other.warnings.map Warning.concern)

namespace Doc

/-- What is noted, and a repeat for each status that is documented. -/
def noted (responses : OrderedMap Int Response) (warnings : List Warning) : List Concern :=
  warnings.map Warning.concern ++ responses.keys.map Concern.repeatedStatus

def Section.concerns (part : Section) : List Concern :=
  noted part.collected.responses part.collected.warnings

/-- What a documentation says is what its sections say. Every status that a section documents is
kept, or a repeat is noted. -/
structure Composed (start : EndpointDoc) (parts : List Section) (doc : EndpointDoc) : Prop where
  summary : doc.summary = start.summary
  description : doc.description = start.description
  parameters : doc.parameters = parts.flatMap Section.parameters
  requestBody : doc.requestBody? = (parts.flatMap Section.requestBodies).getLast?
  concerns : (noted doc.responses doc.warnings).Perm (parts.flatMap Section.concerns)

theorem noted_mergeResponses (responses : OrderedMap Int Response) (warnings : List Warning)
    (added : List (Int × Response)) : (noted (mergeResponses responses warnings added).1
      (mergeResponses responses warnings added).2).Perm
        (noted responses warnings ++ added.map fun entry => .repeatedStatus entry.1) := by
  induction added generalizing responses warnings with
  | nil => rw [mergeResponses, map_nil, append_nil]
  | cons first rest ih =>
    refine (ih _ _).trans ?_
    rw [map_cons, append_cons (noted responses warnings)]
    refine .append_right _ ?_
    simp only [noted, OrderedMap.keys_insert, OrderedMap.contains_iff]
    split_ifs
    · rw [map_append, append_assoc, append_assoc]
      exact .append_left _ perm_append_comm
    · rw [map_append, append_assoc]
      rfl

theorem Composed.addSection (composed : Composed start parts doc)
    (added : addSection doc part = .ok post) : Composed start (parts ++ [part]) post := by
  obtain rfl := addSection_eq added
  refine ⟨composed.summary, composed.description, ?_, ?_, ?_⟩
  · simp only [composed.parameters, flatMap_append, flatMap_singleton]
  · simp only [composed.requestBody, flatMap_append, flatMap_singleton, getLast?_append]
  · have merged := noted_mergeResponses doc.responses (doc.warnings ++ part.collected.warnings)
      part.collected.responses.entries
    rw [flatMap_append, flatMap_singleton]
    refine merged.trans (.trans ?_ (composed.concerns.append_right _))
    simp only [noted, Section.concerns, OrderedMap.keys, map_append, map_map, append_assoc]
    refine .append_left _ ?_
    rw [<- append_assoc, <- append_assoc]
    exact .append_right _ perm_append_comm

theorem flatMap_swap {β : Type} {share : Section -> List β} {first second : Section}
    (silent : share first = [] \/ share second = []) :
    (pre ++ second :: first :: post).flatMap share =
      (pre ++ first :: second :: post).flatMap share := by
  simp only [flatMap_append, flatMap_cons]
  rcases silent with none | none <;> simp only [none, nil_append]

theorem foldlM_swap {first second : Section} (ne : first.title ≠ second.title)
    (read : (pre ++ first :: second :: post).foldlM addSection (opening preamble) = .ok doc) :
    ∃ other, (pre ++ second :: first :: post).foldlM addSection (opening preamble) = .ok other /\
      EndpointDoc.Alike other doc := by
  have differ (title : Chars) : first.title ≠ title \/ second.title ≠ title := by
    by_contra both
    push Not at both
    exact ne (both.1.trans both.2.symm)
  have composed {parts : List Section} {doc : EndpointDoc}
      (read : parts.foldlM addSection (opening preamble) = .ok doc) :
      Composed (opening preamble) parts doc :=
    foldlM_induction ⟨rfl, rfl, rfl, rfl, .refl _⟩
      (fun _ _ _ _ added composed => composed.addSection added) read
  have entries := foldlM_gives (pre ++ second :: first :: post) (opening preamble)
  rw [flatMap_swap ((differ "Responses".toList).imp (if_neg ·) (if_neg ·)), <- foldlM_gives,
    read] at entries
  cases swapped : (pre ++ second :: first :: post).foldlM addSection (opening preamble) with
  | error overflow =>
    rw [swapped] at entries
    cases entries
  | ok other =>
    rw [swapped] at entries
    have responses : other.responses = doc.responses := Option.some.inj entries
    have here := composed read
    have there := composed swapped
    refine ⟨other, rfl, there.summary.trans here.summary.symm,
      there.description.trans here.description.symm, ?_, ?_, responses, fun title => ?_, ?_⟩
    · rw [there.parameters, here.parameters,
        flatMap_swap ((differ "Parameters".toList).imp (if_neg ·) (if_neg ·))]
    · rw [there.requestBody, here.requestBody,
        flatMap_swap ((differ "Request Body".toList).imp (if_neg ·) (if_neg ·))]
    · rw [get?_extensions rfl read, get?_extensions rfl swapped, textsUnder_eq,
        textsUnder_eq, flatMap_swap]
      refine (differ title.toList).imp (fun ne => if_neg ?_) fun ne => if_neg ?_
      all_goals
        rw [Bool.and_eq_true, decide_eq_true_eq]
        rintro ⟨-, rfl⟩
        exact ne String.toList_ofList.symm
    · have moved := (Perm.swap first second post).append_left pre
      have same := there.concerns.trans
        ((moved.flatMap_right Section.concerns).trans here.concerns.symm)
      rw [noted, noted, responses] at same
      exact (perm_append_right_iff _).mp same

theorem exists_block {preamble : List Chars} {pre post : List Chapter} {first second : Chapter}
    (flat : ∀ line ∈ preamble ++ (pre ++ second :: first :: post).flatMap Chapter.lines, Flat line)
    (starts : ∀ line, preamble.head? = some line -> Visible line) :
    ∃ top more, preamble ++ (pre ++ second :: first :: post).flatMap Chapter.lines = top :: more /\
      Block top more := by
  have regroup : preamble ++ (pre ++ second :: first :: post).flatMap Chapter.lines =
      (preamble ++ (pre ++ [second]).flatMap Chapter.lines) ++
        (first :: post).flatMap Chapter.lines := by
    rw [append_assoc, <- flatMap_append, append_assoc]
    rfl
  obtain ⟨top, more, above⟩ := exists_cons_of_ne_nil (show preamble ++
    (pre ++ [second]).flatMap Chapter.lines ≠ [] by simp [Chapter.lines])
  rw [regroup, above, cons_append] at flat ⊢
  refine ⟨top, _, rfl, flat, ?_, .inr ⟨first.heading, mem_append_right _ (.head _), first.visible⟩⟩
  cases preamble with
  | cons line rest => exact starts top (congrArg head? above)
  | nil =>
    cases pre with
    | nil => exact (cons.inj above).1 ▸ second.visible
    | cons chapter rest => exact (cons.inj above).1 ▸ chapter.visible
end Doc

namespace Text
theorem flatten_splitLines (text : Chars) :
    (splitLines text).flatten = text.filter (!isLineBreak ·) := by
  fun_induction splitLines text with
  | case1 => rfl
  | case2 rest ih => exact ih
  | case3 c rest _ breaks ih => simp [breaks, ih]
  | case4 c rest _ keeps ih => simp [keeps, ih, flatten_consFirst]

theorem visible_splitLines (starts : ∀ c, text.head? = some c -> isBlank c = false)
    (found : (splitLines text).head? = some line) : Visible line := by
  cases text with
  | nil => cases found
  | cons first rest =>
    have visible := starts first rfl
    rw [splitLines_cons (isLineBreak_eq_false visible)] at found
    refine ⟨first, ?_, visible⟩
    cases split : splitLines rest <;> rw [split] at found <;> cases found <;> rfl

theorem flat_of_clean (clean : cleanBlock text = text) : ∀ line ∈ splitLines text, Flat line := by
  obtain ⟨lines, trimmed, written⟩ := exists_trimmed text
  rw [clean] at written
  intro line mem c found
  have kept : c ∈ (splitLines text).flatten := mem_flatten.mpr ⟨line, mem, found⟩
  rw [flatten_splitLines, mem_filter, Bool.not_eq_true'] at kept
  refine ⟨?_, kept.2⟩
  rintro rfl
  rw [written] at kept
  rcases mem_joinWith kept.1 with same | ⟨line, listed, inside⟩
  · cases same
  · exact (trimmed.plain line listed).1 inside
end Text

namespace EndpointDoc

/-- Two sections of different titles that follow one another can change places: nothing but the
order of the further sections and of the warnings, and the lines of these, can change. -/
theorem adjacent_sections_swap {text : String} {doc : EndpointDoc}
    (clean : cleanBlock text.toList = text.toList) (read : ofText text = .ok doc)
    {preamble : List Chars} {pre post : List Chapter} {first second : Chapter}
    (plain : ∀ line ∈ preamble, headingTitle? line = none)
    (lines : splitLines text.toList =
      preamble ++ (pre ++ first :: second :: post).flatMap Chapter.lines)
    (differ : first.title ≠ second.title) :
    ∃ other, ofText (String.ofList (joinWith ['\n']
        (preamble ++ (pre ++ second :: first :: post).flatMap Chapter.lines))) = .ok other /\
      other.Alike doc := by
  have parts := reading_chapters plain (pre ++ first :: second :: post)
  have accepted : ofLines (splitLines text.toList) = .ok doc := by rw [<- read, ofText, clean]
  rw [<- lines, <- ofLines_bared, accepted, map_append, map_cons, map_cons] at parts
  obtain ⟨swapped, reads, alike⟩ := foldlM_swap differ parts.symm
  have listed : ∀ line ∈ preamble ++ (pre ++ second :: first :: post).flatMap Chapter.lines,
      line ∈ splitLines text.toList := by
    have moved := (Perm.swap first second post).append_left pre
    intro line mem
    rw [lines]
    exact ((moved.flatMap_right Chapter.lines).append_left preamble).subset mem
  have settled : Settled text.toList := by
    have settled := cleanBlock_cleanBlock_iff text.toList
    rw [clean, clean] at settled
    exact settled.mp rfl
  have starts (line : Chars) (found : preamble.head? = some line) : Visible line := by
    refine visible_splitLines settled.starts ((congrArg head? lines).trans ?_)
    rw [head?_append, found, Option.some_or]
  obtain ⟨top, more, whole, block⟩ :=
    exists_block (fun line mem => flat_of_clean clean line (listed line mem)) starts
  have written := ofText_bared block
  rw [<- whole, reading_chapters plain, map_append, map_cons, map_cons, reads] at written
  cases accepted : ofText (String.ofList (joinWith ['\n']
      (preamble ++ (pre ++ second :: first :: post).flatMap Chapter.lines))) with
  | error overflow =>
    rw [accepted] at written
    cases written
  | ok other =>
    rw [accepted] at written
    cases written
    refine ⟨other, rfl, alike.summary, alike.description, alike.parameters, alike.requestBody,
      alike.responses, alike.extensions, ?_⟩
    simpa [bared, Function.comp_def, Warning.renumbered] using alike.concerns

/-- The last section goes in front of one with an empty line behind it. -/
theorem adjacent_sections_swap_limits :
    let text := "List users\n\n# Responses\n- 200: Users\n\n## Limits\nTen a minute"
    let swapped := "List users\n\n## Limits\nTen a minute\n# Responses\n- 200: Users\n"
    ∃ doc other, ofText text = .ok doc /\ ofText swapped = .ok other /\ other.Alike doc := by
  intro text swapped
  obtain ⟨doc, read⟩ := exists_ok (show (ofText text).toOption.isSome = true by decide +kernel)
  obtain ⟨other, reads, alike⟩ := @adjacent_sections_swap text doc (by decide +kernel) read
    ["List users".toList, []] [] []
    ⟨"# Responses".toList, "Responses".toList, ["- 200: Users".toList, []], by decide +kernel,
      by decide +kernel⟩
    ⟨"## Limits".toList, "Limits".toList, ["Ten a minute".toList], by decide +kernel,
      by decide +kernel⟩
    (by decide +kernel) (by decide +kernel) (by decide +kernel)
  exact ⟨doc, other, read, (congrArg ofText (by decide +kernel)).trans reads, alike⟩
end EndpointDoc
end RouteDocs
