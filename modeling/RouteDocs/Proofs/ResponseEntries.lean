import RouteDocs.Proofs.DocSections

/-!
# What the entries of a responses section give

The responses of a block are those that its entries give, one after another. What an entry gives is
told by its own lines, wherever they stand. So an entry that gives nothing can be taken out, unless
it alone makes the margin of its section what it is.
-/

namespace RouteDocs
open List Text Function
namespace Doc

/-- Lines of a responses section without blanks at their ends and without a margin. -/
def cutAt (margin : Nat) (lines : List Line) : List Line :=
  lines.map fun line => { line with text := (trimEnd line.text).drop margin }

def marginOf (lines : List Line) : Nat :=
  (((lines.filter fun line => !isBlankText (trimEnd line.text)).map fun line =>
    leadingSpaces (trimEnd line.text)).min?).getD 0

/-- The entries of a section; only a responses section has some. -/
def Section.entries (part : Section) : List Entry :=
  if part.title = "Responses".toList then (splitEntries (cutAt (marginOf part.lines) part.lines)).2
  else []

def blockSections (text : String) : List Section :=
  (splitSections (numberLines 1 (splitLines (cleanBlock text.toList)))).2

def responseEntries (lines : List Line) : List Entry :=
  (splitSections lines).2.flatMap Section.entries

/-- What a bullet gives: a response under its status, or nothing. There is no result if a number
is too long to be read. -/
def ResponseEntry.gives? (bullet : ResponseEntry) : Option (Option (Int × Response)) :=
  bullet.read.toOption.map fun found => found.1.map fun resp => (bullet.status, resp)

/-- What an entry gives; without a bullet it gives nothing. -/
def Entry.gives? (entry : Entry) : Option (Option (Int × Response)) :=
  entry.response?.toOption.bind fun bullet? => bullet?.elim (some none) ResponseEntry.gives?

section
variable {ε α β γ : Type}

def collect? (gives? : α -> Option (Option β)) (items : List α) : Option (List β) :=
  (items.mapM gives?).map (·.filterMap id)

theorem collect?_append (gives? : α -> Option (Option β)) (front back : List α) :
    collect? gives? (front ++ back) =
      (collect? gives? front).bind fun first => (collect? gives? back).map (first ++ ·) := by
  unfold collect?
  rw [mapM_append]
  cases front.mapM gives? <;> cases back.mapM gives? <;> simp

theorem collect?_cons (gives? : α -> Option (Option β)) (item : α) (rest : List α) :
    collect? gives? (item :: rest) =
      (gives? item).bind fun first => (collect? gives? rest).map (first.toList ++ ·) := by
  unfold collect?
  rw [mapM_cons]
  rcases gives? item with _ | _ | first <;> cases rest.mapM gives? <;> rfl

theorem toOption_bind (step : Except ε α) (next : α -> Except ε β) :
    (step >>= next).toOption = step.toOption.bind fun value => (next value).toOption := by
  cases step <;> rfl

theorem toOption_mapM (step : α -> Except ε β) (items : List α) :
    (items.mapM step).toOption = items.mapM fun item => (step item).toOption := by
  induction items with
  | nil => rfl
  | cons item rest ih =>
    simp only [mapM_cons, toOption_bind, ih]
    rfl

theorem exists_of_bind_eq_ok {next : α -> Except ε β} (ok : (step >>= next) = .ok last) :
    ∃ value, step = .ok value /\ next value = .ok last := by
  cases step with
  | error => cases ok
  | ok value => exact ⟨value, rfl, ok⟩

/-- What holds of the items that were taken so far holds of all of them in the end. -/
theorem foldlM_induction {step : β -> α -> Except ε β} {holds : List α -> β -> Prop} {items : List α}
    {start last : β} (first : holds [] start)
    (next : ∀ done item state post, step state item = .ok post -> holds done state ->
      holds (done ++ [item]) post)
    (ok : items.foldlM step start = .ok last) : holds items last := by
  induction items using List.reverseRecOn generalizing last with
  | nil =>
    cases ok
    exact first
  | append_singleton done item ih =>
    rw [foldlM_append] at ok
    obtain ⟨state, pre, ok⟩ := exists_of_bind_eq_ok ok
    obtain ⟨post, ok, same⟩ := exists_of_bind_eq_ok ok
    cases same
    exact next done item state _ ok (ih pre)

theorem mapM_bind_collect? (first : α -> Option (Option β)) (second : β -> Option (Option γ))
    (items : List α) : ((items.mapM first).bind fun found => collect? second (found.filterMap id)) =
      collect? (fun item => (first item).bind (·.elim (some none) second)) items := by
  induction items with
  | nil => rfl
  | cons item rest ih =>
    rw [collect?_cons, mapM_cons, <- ih]
    rcases first item with _ | _ | found
    · rfl
    · cases rest.mapM first <;> simp
    · cases read : second found <;> cases rest.mapM first <;> simp [collect?_cons, read]
end

theorem addAll_gives (bullets : List ResponseEntry) (collected : Collected) :
    (collected.addAll bullets).toOption.map Collected.responses =
      (collect? ResponseEntry.gives? bullets).map collected.responses.insertAll := by
  induction bullets generalizing collected with
  | nil => rfl
  | cons bullet rest ih =>
    simp only [Collected.addAll, toOption_bind, Option.map_bind, comp_def, ih,
      collect?_cons, ResponseEntry.gives?]
    rcases bullet.read.toOption with _ | ⟨_ | resp, warnings⟩
    · rfl
    all_goals cases collect? ResponseEntry.gives? rest <;> rfl

theorem readResponses_gives (lines : List Line) : (readResponses (lines.map fun line =>
        { line with text := trimEnd line.text })).toOption.map Collected.responses =
      (collect? Entry.gives? (splitEntries (cutAt (marginOf lines) lines)).2).map .ofList := by
  have cut : cutSpaces (lines.map fun line => { line with text := trimEnd line.text }) =
      cutAt (marginOf lines) lines := by
    simp only [cutSpaces, cutAt, marginOf, map_map, filter_map, comp_def]
  rw [readResponses, cut]
  rcases splitEntries (cutAt (marginOf lines) lines) with ⟨stray, entries⟩
  have asked := mapM_bind_collect? (fun entry : Entry => entry.response?.toOption)
    ResponseEntry.gives? entries
  rw [<- toOption_mapM] at asked
  refine Eq.trans ?_ (congrArg (Option.map OrderedMap.ofList) asked)
  dsimp only
  cases entries.mapM Entry.response? with
  | error overflow => rfl
  | ok bullets =>
    refine Eq.trans ?_ (addAll_gives (bullets.filterMap id) {})
    change (({} : Collected).addAll (bullets.filterMap id) >>= _).toOption.map _ = _
    cases ({} : Collected).addAll (bullets.filterMap id) <;> rfl

theorem mergeResponses_eq (resps : OrderedMap Int Response) (warnings : List Warning)
    (added : List (Int × Response)) :
    (mergeResponses resps warnings added).1 = resps.insertAll added := by
  induction added generalizing resps warnings with
  | nil => rfl
  | cons first rest ih => exact ih _ _

def Section.parameters (part : Section) : List Parameter :=
  if part.title = "Parameters".toList then part.lines.filterMap parameterOn? else []

def Section.requestBodies (part : Section) : List RequestBody :=
  if part.title = "Request Body".toList then [readRequestBody part.lines] else []

/-- The responses of a section by itself, and the warnings about it. -/
def Section.collected (part : Section) : Collected :=
  if part.title = "Parameters".toList then
    { warnings := part.lines.flatMap parameterWarnings }
  else if part.title = "Responses".toList then
    (readResponses (part.lines.map fun line =>
      { line with text := trimEnd line.text })).toOption.getD {}
  else {}

def Section.isExtension (part : Section) : Bool :=
  part.title ∉ ["Parameters".toList, "Request Body".toList, "Responses".toList]

/-- A section adds what it says by itself. -/
theorem addSection_eq (added : addSection doc part = .ok post) :
    let merged := mergeResponses doc.responses (doc.warnings ++ part.collected.warnings)
      part.collected.responses.entries
    post = { doc with
      parameters := doc.parameters ++ part.parameters
      requestBody? := part.requestBodies.getLast?.or doc.requestBody?
      responses := merged.1
      warnings := merged.2
      extensions := if part.isExtension then
          extend doc.extensions (String.ofList part.title) (sectionText part.lines)
        else doc.extensions } := by
  unfold addSection at added
  unfold Section.parameters Section.requestBodies Section.collected
  split_ifs at added with parameters requestBody responses
  · cases added
    have known : part.isExtension = false := by simp [Section.isExtension, parameters]
    simp only [known, if_pos parameters, if_neg (show part.title ≠ "Request Body".toList by
      rw [parameters]; decide)]
    rfl
  · cases added
    have known : part.isExtension = false := by simp [Section.isExtension, requestBody]
    simp only [known, if_neg parameters, if_pos requestBody, if_neg (show part.title ≠
      "Responses".toList by rw [requestBody]; decide), append_nil]
    rfl
  · obtain ⟨collected, read, added⟩ := exists_of_bind_eq_ok added
    cases added
    have known : part.isExtension = false := by simp [Section.isExtension, responses]
    simp only [known, if_neg parameters, if_neg requestBody, if_pos responses, read, append_nil]
    rfl
  · cases added
    have other : part.isExtension = true := by
      simp only [Section.isExtension, mem_cons, not_mem_nil, or_false, not_or, decide_eq_true_eq]
      exact ⟨parameters, requestBody, responses⟩
    simp only [other, if_neg parameters, if_neg requestBody, if_neg responses, append_nil]
    rfl

theorem addSection_gives (doc : EndpointDoc) (part : Section) :
    (addSection doc part).toOption.map EndpointDoc.responses =
      (collect? Entry.gives? part.entries).map doc.responses.insertAll := by
  unfold addSection Section.entries
  by_cases titled : part.title = "Responses".toList
  · rw [if_neg (by rw [titled]; decide), if_neg (by rw [titled]; decide), if_pos titled,
      if_pos titled]
    have read := congrArg (Option.map fun found => doc.responses.insertAll found.entries)
      (readResponses_gives part.lines)
    simp only [Option.map_map, comp_def, OrderedMap.insertAll_entries_ofList] at read
    refine Eq.trans ?_ read
    dsimp only
    cases readResponses _ with
    | error overflow => rfl
    | ok collected => exact congrArg some (mergeResponses_eq _ _ _)
  · rw [if_neg titled, if_neg titled]
    split_ifs <;> rfl

theorem foldlM_gives (parts : List Section) (doc : EndpointDoc) :
    (parts.foldlM addSection doc).toOption.map EndpointDoc.responses =
      (collect? Entry.gives? (parts.flatMap Section.entries)).map doc.responses.insertAll := by
  induction parts generalizing doc with
  | nil => rfl
  | cons part rest ih =>
    have here := addSection_gives doc part
    rw [flatMap_cons, collect?_append, foldlM_cons, toOption_bind, Option.map_bind]
    simp only [comp_def, ih]
    generalize collect? Entry.gives? (rest.flatMap Section.entries) = others?
    have later := congrArg (Option.bind · fun resps => others?.map resps.insertAll) here
    rw [Option.bind_map, Option.bind_map] at later
    refine later.trans ?_
    cases collect? Entry.gives? part.entries <;> cases others? <;>
      simp [OrderedMap.insertAll_append]

theorem splitSections_heading {title : Chars} (titled : headingTitle? heading.text = some title)
    (front tail : List Line) : splitSections (front ++ heading :: tail) = ((splitSections front).1,
      (splitSections front).2 ++ ⟨title, (splitSections tail).1⟩ :: (splitSections tail).2) := by
  induction front with
  | nil => simp only [nil_append, splitSections, titled]
  | cons line rest ih =>
    rw [cons_append, splitSections, ih, splitSections]
    cases headingTitle? line.text <;> rfl

/-- An entry that gives nothing, with the lines of its section around it. -/
structure Idle (above entry below : List Line) : Prop where
  plain : ∀ line ∈ above ++ entry, headingTitle? line.text = none
  margin : marginOf (above ++ entry ++ below) = marginOf (above ++ below)
  whole : (splitEntries (cutAt (marginOf (above ++ below)) below)).1 = []
  gives : ∃ group, splitEntries (cutAt (marginOf (above ++ below)) entry) = ([], [group]) /\
    group.gives? = some none

theorem responseEntries_idle {title : Chars} (titled : headingTitle? heading.text = some title)
    (named : title = "Responses".toList) (idle : Idle above entry (splitSections post).1)
    (front : List Line) : ∃ first group last, group.gives? = some none /\
      responseEntries (front ++ heading :: (above ++ entry ++ post)) = first ++ group :: last /\
      responseEntries (front ++ heading :: (above ++ post)) = first ++ last := by
  obtain ⟨plain, margin, whole, group, split, gives⟩ := idle
  have plainAbove : ∀ line ∈ above, headingTitle? line.text = none := fun line mem =>
    plain line (mem_append_left _ mem)
  have entriesOf (lines : List Line) : Section.entries ⟨title, lines⟩ =
      (splitEntries (cutAt (marginOf lines) lines)).2 := if_pos named
  clear named
  simp only [responseEntries, splitSections_heading titled, splitSections_append plain,
    splitSections_append plainAbove, flatMap_append, flatMap_cons, entriesOf, margin]
  generalize marginOf (above ++ (splitSections post).1) = cutOff at whole split
  have cut (front back : List Line) :
      cutAt cutOff (front ++ back) = cutAt cutOff front ++ cutAt cutOff back := map_append
  have behind := splitEntries_append_flush (cutAt cutOff entry) whole
  rw [split] at behind
  refine ⟨(splitSections front).2.flatMap Section.entries ++ (splitEntries (cutAt cutOff above)).2,
    group, (splitEntries (cutAt cutOff (splitSections post).1)).2 ++
      (splitSections post).2.flatMap Section.entries, gives, ?_, ?_⟩
  · rw [append_assoc, cut, cut, splitEntries_append_flush _ (by rw [behind]), behind]
    simp only [append_assoc, cons_append, nil_append]
  · rw [cut, splitEntries_append_flush _ whole]
    simp only [append_assoc]
end Doc

namespace EndpointDoc
open Doc

/-- The responses of a block are those that its entries give, a later one in the place of an
earlier one of the same status, and stay the same without an entry that gives nothing. -/
theorem responses_of_entries {text : String} {doc : EndpointDoc}
    (accepted : ofText text = .ok doc) :
    (∃ found, collect? Entry.gives? (responseEntries (unnumbered
        (splitLines (cleanBlock text.toList)))) = some found /\ doc.responses = .ofList found) /\
      ∀ front heading above entry after other, splitLines (cleanBlock text.toList) =
          front ++ heading :: (above ++ entry ++ after) ->
        headingTitle? heading = some "Responses".toList ->
        Idle (unnumbered above) (unnumbered entry) (splitSections (unnumbered after)).1 ->
        splitLines (cleanBlock other.toList) = front ++ heading :: (above ++ after) ->
        ∃ less, ofText other = .ok less /\ less.responses = doc.responses := by
  have read (text : String) : (ofText text).toOption.map responses = (collect? Entry.gives?
      (responseEntries (unnumbered (splitLines (cleanBlock text.toList))))).map .ofList := by
    refine Eq.trans ?_ ((congrArg (·.toOption.map responses) (ofLines_bared _)).trans
      (foldlM_gives _ _))
    rw [ofText]
    cases ofLines _ <;> rfl
  have here := read text
  rw [accepted] at here
  obtain ⟨found, given, same⟩ := Option.map_eq_some_iff.mp here.symm
  refine ⟨⟨found, given, same.symm⟩, ?_⟩
  intro front heading above entry after other whole titled idle shorter
  obtain ⟨first, group, last, gives, full, rest⟩ :=
    responseEntries_idle (show headingTitle? (Line.mk 0 heading).text = some _ from titled) rfl idle
      (unnumbered front)
  have there := read other
  simp only [whole, shorter, unnumbered, map_append, map_cons] at given full rest there
  rw [full, collect?_append, collect?_cons, gives] at given
  rw [rest, collect?_append, show ((collect? Entry.gives? first).bind fun first =>
    (collect? Entry.gives? last).map (first ++ ·)) = some found by simpa using given] at there
  cases answer : ofText other with
  | error overflow =>
    rw [answer] at there
    cases there
  | ok less =>
    rw [answer] at there
    exact ⟨less, rfl, (Option.some.inj there).trans same⟩

/-- A line further left than the bullets of its section hides them. -/
theorem line_left_of_bullets :
    let text := "Get a page\n\n# Responses\n  - 200: A page\n  - 404: No page"
    (ofText text).toOption.map (·.responses.keys) = some [200, 404] /\
      (ofText (text ++ "\nsee the wiki")).toOption.map (·.responses.keys) = some [] := by
  decide +kernel

/-- A block at odd columns between two responses is dropped and changes neither. -/
theorem responses_of_entries_oddBlock :
    let text := "Get a page\n\n# Responses\n- 200: A page\n- 404:\n   schema: Page\n- 500: Down"
    let other := "Get a page\n\n# Responses\n- 200: A page\n- 500: Down"
    ∃ doc less, ofText text = .ok doc /\ ofText other = .ok less /\
      less.responses = doc.responses := by
  intro text other
  cases accepted : ofText text with
  | error overflow =>
    have entered : (ofText text).isOk = true := by decide +kernel
    rw [accepted] at entered
    cases entered
  | ok doc =>
    have idle : Idle (unnumbered ["- 200: A page".toList])
        (unnumbered ["- 404:".toList, "   schema: Page".toList])
        (splitSections (unnumbered ["- 500: Down".toList])).1 :=
      ⟨by decide +kernel, by decide +kernel, by decide +kernel, _, rfl, rfl⟩
    obtain ⟨less, same⟩ := (responses_of_entries accepted).2 ["Get a page".toList, []]
      "# Responses".toList _ _ ["- 500: Down".toList] other (by decide +kernel) (by decide +kernel)
      idle (by decide +kernel)
    exact ⟨doc, less, rfl, same⟩
end EndpointDoc
end RouteDocs
