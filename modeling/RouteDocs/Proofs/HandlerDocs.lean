import Mathlib.Algebra.Order.BigOperators.Group.List
import Mathlib.Algebra.Order.Group.Nat
import RouteDocs.Proofs.RouterLife

namespace RouteDocs
open List Text

/-!
# The documentation of handlers

A router cuts the margin off the documentation of a handler, and its registry cuts off a margin
again. A margin is taken from all lines but the first, and empty lines in front are dropped
afterwards, so the second cut may take away indentation that belongs to the text. `Settled`
says when nothing is left for it, and then the router reads what a registry reads.
-/

namespace Text
theorem tab_not_mem_expandTabsFrom (text : Chars) (column : Nat) :
    '\t' ∉ expandTabsFrom column text := by
  induction text generalizing column with
  | nil => exact not_mem_nil
  | cons first rest ih =>
    rw [expandTabsFrom]
    split
    · intro mem
      rcases mem_append.mp mem with blank | later
      · cases eq_of_mem_replicate blank
      · exact ih _ later
    · rename_i ne
      have kept : ∀ column, '\t' ∉ first :: expandTabsFrom column rest := by
        intro column mem
        rcases mem_cons.mp mem with same | later
        · exact ne same.symm
        · exact ih _ later
      split
      · exact kept 0
      · exact kept (column + 1)

theorem not_mem_of_cut (absent : ∀ line ∈ lines, c ∉ line) :
    ∀ line ∈ dropEmptyEnds (cutMargin lines), c ∉ line := by
  intro line mem found
  obtain ⟨other, listed, behind⟩ := exists_of_mem_cut mem
  exact absent other listed (behind.subset found)

theorem length_flatten_dropEmptyEnds (lines : List Chars) :
    (dropEmptyEnds lines).flatten.length = lines.flatten.length := by
  have dropped : ∀ lines : List Chars,
      ((lines.dropWhile isEmpty).map length).sum = (lines.map length).sum := by
    intro lines
    induction lines with
    | nil => rfl
    | cons first rest ih => cases first <;> simp [ih]
  rw [length_flatten, length_flatten, dropEmptyEnds, map_reverse, sum_reverse,
    dropped, map_reverse, sum_reverse, dropped]

structure Trimmed (lines : List Chars) : Prop where
  plain : ∀ line ∈ lines, '\t' ∉ line /\ '\n' ∉ line
  begins : ∀ line, lines.head? = some line -> line ≠ []
  ends : ∀ line, lines.getLast? = some line -> line ≠ []

theorem exists_trimmed (text : Chars) :
    ∃ lines, Trimmed lines /\ cleanBlock text = joinWith ['\n'] lines := by
  have untabbed : ∀ line ∈ splitAt '\n' (expandTabs text), '\t' ∉ line := fun line mem found =>
    tab_not_mem_expandTabsFrom text 0 (mem_of_mem_splitWhere mem found).1
  have unbroken : ∀ line ∈ splitAt '\n' (expandTabs text), '\n' ∉ line := fun line mem found =>
    absurd (mem_of_mem_splitWhere mem found).2 Bool.noConfusion
  refine ⟨_, ⟨fun line mem => ⟨not_mem_of_cut untabbed line mem,
    not_mem_of_cut unbroken line mem⟩, ?_, ?_⟩, rfl⟩
  · intro line found
    obtain ⟨tail, whole⟩ := dropEmptyEnds_isStart (cutMargin (splitAt '\n' (expandTabs text)))
    apply ne_nil_of_head?_dropWhile
    rw [<- whole, head?_append, found, Option.some_or]
  · intro line found
    rw [dropEmptyEnds, getLast?_reverse] at found
    exact ne_nil_of_head?_dropWhile found

/-- A block begins with something visible, and so does one of its later lines if anything
visible stands on them. -/
structure Settled (block : Chars) : Prop where
  starts : ∀ c, block.head? = some c -> isBlank c = false
  anchored : ∀ line ∈ (splitAt '\n' block).tail, isBlankText line = false ->
    ∃ other ∈ (splitAt '\n' block).tail, ∃ c, other.head? = some c /\ isBlank c = false

theorem indentation?_eq_zero (found : indentation? line = some 0) :
    ∃ c, line.head? = some c /\ isBlank c = false := by
  cases line with
  | nil => cases found
  | cons first rest =>
    refine ⟨first, rfl, ?_⟩
    cases blank : isBlank first with
    | false => rfl
    | true =>
      unfold indentation? at found
      split at found
      · cases found
      · simp [blank] at found

theorem margin?_getD_eq_zero_iff (lines : List Chars) :
    (margin? lines).getD 0 = 0 ↔ ∀ line ∈ lines, isBlankText line = false ->
      ∃ other ∈ lines, ∃ c, other.head? = some c /\ isBlank c = false := by
  constructor
  · intro flush line listed visible
    have indented : (line.takeWhile isBlank).length ∈ lines.filterMap indentation? :=
      mem_filterMap.mpr ⟨line, listed, by rw [indentation?, visible, if_neg Bool.false_ne_true]⟩
    cases found : margin? lines with
    | none =>
      rw [margin?, min?_eq_none_iff] at found
      rw [found] at indented
      cases indented
    | some margin =>
      rw [found, Option.getD_some] at flush
      subst flush
      obtain ⟨other, given, least⟩ := mem_filterMap.mp (min?_eq_some_iff.mp found).1
      exact ⟨other, given, indentation?_eq_zero least⟩
  · intro anchored
    by_cases visible : ∃ line ∈ lines, isBlankText line = false
    · obtain ⟨line, listed, seen⟩ := visible
      rw [margin?_of_anchored (anchored line listed seen), Option.getD_some]
    · have none : lines.filterMap indentation? = [] := by
        rw [filterMap_eq_nil_iff]
        intro line listed
        have blank : isBlankText line = true := by
          simpa using fun seen => visible ⟨line, listed, seen⟩
        rw [indentation?, if_pos blank]
      rw [margin?, none]
      rfl

theorem filter_joinWith (plain : ∀ line ∈ lines, '\n' ∉ line) :
    (joinWith ['\n'] lines).filter (fun c => !(c == '\n')) = lines.flatten := by
  cases lines with
  | nil => rfl
  | cons first rest =>
    rw [<- flatten_splitWhere]
    exact congrArg flatten (splitAt_joinWith (cons_ne_nil _ _) plain)

theorem uncut_of_length
    (whole : (cutMargin (first :: rest)).flatten.length = (first :: rest).flatten.length) :
    trimStart first = first /\ (margin? rest).getD 0 = 0 := by
  rw [cutMargin_cons, flatten_cons, flatten_cons, length_append, length_append,
    length_flatten, length_flatten, map_map] at whole
  have start : (trimStart first).length <= first.length := (dropWhile_sublist _).length_le
  have later : (rest.map (length ∘ (·.drop ((margin? rest).getD 0)))).sum <=
      (rest.map length).sum :=
    sum_le_sum fun line _ => (drop_sublist _ line).length_le
  refine ⟨(dropWhile_sublist _).eq_of_length (by unfold trimStart at whole start; omega), ?_⟩
  by_contra indented
  -- The line with the least indentation is shorter after the cut.
  have shorter : (rest.map (length ∘ (·.drop ((margin? rest).getD 0)))).sum <
      (rest.map length).sum := by
    apply sum_lt_sum _ _ fun line _ => (drop_sublist _ line).length_le
    cases found : margin? rest with
    | none => simp [found] at indented
    | some margin =>
      rw [found, Option.getD_some] at indented
      obtain ⟨line, listed, least⟩ := mem_filterMap.mp (min?_eq_some_iff.mp found).1
      refine ⟨line, listed, ?_⟩
      have long : margin <= line.length := by
        unfold indentation? at least
        split at least
        · cases least
        · rw [<- Option.some.inj least]
          exact (takeWhile_sublist _).length_le
      simp only [length_drop, Option.getD_some]
      omega
  omega

theorem cleanBlock_cleanBlock_iff (text : Chars) :
    cleanBlock (cleanBlock text) = cleanBlock text ↔ Settled (cleanBlock text) := by
  obtain ⟨lines, trimmed, cleaned⟩ := exists_trimmed text
  rw [cleaned]
  cases lines with
  | nil =>
    refine iff_of_true rfl ⟨fun c found => ?_, fun line mem => ?_⟩
    · cases found
    · cases mem
  | cons first rest =>
    have filled : first ≠ [] := trimmed.begins first rfl
    have unbroken : ∀ line ∈ first :: rest, '\n' ∉ line := fun line mem =>
      (trimmed.plain line mem).2
    have split : splitAt '\n' (joinWith ['\n'] (first :: rest)) = first :: rest :=
      splitAt_joinWith (cons_ne_nil _ _) unbroken
    have head : (joinWith ['\n'] (first :: rest)).head? = first.head? :=
      head?_joinWith _ filled rest
    constructor
    · intro same
      rw [cleanBlock_joinWith (cons_ne_nil _ _) trimmed.plain] at same
      have whole : (cutMargin (first :: rest)).flatten.length = (first :: rest).flatten.length := by
        rw [<- length_flatten_dropEmptyEnds, <- filter_joinWith (not_mem_of_cut unbroken), same,
          filter_joinWith unbroken]
      obtain ⟨flush, settled⟩ := uncut_of_length whole
      constructor
      · intro c found
        rw [head, <- flush, trimStart] at found
        have visible := head?_dropWhile_not isBlank first
        rw [found] at visible
        exact visible
      · rw [split, tail_cons]
        exact (margin?_getD_eq_zero_iff rest).mp settled
    · intro settled
      have starts : ∀ c, first.head? = some c -> isBlank c = false := by
        rw [<- head]
        exact settled.starts
      have anchored := settled.anchored
      rw [split, tail_cons, <- margin?_getD_eq_zero_iff] at anchored
      rw [cleanBlock_joinWith (cons_ne_nil _ _) trimmed.plain, cutMargin_eq starts anchored,
        dropEmptyEnds_eq filled trimmed.ends]
end Text

open Route (Documentation Request)

theorem Registry.doc_of_registered {registry : Registry}
    (registered : (registry.register request).answer = .ok entry) :
    request.doc.read = .ok entry.doc := by
  obtain ⟨inOrder, same, -⟩ :=
    (perform_eq_ok_iff (by simp)).mp (perform_register_eq_ok.mpr ⟨registered, rfl⟩)
  cases inOrder with
  | register supported read typed =>
    rw [Call.reply?_register supported read] at same
    cases same
    exact read

namespace Router
theorem doc_of_added {router : Router} (added : (router.addRoute handler).1 = .ok entry) :
    EndpointDoc.ofText (String.ofList (cleanBlock handler.doc.toList)) = .ok entry.doc := by
  rcases router.addRoute_cases handler with
    ⟨request, _, registry, memory, ran, performed, answered⟩ | ⟨refusal, memory, refused⟩
  · rw [answered] at added
    cases added
    obtain ⟨_, _, _, _, _, -, -, -, rfl⟩ := yields_request.mp ran
    have read := Registry.doc_of_registered (Registry.perform_register_eq_ok.mp performed).1
    exact read
  · rw [refused] at added
    cases added

/-- **A router reads the documentation of a handler as a registry does**, if nothing is left
to cut off a second time: then the documentation as it stands is read to what the router
has entered, and every registry enters the same. Exactly then a second cut changes
nothing. -/
theorem handler_doc_as_registered (router : Router) (handler : Handler) (registry : Registry)
    (request : Request) (given : request.doc = .block handler.doc) :
    (cleanBlock (cleanBlock handler.doc.toList) = cleanBlock handler.doc.toList ↔
        Settled (cleanBlock handler.doc.toList)) /\
      (Settled (cleanBlock handler.doc.toList) -> ∀ entry, (router.addRoute handler).1 = .ok entry ->
          request.doc.read = .ok entry.doc /\
            ∀ other, (registry.register request).answer = .ok other -> other.doc = entry.doc) := by
  refine ⟨cleanBlock_cleanBlock_iff _, fun settled entry added => ?_⟩
  have read : request.doc.read = .ok entry.doc := by
    rw [given, <- doc_of_added added]
    unfold Documentation.read EndpointDoc.ofText
    rw [String.toList_ofList, (cleanBlock_cleanBlock_iff _).mpr settled]
  refine ⟨read, fun other registered => ?_⟩
  have same := Registry.doc_of_registered registered
  rw [read, Except.ok.injEq] at same
  exact same.symm

/-- A heading that stands deeper than the summary is one for the router only. -/
theorem indented_heading_of_handler :
    let text := "\n  Get users\n    # Parameters\n    - id (path): The id"
    let handler : Handler := { method := "GET", path := "/users", doc := text }
    let request : Request := { method := "GET", path := "/users", doc := .block text }
    let router : Router := { title := "Users", version := "1" }
    let registry : Registry := {}
    (router.addRoute handler).1.toOption.map (·.doc.parameters.length) = some 1 /\
      (registry.register request).answer.toOption.map (·.doc.parameters.length) = some 0 := by
  decide +kernel

/-- A handler in the usual layout. -/
theorem handler_doc_as_registered_users :
    let text := "\n    Get users\n\n    # Responses\n    - 200: OK\n    "
    let handler : Handler := { method := "GET", path := "/users", doc := text }
    let request : Request := { method := "GET", path := "/users", doc := .block text }
    let router : Router := { title := "Users", version := "1" }
    Settled (cleanBlock handler.doc.toList) /\
      ∃ entry, (router.addRoute handler).1 = .ok entry /\ request.doc.read = .ok entry.doc := by
  intro text handler request router
  have known := handler_doc_as_registered router handler {} request rfl
  have settled := known.1.mp (by decide +kernel)
  cases added : (router.addRoute handler).1 with
  | error refusal =>
    have entered : (router.addRoute handler).1.isOk = true := by decide +kernel
    rw [added] at entered
    cases entered
  | ok entry => exact ⟨settled, entry, rfl, (known.2 settled entry added).1⟩
end Router
end RouteDocs
