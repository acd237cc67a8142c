import RouteDocs.Proofs.RouteDocuments

namespace RouteDocs
open List Text

/-!
# Names of operations

The name of an operation is the small name of its method and the words of its path, with underscores
between them. A path is cut at slashes, at underscores and at everything that no word has, and a
parameter is a word after the word `by`. So the name does not tell where the path had its slashes,
unless all segments are single words that stand for themselves.
-/

namespace Text
theorem joinWith_flatten (sep : Chars) {groups : List (List Chars)}
    (filled : ∀ group ∈ groups, group ≠ []) :
    joinWith sep groups.flatten = joinWith sep (groups.map (joinWith sep)) := by
  induction groups with
  | nil => rfl
  | cons group rest ih =>
    have others := ih (forall_mem_cons.mp filled).2
    cases rest with
    | nil => rw [flatten_cons, flatten_nil, append_nil]; rfl
    | cons second more =>
      have behind : (second :: more).flatten ≠ [] := by
        have some := filled second (.tail _ (.head _))
        simp [some]
      rw [flatten_cons, joinWith_append _ (filled group (.head _)) behind, others]
      rfl

theorem joinWith_splitAt (sep : Char) (text : Chars) :
    joinWith [sep] (splitAt sep text) = text := by
  unfold splitAt
  induction text with
  | nil => rfl
  | cons first rest ih =>
    rw [splitWhere]
    cases cut : splitWhere (· == sep) rest with
    | nil => exact absurd cut (splitWhere_ne_nil rest)
    | cons piece others =>
      rw [cut] at ih
      split
      · rename_i separates
        rw [joinWith_cons _ _ (cons_ne_nil _ _), ih, beq_iff_eq.mp separates]
        rfl
      · cases others with
        | nil => exact congrArg (first :: ·) ih
        | cons second more => exact congrArg (first :: ·) ih

variable {text : Chars}

theorem collapse_of_forall (kept : ∀ c ∈ text, keep c = true) : collapse keep mark text = text := by
  unfold collapse
  induction text with
  | nil => rfl
  | cons first rest ih =>
    rw [collapseFrom, if_pos (kept first (.head _)), ih fun c mem => kept c (.tail _ mem)]

theorem collapse_ne_nil (keep : Char -> Bool) (mark : Char) (filled : text ≠ []) :
    collapse keep mark text ≠ [] := by
  obtain ⟨first, rest, rfl⟩ := exists_cons_of_ne_nil filled
  rw [collapse, collapseFrom]
  split
  · exact cons_ne_nil _ _
  · exact cons_ne_nil _ _
end Text

namespace Route
def wordsOf (text : String) : List Chars := splitAt '_' (collapse isWord '_' text.toList)

def Segment.words : Segment -> List Chars
  | literal text => wordsOf text
  | parameter name => ['b', 'y'] :: wordsOf name

/-- The words of a path; where there is no segment, there is a word for that. -/
def pathWords (path : String) : List Chars :=
  if segments path = [] then [['r', 'o', 'o', 't']] else (segments path).flatMap Segment.words

theorem pathWords_documentPath (template : String) :
    pathWords (documentPath template) = pathWords template := by
  rw [pathWords, pathWords, segments_documentPath]

theorem wordsOf_ne_nil (text : String) : wordsOf text ≠ [] := splitWhere_ne_nil _

theorem Segment.words_ne_nil (segment : Segment) : segment.words ≠ [] := by
  cases segment with
  | literal text => exact wordsOf_ne_nil text
  | parameter name => exact cons_ne_nil _ _

theorem Segment.joinWith_words (segment : Segment) :
    joinWith ['_'] segment.words = segment.word := by
  cases segment with
  | literal text => exact joinWith_splitAt _ _
  | parameter name =>
    rw [Segment.words, joinWith_cons _ _ (wordsOf_ne_nil name), wordsOf, joinWith_splitAt]
    rfl

variable {segment : Segment} {word : Chars} {path : String}

theorem underscore_not_mem_words (mem : word ∈ segment.words) : '_' ∉ word := by
  have cut : ∀ text, word ∈ wordsOf text -> '_' ∉ word := by
    intro text listed found
    have plain := (mem_of_mem_splitWhere listed found).2
    simp at plain
  cases segment with
  | literal text => exact cut text mem
  | parameter name =>
    rcases mem_cons.mp mem with rfl | listed
    · decide
    · exact cut name listed

theorem pathWords_ne_nil (path : String) : pathWords path ≠ [] := by
  unfold pathWords
  split
  · exact cons_ne_nil _ _
  · rename_i some
    obtain ⟨segment, rest, cut⟩ := exists_cons_of_ne_nil some
    rw [cut, flatMap_cons]
    exact append_ne_nil_of_left_ne_nil segment.words_ne_nil _

theorem underscore_not_mem_pathWords (mem : word ∈ pathWords path) : '_' ∉ word := by
  unfold pathWords at mem
  split at mem
  · rw [mem_singleton.mp mem]
    decide
  · obtain ⟨segment, -, listed⟩ := mem_flatMap.mp mem
    exact underscore_not_mem_words listed

theorem word_ne_nil (mem : segment ∈ segments path) : segment.word ≠ [] := by
  obtain ⟨piece, filled, -, rfl⟩ := exists_piece mem
  have written := chars_ofPiece_ne_nil filled
  cases read : Segment.ofPiece piece with
  | literal text =>
    rw [read] at written
    exact collapse_ne_nil _ _ written
  | parameter name => exact cons_ne_nil _ _

theorem operationId_eq (method path : String) :
    operationId method path = String.ofList (lower method.toList ++
      '_' :: joinWith ['_'] (pathWords path)) := by
  cases cut : segments path with
  | nil => simp only [operationId, pathWords, cut]; rfl
  | cons segment rest =>
    have filled : joinWith ['_'] ((segments path).map Segment.word) ≠ [] := by
      rw [cut]
      exact joinWith_ne_nil _ (word_ne_nil (cut ▸ mem_cons_self)) _
    have grouped : joinWith ['_'] ((segments path).flatMap Segment.words) =
        joinWith ['_'] ((segments path).map Segment.word) := by
      rw [flatMap_def, joinWith_flatten, map_map]
      · exact congrArg _ (map_congr_left fun segment _ => segment.joinWith_words)
      · intro group mem
        obtain ⟨segment, -, rfl⟩ := mem_map.mp mem
        exact segment.words_ne_nil
    rw [pathWords, if_neg (cut ▸ cons_ne_nil _ _), grouped, operationId,
      if_neg (fun empty => filled (isEmpty_iff.mp empty))]

/-- The name of an operation tells its method and the words of its path, and nothing else. -/
theorem operationId_eq_iff (method method' : Http.Method) (path path' : String) :
    operationId method.name path = operationId method'.name path' ↔
      method = method' /\ pathWords path = pathWords path' := by
  have small : ∀ method : Http.Method, '_' ∉ lower method.name.toList := by
    intro method
    cases method <;> decide +kernel
  constructor
  · intro same
    rw [operationId_eq, operationId_eq] at same
    have split := congrArg (splitFirst '_') (String.ofList_injective same)
    rw [splitFirst_append (small method), splitFirst_append (small method')] at split
    obtain ⟨methods, words⟩ := Prod.mk.inj (Option.some.inj split)
    constructor
    · apply Http.Method.key_injective
      rw [Http.Method.key_eq_lower, Http.Method.key_eq_lower, methods]
    · have cut := congrArg (splitAt '_') words
      rwa [splitAt_joinWith (pathWords_ne_nil path) fun _ => underscore_not_mem_pathWords,
        splitAt_joinWith (pathWords_ne_nil path') fun _ => underscore_not_mem_pathWords] at cut
  · rintro ⟨rfl, words⟩
    rw [operationId_eq, operationId_eq, words]

def isOneWord (text : String) : Bool := text.toList.all fun c => isWord c && c != '_'

def Segment.isPlain : Segment -> Bool
  | literal text => isOneWord text && text != "by"
  | parameter name => isOneWord name

def isPlainPath (path : String) : Bool :=
  (segments path).all Segment.isPlain && segments path != [.literal "root"]

theorem wordsOf_of_isOneWord (single : isOneWord text = true) : wordsOf text = [text.toList] := by
  have each : ∀ c ∈ text.toList, isWord c = true /\ (c == '_') = false := by
    simpa [isOneWord] using single
  rw [wordsOf, collapse_of_forall fun c mem => (each c mem).1]
  exact splitWhere_of_forall fun c mem => (each c mem).2

/-- The plain segments that have some words: only a parameter begins with the word `by`. -/
def ofWords : List Chars -> List Segment
  | [] => []
  | ['b', 'y'] :: name :: rest => .parameter (String.ofList name) :: ofWords rest
  | word :: rest => .literal (String.ofList word) :: ofWords rest

theorem ofWords_literal (other : word ≠ ['b', 'y']) (rest : List Chars) :
    ofWords (word :: rest) = .literal (String.ofList word) :: ofWords rest := by
  rw [ofWords]
  intro name others isBy
  exact absurd isBy other

theorem ofWords_words (plain : found.all Segment.isPlain = true) :
    ofWords (found.flatMap Segment.words) = found := by
  induction found with
  | nil => rfl
  | cons segment rest ih =>
    rw [all_cons, Bool.and_eq_true] at plain
    rw [flatMap_cons]
    cases segment with
    | literal text =>
      obtain ⟨single, other⟩ := Bool.and_eq_true_iff.mp plain.1
      have written : text.toList ≠ ['b', 'y'] := by
        intro isBy
        rw [<- String.ofList_toList (s := text), isBy] at other
        simp at other
      rw [Segment.words, wordsOf_of_isOneWord single, singleton_append,
        ofWords_literal written, String.ofList_toList, ih plain.2]
    | parameter name =>
      rw [Segment.words, wordsOf_of_isOneWord plain.1, cons_append, singleton_append,
        ofWords, String.ofList_toList, ih plain.2]

theorem segments_of_words (plain : isPlainPath path = true) (plain' : isPlainPath path' = true)
    (same : pathWords path = pathWords path') : segments path = segments path' := by
  have read : ∀ path, isPlainPath path = true ->
      segments path = if pathWords path = [['r', 'o', 'o', 't']] then []
        else ofWords (pathWords path) := by
    intro path plain
    obtain ⟨each, other⟩ := Bool.and_eq_true_iff.mp plain
    have back := ofWords_words each
    by_cases none : segments path = []
    · rw [pathWords, if_pos none, if_pos rfl, none]
    · rw [pathWords, if_neg none, back, if_neg]
      intro root
      rw [root] at back
      rw [<- back] at other
      revert other
      decide
  rw [read path plain, read path' plain', same]
end Route

namespace Registry
open Route

/-- After any calls: two operations of a document have one name exactly if they have the same
method and their paths have the same words. Operations of different methods or of different
plain paths have different names. -/
theorem operationIds_told_apart (table : Schema.Table) (calls : List Call) (title version : String)
    (options : OpenApi.Options) {document : Document}
    (assembled : ((performAll { table } calls).2.assemble title version options).1 = .ok document)
    {path path' : String} {method method' : Http.Method} {operation operation' : OpenApi.Operation}
    (filed : document.operation? path method = some operation)
    (filed' : document.operation? path' method' = some operation') :
    (operation.operationId = operation'.operationId ↔
        method = method' /\ pathWords path = pathWords path') /\
      (isPlainPath path = true -> isPlainPath path' = true ->
        (path, method) ≠ (path', method') -> operation.operationId ≠ operation'.operationId) := by
  have start : ({ table } : Registry).RoutesDistinct := nodup_nil
  obtain ⟨-, -, -, operations, built, paths⟩ := OpenApi.paths_of_assembly assembled
  have fromRoute := Document.operation?_iff (start.performAll calls) built paths
  obtain ⟨entry, -, rfl, rfl, made⟩ := (fromRoute _ _ _).mp filed
  obtain ⟨entry', -, rfl, rfl, made'⟩ := (fromRoute _ _ _).mp filed'
  have named := (OpenApi.Site.describes_of_alone made).operationId
  have named' := (OpenApi.Site.describes_of_alone made').operationId
  have sameName : operation.operationId = operation'.operationId ↔ entry.method = entry'.method /\
      pathWords (documentPath entry.path) = pathWords (documentPath entry'.path) := by
    rw [named, named', operationId_eq_iff, pathWords_documentPath, pathWords_documentPath]
  refine ⟨sameName, fun plain plain' different same => different ?_⟩
  obtain ⟨methods, words⟩ := sameName.mp same
  have paths := segments_of_words plain plain' words
  rw [segments_documentPath, segments_documentPath] at paths
  rw [methods, (documentPath_eq_iff _ _).mpr paths]

def readCalls (paths : List String) : List Call :=
  paths.map fun path => .register { method := "GET", path, doc := .parsed { summary := "Read" } }

/-- A document has one name for the operations of two paths that differ in a slash and an
underscore. -/
theorem operationIds_not_unique :
    ((performAll {} (readCalls ["/a/b", "/a_b"])).2.assemble "Letters" "1").1.toOption.map
      (fun document => ["/a/b", "/a_b"].map fun path =>
        (document.operation? path .get).map (·.operationId)) =
      some [some "get_a_b", some "get_a_b"] := by
  decide +kernel

/-- A parameter and a literal are told apart. -/
theorem operationIds_told_apart_users : ∃ document operation operation',
    ((performAll {} (readCalls ["/users/:id", "/users/id"])).2.assemble "Users" "1").1 =
        .ok document /\ document.operation? "/users/\x7bid\x7d" .get = some operation /\
      document.operation? "/users/id" .get = some operation' /\
      operation.operationId ≠ operation'.operationId := by
  have found : ∀ path ∈ ["/users/\x7bid\x7d", "/users/id"],
      (((performAll {} (readCalls ["/users/:id", "/users/id"])).2.assemble "Users"
        "1").1.toOption.bind (·.operation? path .get)).isSome = true := by
    decide +kernel
  cases assembled : ((performAll {} (readCalls ["/users/:id", "/users/id"])).2.assemble "Users"
      "1").1 with
  | error failure =>
    rw [assembled] at found
    cases found _ (.head _)
  | ok document =>
    rw [assembled] at found
    obtain ⟨operation, filed⟩ := Option.isSome_iff_exists.mp (found _ (.head _))
    obtain ⟨operation', filed'⟩ := Option.isSome_iff_exists.mp (found _ (.tail _ (.head _)))
    have apart := (operationIds_told_apart {} _ _ _ _ assembled filed filed').2
    exact ⟨document, operation, operation', rfl, filed, filed',
      apart (by decide +kernel) (by decide +kernel) (by decide)⟩
end Registry
end RouteDocs
