import RouteDocs.Proofs.TextLines
import RouteDocs.Route.Path

namespace RouteDocs.Route
open List Segment

/-!
# Templates and the paths of documents

Slashes of a template may be doubled or left out at the ends, and a parameter is written with a
colon or in braces. A document knows a path by its text, a registry by its segments. The two
agree: the text of a path, read as a template again, has the same segments.
-/

@[simp] theorem beforeClosingBrace?_append (name : Chars) :
    beforeClosingBrace? (name ++ ['\x7d']) = some name := by
  unfold beforeClosingBrace?
  rw [reverse_append]
  change some name.reverse.reverse = some name
  rw [reverse_reverse]

theorem append_of_beforeClosingBrace? (closed : beforeClosingBrace? text = some name) :
    text = name ++ ['\x7d'] := by
  unfold beforeClosingBrace? at closed
  split at closed
  · rename_i pre reversed
    rw [<- Option.some.inj closed, <- reverse_reverse text, reversed, reverse_cons]
  · cases closed

theorem ofPiece_cases (piece : Chars) :
    (∃ name, piece = ':' :: name /\ ofPiece piece = .parameter (String.ofList name)) \/
      (∃ name, piece = '\x7b' :: (name ++ ['\x7d']) /\
        ofPiece piece = .parameter (String.ofList name)) \/
      ofPiece piece = .literal (String.ofList piece) := by
  fun_cases ofPiece piece with
  | case1 name => exact .inl ⟨name, rfl, rfl⟩
  | case2 rest name closed =>
    exact .inr (.inl ⟨name, congrArg _ (append_of_beforeClosingBrace? closed), rfl⟩)
  | case3 => exact .inr (.inr rfl)
  | case4 => exact .inr (.inr rfl)

theorem ofPiece_braced (name : Chars) :
    ofPiece ('\x7b' :: (name ++ ['\x7d'])) = .parameter (String.ofList name) := by
  simp only [ofPiece, beforeClosingBrace?_append]

theorem ofPiece_chars (piece : Chars) : ofPiece (ofPiece piece).chars = ofPiece piece := by
  rcases ofPiece_cases piece with ⟨name, -, read⟩ | ⟨name, -, read⟩ | read
  · rw [read, chars, String.toList_ofList, ofPiece_braced]
  · rw [read, chars, String.toList_ofList, ofPiece_braced]
  · rw [read, chars, String.toList_ofList, read]

theorem chars_ofPiece_ne_nil (something : piece ≠ []) : (ofPiece piece).chars ≠ [] := by
  rcases ofPiece_cases piece with ⟨name, -, read⟩ | ⟨name, -, read⟩ | read
  · rw [read]
    exact cons_ne_nil _ _
  · rw [read]
    exact cons_ne_nil _ _
  · rw [read, chars, String.toList_ofList]
    exact something

theorem slash_not_mem_chars (plain : '/' ∉ piece) : '/' ∉ (ofPiece piece).chars := by
  rcases ofPiece_cases piece with ⟨name, rfl, read⟩ | ⟨name, rfl, read⟩ | read
  · rw [read, chars, String.toList_ofList]
    simp_all
  · rw [read, chars, String.toList_ofList]
    exact plain
  · rw [read, chars, String.toList_ofList]
    exact plain

theorem exists_piece {template : String} {segment : Segment} (mem : segment ∈ segments template) :
    ∃ piece, piece ≠ [] /\ '/' ∉ piece /\ segment = ofPiece piece := by
  rcases mem_map.mp mem with ⟨piece, kept, rfl⟩
  rcases mem_filter.mp kept with ⟨cut, nonempty⟩
  refine ⟨piece, ?_, ?_, rfl⟩
  · intro empty
    rw [empty] at nonempty
    exact absurd nonempty Bool.false_ne_true
  · intro found
    have separated := (Text.mem_of_mem_splitWhere cut found).2
    exact absurd separated Bool.noConfusion

theorem splitAt_documentPath (template : String) :
    (Text.splitAt '/' (documentPath template).toList).filter (fun piece => !piece.isEmpty) =
      (segments template).map chars := by
  have written : ∀ piece ∈ (segments template).map chars, piece ≠ [] /\ '/' ∉ piece := by
    intro text mem
    rcases mem_map.mp mem with ⟨segment, listed, rfl⟩
    rcases exists_piece listed with ⟨piece, something, plain, rfl⟩
    exact ⟨chars_ofPiece_ne_nil something, slash_not_mem_chars plain⟩
  have opened : Text.splitAt '/' (documentPath template).toList =
      [] :: Text.splitAt '/' (Text.joinWith ['/'] ((segments template).map chars)) := by
    rw [documentPath, String.toList_ofList]
    rfl
  rw [opened, filter_cons_of_neg (by simp)]
  by_cases none : (segments template).map chars = []
  · rw [none]
    rfl
  · rw [Text.splitAt_joinWith none fun piece mem => (written piece mem).2]
    refine filter_eq_self.mpr fun piece mem => ?_
    simpa using (written piece mem).1

theorem segments_documentPath (template : String) :
    segments (documentPath template) = segments template := by
  rw [segments, splitAt_documentPath, map_map]
  refine (map_congr_left ?_).trans (map_id _)
  intro segment mem
  rcases exists_piece mem with ⟨piece, -, -, rfl⟩
  exact ofPiece_chars piece

theorem documentPath_eq_iff (first second : String) :
    documentPath first = documentPath second ↔ segments first = segments second := by
  constructor
  · intro same
    rw [<- segments_documentPath first, same, segments_documentPath]
  · intro same
    rw [documentPath, documentPath, same]
end RouteDocs.Route
