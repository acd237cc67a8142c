import Mathlib.Tactic.MkIffOfInductiveProp
import RouteDocs.Text.Lines

namespace RouteDocs.Text
open List

/-!
# Pieces of a text

A text is cut at separators, and pieces are joined with a separator between them.
Cutting undoes joining if no piece has the separator in it. The converse does not
need a condition: no piece that cutting gives has a separator in it.
-/

section
variable {α : Type} {separates : α -> Bool} {text piece : List α}

theorem splitWhere_ne_nil (text : List α) : splitWhere separates text ≠ [] := by
  cases text with
  | nil => exact cons_ne_nil _ _
  | cons first rest =>
    rw [splitWhere]
    split
    · exact cons_ne_nil _ _
    · cases splitWhere separates rest <;> exact cons_ne_nil _ _

theorem splitWhere_of_forall (plain : ∀ c ∈ text, separates c = false) :
    splitWhere separates text = [text] := by
  induction text with
  | nil => rfl
  | cons first rest ih =>
    have here := plain first (.head _)
    have later := ih (forall_mem_cons.mp plain).2
    rw [splitWhere, here, later]
    rfl

theorem splitWhere_append (plain : ∀ c ∈ piece, separates c = false)
    (ends : separates sep = true) (rest : List α) :
    splitWhere separates (piece ++ sep :: rest) = piece :: splitWhere separates rest := by
  induction piece with
  | nil => rw [nil_append, splitWhere, if_pos ends]
  | cons first others ih =>
    have here := plain first (.head _)
    have later := ih (forall_mem_cons.mp plain).2
    rw [cons_append, splitWhere, here, later]
    rfl

theorem flatten_consFirst (first : α) (pieces : List (List α)) :
    (consFirst first pieces).flatten = first :: pieces.flatten := by
  cases pieces <;> rfl

theorem flatten_splitWhere (text : List α) :
    (splitWhere separates text).flatten = text.filter (!separates ·) := by
  induction text with
  | nil => rfl
  | cons first rest ih =>
    rw [splitWhere]
    cases separated : separates first <;> simp [separated, ih, flatten_consFirst]

theorem mem_of_mem_splitWhere (mem : piece ∈ splitWhere separates text) (found : c ∈ piece) :
    c ∈ text /\ separates c = false := by
  have kept := mem_flatten.mpr ⟨piece, mem, found⟩
  rw [flatten_splitWhere, mem_filter, Bool.not_eq_true'] at kept
  exact kept
end

variable {pieces : List Chars} {sep : Char}

theorem joinWith_cons (sep piece : Chars) (more : pieces ≠ []) :
    joinWith sep (piece :: pieces) = piece ++ sep ++ joinWith sep pieces := by
  cases pieces with
  | nil => exact absurd rfl more
  | cons second rest => rfl

theorem joinWith_ne_nil (sep : Chars) (filled : piece ≠ []) (rest : List Chars) :
    joinWith sep (piece :: rest) ≠ [] := by
  cases rest with
  | nil => exact filled
  | cons second others =>
    intro empty
    exact filled (append_eq_nil_iff.mp (append_eq_nil_iff.mp empty).1).1

theorem head?_joinWith (sep : Chars) (filled : piece ≠ []) (rest : List Chars) :
    (joinWith sep (piece :: rest)).head? = piece.head? := by
  obtain ⟨c, tail, rfl⟩ := exists_cons_of_ne_nil filled
  cases rest <;> rfl

theorem joinWith_append (sep : Chars) (filled : first ≠ []) (more : second ≠ []) :
    joinWith sep (first ++ second) = joinWith sep first ++ sep ++ joinWith sep second := by
  induction first with
  | nil => exact absurd rfl filled
  | cons piece rest ih =>
    by_cases last : rest = []
    · subst last
      exact joinWith_cons sep piece more
    · have both : rest ++ second ≠ [] := fun empty => more (append_eq_nil_iff.mp empty).2
      rw [cons_append, joinWith_cons _ _ both, ih last, joinWith_cons _ _ last]
      simp only [append_assoc]

theorem splitAt_joinWith (some : pieces ≠ []) (plain : ∀ piece ∈ pieces, sep ∉ piece) :
    splitAt sep (joinWith [sep] pieces) = pieces := by
  have ne : ∀ piece ∈ pieces, ∀ c ∈ piece, (c == sep) = false := by
    intro piece mem c found
    refine beq_eq_false_iff_ne.mpr ?_
    intro same
    exact plain piece mem (same ▸ found)
  unfold splitAt
  induction pieces with
  | nil => exact absurd rfl some
  | cons piece rest ih =>
    have here := ne piece (.head _)
    by_cases more : rest = []
    · subst more
      exact splitWhere_of_forall here
    · have later := ih more (forall_mem_cons.mp plain).2 (forall_mem_cons.mp ne).2
      rw [joinWith_cons _ _ more, append_assoc, singleton_append,
        splitWhere_append here (beq_self_eq_true sep), later]

theorem splitFirst_append (absent : sep ∉ pre) (behind : Chars) :
    splitFirst sep (pre ++ sep :: behind) = some (pre, behind) := by
  induction pre with
  | nil => rw [nil_append, splitFirst, if_pos rfl]
  | cons first rest ih =>
    have ne : first ≠ sep := fun same => absent (same ▸ (.head _))
    have later := ih fun mem => absent (.tail _ mem)
    rw [cons_append, splitFirst, if_neg ne, later]
    rfl
end RouteDocs.Text

namespace RouteDocs.Text
open List

/-!
## Texts on one line

What is written on a line of its own has no break and no tabulator in it, and no blank
at either end. Such texts survive everything that is done to a block before it is read:
trimming leaves them as they are, a block of them has no margin to be cut off, and
its lines are the texts again.
-/

variable {α : Type} {first text line : Chars} {c : Char}

theorem dropEndWhile_of_getLast? {drop : α -> Bool} {text : List α}
    (ends : ∀ c, text.getLast? = some c -> drop c = false) : dropEndWhile drop text = text := by
  induction text with
  | nil => rfl
  | cons first rest ih =>
    cases rest with
    | nil =>
      have kept := ends first rfl
      simp only [dropEndWhile, kept, Bool.false_eq_true, if_false]
    | cons second others =>
      have later := ih fun c found => ends c (by rw [getLast?_cons_cons]; exact found)
      rw [dropEndWhile, later]

theorem dropEndWhile_append {drop : α -> Bool} (text : List α) {tail : List α}
    (dropped : ∀ c ∈ tail, drop c = true) :
    dropEndWhile drop (text ++ tail) = dropEndWhile drop text := by
  induction text with
  | nil =>
    rw [nil_append]
    induction tail with
    | nil => rfl
    | cons first rest ih =>
      have here := dropped first (.head _)
      have later := ih (forall_mem_cons.mp dropped).2
      simp only [dropEndWhile, later, here, if_true]
  | cons first rest ih => rw [cons_append, dropEndWhile, ih, dropEndWhile]

theorem dropWhile_of_head? {drop : α -> Bool} {text : List α}
    (starts : ∀ c, text.head? = some c -> drop c = false) : text.dropWhile drop = text := by
  cases text with
  | nil => rfl
  | cons first rest => rw [dropWhile_cons, starts first rfl, if_neg Bool.false_ne_true]

section Deciding

variable (property : Char -> Prop) [DecidablePred property]

/-- It is decided by the characters that are there, not by trying all characters. -/
instance decidableForallMem (text : Chars) : Decidable (∀ c ∈ text, property c) :=
  List.decidableBAll property text

instance decidableForallFound (found : Option Char) : Decidable (∀ c ∈ found, property c) :=
  Option.decidableForallMem found
end Deciding

def Flat (text : Chars) : Prop := ∀ c ∈ text, c ≠ '\t' /\ isLineBreak c = false

instance (text : Chars) : Decidable (Flat text) := List.decidableBAll _ text

theorem flat_append : Flat (first ++ second) ↔ Flat first /\ Flat second := forall_mem_append

theorem Flat.newline_not_mem (flat : Flat text) : '\n' ∉ text := by
  intro mem
  have plain := (flat '\n' mem).2
  cases plain

@[mk_iff]
structure OneLine (text : Chars) : Prop where
  flat : Flat text
  starts : ∀ c, text.head? = some c -> isBlank c = false
  ends : ∀ c, text.getLast? = some c -> isBlank c = false

instance (text : Chars) : Decidable (OneLine text) :=
  decidable_of_iff (Flat text /\ (∀ c ∈ text.head?, isBlank c = false) /\
    ∀ c ∈ text.getLast?, isBlank c = false) (oneLine_iff text).symm

structure Unpadded (text : Chars) : Prop where
  starts : ∀ c, text.head? = some c -> isBlank c = false
  ends : ∀ c, text.getLast? = some c -> isBlank c = false

theorem OneLine.unpadded (line : OneLine text) : Unpadded text := ⟨line.starts, line.ends⟩

theorem Unpadded.trim_append (unpadded : Unpadded text) {blanks : Chars}
    (blank : ∀ c ∈ blanks, isBlank c = true) : trim (blanks ++ text) = text := by
  rw [trim, trimWhile, dropWhile_append_of_pos blank, dropWhile_of_head? unpadded.starts]
  exact dropEndWhile_of_getLast? unpadded.ends

theorem Unpadded.trim_eq (unpadded : Unpadded text) : trim text = text :=
  unpadded.trim_append (forall_mem_nil _)

theorem OneLine.trim_eq (line : OneLine text) : trim text = text := line.unpadded.trim_eq

theorem OneLine.trimEnd_eq (line : OneLine text) : trimEnd text = text :=
  dropEndWhile_of_getLast? line.ends

theorem oneLine_nil : OneLine [] where
  flat := forall_mem_nil _
  starts := fun _ found => by cases found
  ends := fun _ found => by cases found

theorem forall_head?_append {property : Char -> Prop} (filled : first ≠ [])
    (starts : ∀ c, first.head? = some c -> property c) :
    ∀ c, (first ++ more).head? = some c -> property c := by
  intro c found
  cases first with
  | nil => exact absurd rfl filled
  | cons head tail => exact starts c found

theorem OneLine.append (start : OneLine first) (stop : OneLine last) (opened : first ≠ [])
    (closed : last ≠ []) (flat : Flat middle) : OneLine (first ++ (middle ++ last)) where
  flat := flat_append.mpr ⟨start.flat, flat_append.mpr ⟨flat, stop.flat⟩⟩
  starts := forall_head?_append opened start.starts
  ends := by
    intro c found
    have ended := getLast?_eq_some_getLast closed
    rw [getLast?_append, getLast?_append, ended, Option.some_or, Option.some_or] at found
    exact stop.ends c (ended.trans found)

theorem isBlank_of_isLineBreak (breaks : isLineBreak c = true) : isBlank c = true := by
  simp only [isLineBreak, isBlank, Bool.or_eq_true, Bool.and_eq_true, decide_eq_true_eq,
    beq_iff_eq] at breaks ⊢
  omega

theorem isLineBreak_eq_false (visible : isBlank c = false) : isLineBreak c = false :=
  Bool.eq_false_iff.mpr fun breaks =>
    Bool.noConfusion ((isBlank_of_isLineBreak breaks).symm.trans visible)

theorem oneLine_of_forall (plain : ∀ c ∈ text, isBlank c = false) : OneLine text where
  flat := by
    intro c mem
    have visible := plain c mem
    constructor
    · rintro rfl
      cases visible
    · exact isLineBreak_eq_false visible
  starts := fun c found => plain c (mem_of_mem_head? found)
  ends := fun c found => plain c (mem_of_mem_getLast? found)

theorem splitLines_cons (plain : isLineBreak c = false) (rest : Chars) :
    splitLines (c :: rest) = consFirst c (splitLines rest) := by
  have ne : c ≠ '\r' := by
    rintro rfl
    cases plain
  rw [splitLines.eq_3 _ _ (fun _ same _ => ne same), plain, if_neg Bool.false_ne_true]

theorem splitLines_append (flat : ∀ c ∈ line, isLineBreak c = false) (rest : Chars) :
    splitLines (line ++ '\n' :: rest) = line :: splitLines rest := by
  induction line with
  | nil => rfl
  | cons first others ih =>
    have here := flat first (.head _)
    have later := ih (forall_mem_cons.mp flat).2
    rw [cons_append, splitLines_cons here, later]
    rfl

theorem splitLines_of_forall (flat : ∀ c ∈ line, isLineBreak c = false) (filled : line ≠ []) :
    splitLines line = [line] := by
  induction line with
  | nil => exact absurd rfl filled
  | cons first others ih =>
    have here := flat first (.head _)
    rw [splitLines_cons here]
    by_cases more : others = []
    · rw [more]
      rfl
    · rw [ih (forall_mem_cons.mp flat).2 more]
      rfl

theorem splitLines_joinWith (flat : ∀ line ∈ lines, ∀ c ∈ line, isLineBreak c = false)
    (last : ∀ line, lines.getLast? = some line -> line ≠ []) :
    splitLines (joinWith ['\n'] lines) = lines := by
  induction lines with
  | nil => rfl
  | cons first rest ih =>
    have here := flat first (.head _)
    by_cases more : rest = []
    · subst more
      exact splitLines_of_forall here (last first rfl)
    · have later := ih (forall_mem_cons.mp flat).2
        (fun line found => last line (by rw [getLast?_cons_of_ne_nil more]; exact found))
      rw [joinWith_cons _ _ more, append_assoc, singleton_append, splitLines_append here, later]

theorem expandTabsFrom_of_forall (plain : '\t' ∉ text) (column : Nat) :
    expandTabsFrom column text = text := by
  induction text generalizing column with
  | nil => rfl
  | cons first rest ih =>
    have ne : first ≠ '\t' := fun same => plain (same ▸ (.head _))
    have later := ih fun mem => plain (.tail _ mem)
    rw [expandTabsFrom, if_neg ne, later, later, ite_self]

theorem mem_joinWith (mem : c ∈ joinWith ['\n'] lines) : c = '\n' \/ ∃ line ∈ lines, c ∈ line := by
  induction lines with
  | nil => cases mem
  | cons first rest ih =>
    by_cases more : rest = []
    · subst more
      exact .inr ⟨first, .head _, mem⟩
    · rw [joinWith_cons _ _ more, append_assoc] at mem
      rcases mem_append.mp mem with inFirst | later
      · exact .inr ⟨first, .head _, inFirst⟩
      · rcases mem_cons.mp later with same | inRest
        · exact .inl same
        · rcases ih inRest with same | ⟨line, listed, found⟩
          · exact .inl same
          · exact .inr ⟨line, .tail _ listed, found⟩

theorem cutMargin_cons (first : Chars) (rest : List Chars) : cutMargin (first :: rest) =
      trimStart first :: rest.map (·.drop ((margin? rest).getD 0)) := by
  rw [cutMargin]
  cases margin? rest with
  | none => simp
  | some margin => rfl

theorem dropEmptyEnds_isStart (lines : List Chars) :
    dropEmptyEnds lines <+: lines.dropWhile List.isEmpty := by
  rw [dropEmptyEnds, <- reverse_suffix, reverse_reverse]
  exact dropWhile_suffix _

theorem exists_of_mem_cut (mem : line ∈ dropEmptyEnds (cutMargin lines)) :
    ∃ other ∈ lines, line <:+ other := by
  have cut := (dropWhile_suffix _).subset ((dropEmptyEnds_isStart _).subset mem)
  cases lines with
  | nil => cases cut
  | cons first rest =>
    rw [cutMargin_cons] at cut
    rcases mem_cons.mp cut with rfl | later
    · exact ⟨first, .head _, dropWhile_suffix _⟩
    · obtain ⟨other, listed, rfl⟩ := mem_map.mp later
      exact ⟨other, .tail _ listed, drop_suffix _ _⟩

def Visible (line : Chars) : Prop := ∃ c, line.head? = some c /\ isBlank c = false

structure Block (first : Chars) (rest : List Chars) : Prop where
  flat : ∀ line ∈ first :: rest, Flat line
  starts : Visible first
  /-- A block of more than one line has one more line that begins in the first column. -/
  anchored : rest = [] \/ ∃ line ∈ rest, Visible line

section
variable {first : Chars} {rest : List Chars}

theorem margin?_of_anchored (anchored : ∃ line ∈ rest, Visible line) : margin? rest = some 0 := by
  obtain ⟨line, listed, c, found, visible⟩ := anchored
  obtain ⟨tail, rfl⟩ := head?_eq_some_iff.mp found
  have unindented : indentation? (c :: tail) = some 0 := by
    simp only [indentation?, isBlankText, all_cons, visible, Bool.false_and, Bool.false_eq_true,
      if_false, takeWhile_cons, length_nil]
  rw [margin?, min?_eq_some_iff]
  exact ⟨mem_filterMap.mpr ⟨_, listed, unindented⟩, fun _ _ => Nat.zero_le _⟩

theorem cutMargin_eq (starts : ∀ c, first.head? = some c -> isBlank c = false)
    (flush : (margin? rest).getD 0 = 0) : cutMargin (first :: rest) = first :: rest := by
  rw [cutMargin_cons, trimStart, dropWhile_of_head? starts, flush]
  simp only [drop_zero, map_id']

theorem ne_nil_of_head?_dropWhile {lines : List Chars}
    (found : (lines.dropWhile isEmpty).head? = some line) : line ≠ [] := by
  have filled := head?_dropWhile_not isEmpty lines
  rw [found] at filled
  exact isEmpty_eq_false_iff.mp filled

theorem exists_dropEmptyEnds (filled : first ≠ []) (rest : List Chars) :
    ∃ blanks, (∀ line ∈ blanks, line = []) /\
      first :: rest = dropEmptyEnds (first :: rest) ++ blanks := by
  have front : (first :: rest).dropWhile List.isEmpty = first :: rest := by
    apply dropWhile_of_head?
    rintro _ ⟨⟩
    exact isEmpty_eq_false_iff.mpr filled
  refine ⟨((first :: rest).reverse.takeWhile isEmpty).reverse, fun line mem => ?_, ?_⟩
  · exact isEmpty_iff.mp (all_eq_true.mp all_takeWhile line (mem_reverse.mp mem))
  · rw [dropEmptyEnds, front, <- reverse_append, takeWhile_append_dropWhile, reverse_reverse]

theorem dropEmptyEnds_eq (filled : first ≠ [])
    (ends : ∀ line, (first :: rest).getLast? = some line -> line ≠ []) :
    dropEmptyEnds (first :: rest) = first :: rest := by
  obtain ⟨blanks, blank, whole⟩ := exists_dropEmptyEnds filled rest
  cases last : blanks.getLast? with
  | none =>
    rw [getLast?_eq_none_iff.mp last, append_nil] at whole
    exact whole.symm
  | some line =>
    refine absurd (blank line (mem_of_mem_getLast? last)) (ends line ?_)
    rw [whole, getLast?_append, last, Option.some_or]

/-- Only margin and ends are cut. -/
theorem cleanBlock_joinWith (filled : lines ≠ [])
    (plain : ∀ line ∈ lines, '\t' ∉ line /\ '\n' ∉ line) :
    cleanBlock (joinWith ['\n'] lines) = joinWith ['\n'] (dropEmptyEnds (cutMargin lines)) := by
  have untabbed : '\t' ∉ joinWith ['\n'] lines := by
    intro mem
    rcases mem_joinWith mem with same | ⟨line, listed, found⟩
    · cases same
    · exact (plain line listed).1 found
  rw [cleanBlock, expandTabs, expandTabsFrom_of_forall untabbed,
    splitAt_joinWith filled fun line listed => (plain line listed).2]

theorem Block.exists_splitLines (block : Block first rest) :
    ∃ blanks, (∀ line ∈ blanks, line = []) /\
      first :: rest = splitLines (cleanBlock (joinWith ['\n'] (first :: rest))) ++ blanks := by
  have plain : ∀ line ∈ first :: rest, '\t' ∉ line /\ '\n' ∉ line := fun line listed =>
    ⟨fun found => (block.flat line listed '\t' found).1 rfl, (block.flat line listed).newline_not_mem⟩
  have flush : (margin? rest).getD 0 = 0 := by
    rcases block.anchored with none | some
    · rw [none]
      rfl
    · rw [margin?_of_anchored some, Option.getD_some]
  obtain ⟨c, found, visible⟩ := block.starts
  have starts : ∀ d, first.head? = some d -> isBlank d = false := fun d same =>
    Option.some.inj (found.symm.trans same) ▸ visible
  obtain ⟨blanks, blank, whole⟩ := exists_dropEmptyEnds (ne_nil_of_mem (mem_of_mem_head? found)) rest
  refine ⟨blanks, blank, ?_⟩
  rw [cleanBlock_joinWith (cons_ne_nil _ _) plain, cutMargin_eq starts flush, splitLines_joinWith]
  · exact whole
  · intro line mem c inside
    refine (block.flat line ?_ c inside).2
    rw [whole]
    exact mem_append_left _ mem
  · intro line last
    rw [dropEmptyEnds, getLast?_reverse] at last
    exact ne_nil_of_head?_dropWhile last
end

theorem OneLine.visible (oneLine : OneLine text) (filled : text ≠ []) : Visible text := by
  obtain ⟨c, rest, rfl⟩ := exists_cons_of_ne_nil filled
  exact ⟨c, rfl, oneLine.starts c rfl⟩
end RouteDocs.Text
