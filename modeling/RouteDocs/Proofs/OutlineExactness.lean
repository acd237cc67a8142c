import RouteDocs.Proofs.Outlines

namespace RouteDocs.Doc
open List
open Text (leadingSpaces trim)

/-!
# What can be read as an outline

Lines are an outline if each is at most one level below the line before and has a key. Then the
pieces that have been nested never get deeper from one to the next, so a line takes exactly those
that belong under it, and the forest has the lines in order. Otherwise the reading stops at the
first line that does not fit.
-/

def Line.level (line : Line) : Nat := leadingSpaces line.text / indentWidth

/-- Lines that can follow a line at a given level. -/
structure WellIndented (prev : Nat) (lines : List Line) : Prop where
  even : ∀ line ∈ lines, leadingSpaces line.text % indentWidth = 0
  climbs : Climbs (prev :: lines.map Line.level)
  keyed : ∀ line ∈ lines, ∃ content, KeyForm (trim line.text) content

/-- What is wrong with a line that cannot follow a line at a given level. -/
def complaint (prev : Nat) (line : Line) : Warning :=
  ⟨line.number, if leadingSpaces line.text % indentWidth ≠ 0 then
      .oddIndentation (leadingSpaces line.text)
    else if prev + 1 < line.level then .deepIndentation
    else .keyLine (String.ofList (trim line.text))⟩

/-- What a line of an outline has from the line it was read from. -/
structure Tells (line : Line) (found : OutlineLine) : Prop where
  level : found.level = line.level
  number : found.number = line.number
  content : KeyForm (trim line.text) found.content

theorem wellIndented_nil (prev : Nat) : WellIndented prev [] := ⟨nofun, .singleton _, nofun⟩

theorem wellIndented_cons {prev : Nat} : WellIndented prev (line :: rest) ↔
    WellIndented prev [line] /\ WellIndented line.level rest := by
  constructor
  · rintro ⟨even, climbs, keyed⟩
    rw [forall_mem_cons] at even keyed
    obtain ⟨here, later⟩ := isChain_cons_cons.mp climbs
    exact ⟨⟨forall_mem_singleton.mpr even.1, isChain_pair.mpr here,
      forall_mem_singleton.mpr keyed.1⟩, even.2, later, keyed.2⟩
  · rintro ⟨⟨even, climbs, keyed⟩, later⟩
    exact ⟨forall_mem_cons.mpr ⟨even line (.head _), later.even⟩,
      isChain_cons_cons.mpr ⟨(isChain_cons_cons.mp climbs).1, later.climbs⟩,
      forall_mem_cons.mpr ⟨keyed line (.head _), later.keyed⟩⟩

theorem outlineLine_cases (prev : Nat) (line : Line) :
    (WellIndented prev [line] /\ ∃ found, outlineLine prev line = .ok found /\ Tells line found) \/
      (¬ WellIndented prev [line] /\ outlineLine prev line = .error (complaint prev line)) := by
  have level : leadingSpaces line.text / indentWidth = line.level := rfl
  simp only [outlineLine, complaint, level]
  by_cases odd : leadingSpaces line.text % indentWidth ≠ 0
  · refine .inr ⟨fun fine => odd (fine.even line (.head _)), ?_⟩
    rw [if_pos odd, if_pos odd]
  rw [if_neg odd, if_neg odd]
  by_cases deep : prev + 1 < line.level
  · refine .inr ⟨fun fine => Nat.not_le.mpr deep (isChain_cons_cons.mp fine.climbs).1, ?_⟩
    rw [if_pos deep, if_pos deep]
  rw [if_neg deep, if_neg deep]
  cases key : keyLine? (trim line.text) with
  | some content =>
    have form := keyLine?_eq_some_iff.mp key
    exact .inl ⟨⟨forall_mem_singleton.mpr (not_not.mp odd), isChain_pair.mpr (Nat.not_lt.mp deep),
      forall_mem_singleton.mpr ⟨content, form⟩⟩, _, rfl, rfl, rfl, form⟩
  | none =>
    refine .inr ⟨fun fine => ?_, rfl⟩
    obtain ⟨content, form⟩ := fine.keyed line (.head _)
    cases key.symm.trans (keyLine?_eq_some_iff.mpr form)

def levelBehind (prev : Nat) (lines : List Line) : Nat := (lines.getLast?.map Line.level).getD prev

/-- Lines are read, or the first that cannot follow the lines before it stops the reading. -/
theorem outlineLines_cases (prev : Nat) (lines : List Line) : (WellIndented prev lines /\
      ∃ found, outlineLines prev lines = .ok found /\ Forall₂ Tells lines found) \/
      (¬ WellIndented prev lines /\ ∃ before line after, lines = before ++ line :: after /\
        WellIndented prev before /\ ¬ WellIndented prev (before ++ [line]) /\
        outlineLines prev lines = .error (complaint (levelBehind prev before) line)) := by
  induction lines generalizing prev with
  | nil => exact .inl ⟨wellIndented_nil prev, [], rfl, .nil⟩
  | cons line rest ih =>
    rw [wellIndented_cons, outlineLines]
    rcases outlineLine_cases prev line with ⟨here, first, read, told⟩ | ⟨ill, failed⟩
    · rw [read]
      simp only [bind, Except.bind, told.level]
      rcases ih line.level with ⟨fine, others, readAll, toldAll⟩ |
        ⟨ill, before, bad, after, rfl, fine, offends, failed⟩
      · exact .inl ⟨⟨here, fine⟩, first :: others, by rw [readAll]; rfl, .cons told toldAll⟩
      · refine .inr ⟨fun whole => ill whole.2, line :: before, bad, after, rfl,
          wellIndented_cons.mpr ⟨here, fine⟩, fun whole => offends (wellIndented_cons.mp whole).2, ?_⟩
        rw [failed]
        cases before <;> simp [levelBehind, getLast?_cons]
    · refine .inr ⟨fun whole => ill whole.1, [], line, rest, rfl, wellIndented_nil prev, ill, ?_⟩
      rw [failed]
      rfl

/-- Pieces have some lines in order, and no piece is deeper than one before it. -/
structure Nested (lines : List OutlineLine) (pieces : List (Nat × Outline)) : Prop where
  whole : pieces.flatMap (fun piece => piece.2.preorder piece.1) = lines
  falls : pieces.Pairwise fun piece later => later.1 <= piece.1

theorem Nested.head_level (nested : Nested lines (piece :: pieces)) :
    ∃ line, lines.head? = some line /\ line.level = piece.1 := by
  obtain ⟨level, number, content, children⟩ := piece
  rw [<- nested.whole]
  exact ⟨⟨level, number, content⟩, rfl, rfl⟩

theorem Nested.le_head (nested : Nested lines pieces)
    (bound : ∀ line ∈ lines.head?, line.level <= top) : ∀ piece ∈ pieces, piece.1 <= top := by
  cases pieces with
  | nil => nofun
  | cons first rest =>
    obtain ⟨line, found, same⟩ := nested.head_level
    have start : first.1 <= top := same ▸ bound line found
    exact forall_mem_cons.mpr ⟨start, fun piece later =>
      Nat.le_trans (rel_of_pairwise_cons nested.falls later) start⟩

theorem Nested.nest {line : OutlineLine} (nested : Nested lines pieces)
    (climbs : ∀ next ∈ lines.head?, next.level <= line.level + 1) :
    Nested (line :: lines) (Doc.nest line pieces) := by
  obtain ⟨level, number, content⟩ := line
  let deeper : Nat × Outline -> Bool := fun piece => level < piece.1
  -- No piece is more than one level deeper, so those that are deeper are just one level deeper.
  have inner : ∀ piece ∈ pieces.takeWhile deeper, piece.1 = level + 1 := by
    intro piece mem
    have below : level < piece.1 := by simpa [deeper] using mem_takeWhile_imp mem
    exact Nat.le_antisymm (nested.le_head climbs piece ((takeWhile_sublist deeper).subset mem)) below
  have later := nested.falls.sublist (dropWhile_sublist deeper)
  constructor
  · have children : (pieces.takeWhile deeper).flatMap (fun piece => piece.2.preorder piece.1) =
        forestLines (level + 1) ((pieces.takeWhile deeper).map Prod.snd) := by
      rw [forestLines_eq_flatMap, flatMap_map]
      exact flatMap_congr fun piece mem => by rw [inner piece mem]
    rw [<- nested.whole]
    nth_rewrite 2 [<- takeWhile_append_dropWhile (p := deeper) (l := pieces)]
    rw [flatMap_append, children]
    rfl
  · refine pairwise_cons.mpr ⟨?_, later⟩
    have outside := head?_dropWhile_not deeper pieces
    change ∀ piece ∈ pieces.dropWhile deeper, piece.1 <= level
    generalize pieces.dropWhile deeper = others at later outside
    cases others with
    | nil => nofun
    | cons first more =>
      have above : first.1 <= level := by simpa [deeper] using outside
      exact forall_mem_cons.mpr ⟨above, fun piece mem =>
        Nat.le_trans (rel_of_pairwise_cons later mem) above⟩

theorem nested_foldr {lines : List OutlineLine} (climbs : Climbs (lines.map OutlineLine.level)) :
    Nested lines (lines.foldr nest []) := by
  induction lines with
  | nil => exact ⟨rfl, .nil⟩
  | cons line rest ih =>
    refine (ih climbs.tail).nest fun next found => ?_
    obtain ⟨others, rfl⟩ := head?_eq_some_iff.mp found
    exact (isChain_cons_cons.mp climbs).1

theorem forestLines_outlineOf {lines : List OutlineLine}
    (deep : ∀ level ∈ lines.map OutlineLine.level, 1 <= level)
    (climbs : Climbs (0 :: lines.map OutlineLine.level)) :
    forestLines 1 (outlineOf lines) = lines := by
  have nested := nested_foldr climbs.tail
  unfold outlineOf
  generalize lines.foldr nest [] = pieces at nested
  have roots : ∀ piece ∈ pieces, piece.1 = 1 := by
    intro piece mem
    refine Nat.le_antisymm (nested.le_head (fun line found => ?_) piece mem) (deep _ ?_)
    · obtain ⟨others, rfl⟩ := head?_eq_some_iff.mp found
      exact (isChain_cons_cons.mp climbs).1
    · obtain ⟨level, number, content, children⟩ := piece
      rw [<- nested.whole]
      exact mem_map.mpr ⟨⟨level, number, content⟩, mem_flatMap.mpr ⟨_, mem, .head _⟩, rfl⟩
  rw [forestLines_eq_flatMap, flatMap_map]
  refine Eq.trans ?_ nested.whole
  exact flatMap_congr fun piece mem => by rw [roots piece mem]

theorem level_pos {line : Line} (indented : isIndented line = true)
    (even : leadingSpaces line.text % indentWidth = 0) : 1 <= line.level := by
  obtain ⟨tail, starts⟩ := head?_eq_some_iff.mp (eq_of_beq indented)
  have deep : 0 < leadingSpaces line.text := by
    rw [leadingSpaces, starts]
    exact Nat.succ_pos _
  unfold Line.level indentWidth at *
  omega

theorem forestLines_of_told (indented : ∀ line ∈ lines, isIndented line = true)
    (fine : WellIndented 0 lines) (told : Forall₂ Tells lines found) :
    forestLines 1 (outlineOf found) = found := by
  have levels : lines.map Line.level = found.map OutlineLine.level :=
    map_eq_of_forall₂ told fun _ _ _ here => here.level.symm
  have deep : ∀ level ∈ lines.map Line.level, 1 <= level :=
    forall_mem_map.mpr fun line mem => level_pos (indented line mem) (fine.even line mem)
  exact forestLines_outlineOf (levels ▸ deep) (levels ▸ fine.climbs)

/-- **Reading an outline is exact.**  It gives a forest just for lines with two spaces for each level,
the first at level 1, none more than one level below the line before, and each with a key. The
forest has the lines in order, each at the depth of its level. Otherwise the first line that is
wrong is told, with what is wrong with it. A written forest is read back. -/
theorem readOutline_exact (lines : List Line) (indented : ∀ line ∈ lines, isIndented line = true) :
    ((∃ forest, readOutline lines = .ok forest) ↔ WellIndented 0 lines) /\
      (WellIndented 0 lines -> ∀ line ∈ lines.head?, line.level = 1) /\
      (∀ forest, readOutline lines = .ok forest -> Forall₂ Tells lines (forestLines 1 forest)) /\
      (¬ WellIndented 0 lines -> ∃ before line after, lines = before ++ line :: after /\
        WellIndented 0 before /\ ¬ WellIndented 0 (before ++ [line]) /\
        readOutline lines = .error (complaint (levelBehind 0 before) line)) /\
      ∀ forest, (∀ line ∈ forestLines 1 forest, line.content.Plain) ->
        readOutline ((forestLines 1 forest).map OutlineLine.line) = .ok forest := by
  have first (fine : WellIndented 0 lines) : ∀ line ∈ lines.head?, line.level = 1 := by
    intro line found
    obtain ⟨rest, rfl⟩ := head?_eq_some_iff.mp found
    exact Nat.le_antisymm (isChain_cons_cons.mp fine.climbs).1
      (level_pos (indented line (.head _)) (fine.even line (.head _)))
  rw [readOutline]
  rcases outlineLines_cases 0 lines with ⟨fine, found, read, told⟩ |
    ⟨ill, before, line, after, split, fine, offends, failed⟩
  · have whole := forestLines_of_told indented fine told
    rw [read]
    refine ⟨iff_of_true ⟨_, rfl⟩ fine, first, ?_, fun ill => absurd fine ill, fun _ => readOutline_line⟩
    rintro _ ⟨⟩
    rwa [whole]
  · rw [failed]
    refine ⟨iff_of_false (by simp [Except.map]) ill, first, by simp [Except.map], fun _ => ?_,
      fun _ => readOutline_line⟩
    exact ⟨before, line, after, split, fine, offends, rfl⟩

/-- A line that goes back by two levels belongs under the entry; one that skips a level is refused. -/
theorem readOutline_exact_examples :
    let lines : List Line := [⟨4, "  text/plain:".toList⟩, ⟨5, "    examples:".toList⟩,
      ⟨6, "      - name: short".toList⟩, ⟨7, "  description: A line".toList⟩]
    let skipping : List Line := [⟨4, "  text/plain:".toList⟩, ⟨5, "      - name: short".toList⟩]
    (∃ forest, readOutline lines = .ok forest /\ forest.length = 2 /\ WellIndented 0 lines /\
      Forall₂ Tells lines (forestLines 1 forest)) /\
      ¬ WellIndented 0 skipping /\ readOutline skipping = .error ⟨5, .deepIndentation⟩ := by
  intro lines skipping
  have accepted := readOutline_exact lines (by decide)
  have refused := readOutline_exact skipping (by decide)
  refine ⟨⟨_, rfl, rfl, accepted.1.mp ⟨_, rfl⟩, accepted.2.2.1 _ rfl⟩, fun fine => ?_, rfl⟩
  obtain ⟨forest, read⟩ := refused.1.mpr fine
  cases read
end RouteDocs.Doc
