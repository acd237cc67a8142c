import Mathlib.Data.List.Chain
import RouteDocs.Proofs.LineForms
import RouteDocs.Proofs.OrderedMap
import RouteDocs.Proofs.Steps

namespace RouteDocs.Doc
open List
open Text hiding pieces

/-!
# Reading written outlines

The lines of keys are taken one by one, each at most one level below the one before; then they are
nested from the last to the first. What has been nested stands there as pieces with their levels,
and a line takes the deeper ones in front as its own. The numbers of lines only matter for
warnings, so the lines here have no numbers of their own.
-/

structure Indented (line : Nat × KeyLine) : Prop where
  level : 1 <= line.1
  content : line.2.Writable

variable {prev : Nat}

section
variable {written : Nat × KeyLine}

theorem trim_indentedLine (plain : written.2.Plain) :
    trim (indentedLine written) = written.2.text :=
  plain.unpadded.trim_append fun c mem => by rw [eq_of_mem_replicate mem]; rfl

theorem leadingSpaces_indentedLine (plain : written.2.Plain) :
    leadingSpaces (indentedLine written) = indentWidth * written.1 := by
  have spaces : ∀ c ∈ List.replicate (indentWidth * written.1) ' ', (c == ' ') = true := by
    intro c mem
    rw [eq_of_mem_replicate mem]
    rfl
  have stops : List.takeWhile (· == ' ') written.2.text = [] := by
    cases split : written.2.text with
    | nil => rfl
    | cons first rest =>
      have visible := plain.unpadded.starts first (by rw [split]; rfl)
      have ne : first ≠ ' ' := by
        rintro rfl
        cases visible
      rw [takeWhile_cons_of_neg (by simp [ne])]
  rw [leadingSpaces, indentedLine, takeWhile_append_of_pos spaces, stops, append_nil,
    length_replicate]

theorem outlineLine_of_text (plain : written.2.Plain) (climbs : written.1 <= prev + 1)
    (text : line.text = indentedLine written) :
    outlineLine prev line = .ok ⟨written.1, line.number, written.2⟩ := by
  have even : ¬ indentWidth * written.1 % indentWidth ≠ 0 := by
    rw [Nat.mul_mod_right]
    exact not_not.mpr rfl
  have level : indentWidth * written.1 / indentWidth = written.1 :=
    Nat.mul_div_cancel_left _ (by decide)
  unfold outlineLine
  simp only [text, leadingSpaces_indentedLine plain, trim_indentedLine plain,
    plain.keyLine?_text, level, if_neg even, if_neg (Nat.not_lt.mpr climbs)]

theorem Indented.head? (indented : Indented written) : (indentedLine written).head? = some ' ' := by
  obtain ⟨level, content⟩ := written
  cases level with
  | zero => exact absurd indented.level (Nat.not_succ_le_zero 0)
  | succ below => rfl

theorem Indented.isBlankText_eq (indented : Indented written) :
    isBlankText (indentedLine written) = false := by
  have text := indented.content.oneLine
  have filled : written.2.text ≠ [] := by simp [KeyLine.text]
  rw [isBlankText, indentedLine, all_append, Bool.and_eq_false_iff]
  right
  cases split : written.2.text with
  | nil => exact absurd split filled
  | cons first rest => rw [all_cons, text.starts first (by rw [split]; rfl), Bool.false_and]

theorem Indented.sectionLine (indented : Indented written) : SectionLine (indentedLine written) := by
  have text := indented.content.oneLine
  have filled : written.2.text ≠ [] := by simp [KeyLine.text]
  refine ⟨flat_append.mpr ⟨?_, text.flat⟩, ?_, headingTitle?_of_head? indented.head? (by decide)⟩
  · intro c mem
    rw [eq_of_mem_replicate mem]
    decide
  · intro c found
    have ended := getLast?_eq_some_getLast filled
    rw [indentedLine, getLast?_append, ended, Option.some_or] at found
    exact text.ends c (ended.trans found)

theorem KeyText.indented (isKey : KeyText key) (oneLine : OneLine value) (item : Bool)
    (below : Nat) : Indented (below + 1, ⟨key.toList, value, item⟩) :=
  ⟨Nat.le_add_left 1 below, isKey.writable oneLine item⟩
end

def Climbs (levels : List Nat) : Prop := levels.IsChain fun above below => below <= above + 1

def OutlineLine.line (found : OutlineLine) : Line :=
  ⟨found.number, indentedLine (found.level, found.content)⟩

theorem outlineLines_line {found : List OutlineLine} (plain : ∀ line ∈ found, line.content.Plain)
    (climbs : Climbs (prev :: found.map OutlineLine.level)) :
    outlineLines prev (found.map OutlineLine.line) = .ok found := by
  induction found generalizing prev with
  | nil => rfl
  | cons first rest ih =>
    obtain ⟨here, later⟩ := isChain_cons_cons.mp climbs
    have readAll := ih (forall_mem_cons.mp plain).2 later
    rw [map_cons, outlineLines, outlineLine_of_text (plain first (.head _)) here rfl]
    simp only [bind, Except.bind, readAll]
    rfl

def atLevel (level : Nat) (nodes : List Outline) : List (Nat × Outline) :=
  nodes.map fun node => (level, node)

def Shallow (level : Nat) (pieces : List (Nat × Outline)) : Prop :=
  ∀ piece, pieces.head? = some piece -> piece.1 <= level

variable {level : Nat}

theorem shallow_cons (above : other <= level) : Shallow level ((other, node) :: pieces) := by
  rintro _ ⟨⟩
  exact above

theorem shallow_nil (level : Nat) : Shallow level [] := by rintro _ ⟨⟩

section
variable {content : KeyLine}

/-- A line takes the nodes at a deeper level, up to the first piece that is not deeper. -/
theorem nest_atLevel (inner : List Outline) (shallow : Shallow level pieces) :
    nest ⟨level, number, content⟩ (atLevel (level + 1) inner ++ pieces) =
      (level, .node number content inner) :: pieces := by
  have inside : ∀ piece ∈ atLevel (level + 1) inner, decide (level < piece.1) = true := by
    intro piece mem
    obtain ⟨node, -, rfl⟩ := mem_map.mp mem
    exact decide_eq_true (Nat.lt_succ_self level)
  have outside : ∀ piece, pieces.head? = some piece -> decide (level < piece.1) = false :=
    fun piece found => decide_eq_false (Nat.not_lt.mpr (shallow piece found))
  have taken : pieces.takeWhile (fun piece => decide (level < piece.1)) = [] := by
    cases pieces with
    | nil => rfl
    | cons first rest => rw [takeWhile_cons, outside first rfl, if_neg Bool.false_ne_true]
  have nodes : (atLevel (level + 1) inner).map Prod.snd = inner := by
    rw [atLevel, map_map]
    exact map_id _
  simp only [nest, takeWhile_append_of_pos inside, dropWhile_append_of_pos inside, taken,
    dropWhile_of_head? outside, append_nil, nodes]
end

mutual
def Outline.preorder (level : Nat) : Outline -> List OutlineLine
  | .node number content children => ⟨level, number, content⟩ :: forestLines (level + 1) children

def forestLines (level : Nat) : List Outline -> List OutlineLine
  | [] => []
  | node :: rest => node.preorder level ++ forestLines level rest
end

theorem forestLines_eq_flatMap (level : Nat) (nodes : List Outline) :
    forestLines level nodes = nodes.flatMap (Outline.preorder level) := by
  induction nodes with
  | nil => rfl
  | cons node rest ih => rw [forestLines, ih, flatMap_cons]

mutual
theorem nest_preorder : (node : Outline) -> (level : Nat) -> Shallow level pieces ->
    (node.preorder level).foldr nest pieces = (level, node) :: pieces
  | .node number content children, level, shallow => by
    have deep : Shallow (level + 1) pieces := fun piece found => Nat.le_succ_of_le (shallow piece found)
    rw [Outline.preorder, foldr_cons, nest_forestLines children (level + 1) deep]
    exact nest_atLevel children shallow

theorem nest_forestLines : (nodes : List Outline) -> (level : Nat) -> Shallow level pieces ->
    (forestLines level nodes).foldr nest pieces = atLevel level nodes ++ pieces
  | [], _, _ => rfl
  | node :: rest, level, shallow => by
    rw [forestLines, foldr_append, nest_forestLines rest level shallow, nest_preorder node level]
    · rfl
    · cases rest with
      | nil => exact shallow
      | cons second others => exact shallow_cons (Nat.le_refl level)
end

mutual
theorem climbs_preorder {prev : Nat} : (node : Outline) -> (level : Nat) -> level <= prev + 1 ->
    (∀ last, level <= last -> Climbs (last :: more)) ->
    Climbs (prev :: ((node.preorder level).map OutlineLine.level ++ more))
  | .node _ _ children, level, below, next => by
    refine isChain_cons_cons.mpr ⟨below, climbs_forestLines children (level + 1) (Nat.le_refl _) ?_⟩
    exact fun last deeper => next last (Nat.le_of_succ_le_succ deeper)

theorem climbs_forestLines {prev : Nat} : (nodes : List Outline) -> (level : Nat) -> level <= prev + 1 ->
    (∀ last, level <= last + 1 -> Climbs (last :: more)) ->
    Climbs (prev :: ((forestLines level nodes).map OutlineLine.level ++ more))
  | [], _, below, next => next _ below
  | node :: nodes, level, below, next => by
    rw [forestLines, map_append, append_assoc]
    refine climbs_preorder node level below fun last deeper => ?_
    exact climbs_forestLines nodes level (Nat.le_succ_of_le deeper) next
end

theorem outlineOf_forestLines (nodes : List Outline) : outlineOf (forestLines 1 nodes) = nodes := by
  rw [outlineOf, nest_forestLines nodes 1 (shallow_nil 1), append_nil, atLevel, map_map]
  exact map_id _

theorem readOutline_line {nodes : List Outline}
    (plain : ∀ line ∈ forestLines 1 nodes, line.content.Plain) :
    readOutline ((forestLines 1 nodes).map OutlineLine.line) = .ok nodes := by
  have climbs : Climbs (0 :: ((forestLines 1 nodes).map OutlineLine.level ++ [])) :=
    climbs_forestLines nodes 1 (Nat.le_refl 1) fun last _ => .singleton last
  rw [append_nil] at climbs
  rw [readOutline, outlineLines_line plain climbs]
  exact congrArg Except.ok (outlineOf_forestLines nodes)

theorem unquote_of_unenclosed (unenclosed : Unenclosed text) :
    unquote text.toList = text.toList := by
  have apart := unenclosed.unenclosed
  generalize text.toList = characters at apart ⊢
  cases characters with
  | nil => rfl
  | cons first rest =>
    rw [unquote]
    split
    · rename_i enclosed
      simp only [Bool.and_eq_true, Bool.or_eq_true, decide_eq_true_eq] at enclosed
      obtain ⟨inner, rfl⟩ := getLast?_eq_some_iff.mp enclosed.2
      exact absurd rfl (apart first inner enclosed.1)
    · rfl

theorem exampleValue_of_head? (plain : ∀ c, text.toList.head? = some c -> c ≠ '\x7b' /\ c ≠ '[') :
    exampleValue text.toList = .ok (.string text) := by
  have back : String.ofList text.toList = text := String.ofList_toList
  generalize text.toList = characters at plain back
  unfold exampleValue
  cases characters with
  | nil => simp only [Bool.false_eq_true, if_false, back]
  | cons first rest =>
    obtain ⟨noBrace, noBracket⟩ := plain first rfl
    simp only [noBrace, noBracket, decide_false, Bool.or_self, Bool.false_eq_true, if_false, back]

section
variable {sample : Example} {examples : List Example}

def Example.node (sample : Example) : Outline := .node 0 ⟨"name".toList, sample.name.toList, true⟩
    ((sample.summary?.toList.map fun summary => .node 0 (keyed "summary" summary) []) ++
      [.node 0 (keyed "value" sample.valueText) []])

theorem exampleOf_node (writable : sample.Writable) : exampleOf sample.node = .ok sample := by
  obtain ⟨text, isText, unenclosed, plain⟩ := writable.value
  have named := unquote_of_unenclosed writable.name
  obtain ⟨name, summary?, value⟩ := sample
  obtain rfl : value = .string text := isText
  have valued : attribute? "value" (Example.node ⟨name, summary?, .string text⟩).children =
      some text.toList := by
    cases summary? <;> exact congrArg some (unquote_of_unenclosed unenclosed)
  have summary : (attribute? "summary" (Example.node ⟨name, summary?, .string text⟩).children).map
      String.ofList = summary? := by
    cases given : summary? with
    | none => rfl
    | some summary =>
      have unquoted := unquote_of_unenclosed (writable.summary summary given)
      exact congrArg some ((congrArg String.ofList unquoted).trans String.ofList_toList)
  simp only [exampleOf, valued, summary, Option.getD_some, exampleValue_of_head? plain]
  exact congrArg (fun name => Except.ok (Example.mk name summary? (.string text)))
    ((congrArg String.ofList named).trans String.ofList_toList)

theorem examplesOf_node (writable : ∀ sample ∈ examples, sample.Writable) :
    examplesOf (examples.map Example.node) = .ok examples /\
      exampleWarnings (examples.map Example.node) = [] := by
  have all : ∀ node ∈ examples.map Example.node, beginsExample node = true :=
    forall_mem_map.mpr fun sample _ => rfl
  constructor
  · rw [examplesOf, filter_eq_self.mpr all, mapM_map]
    induction examples with
    | nil => rfl
    | cons first rest ih =>
      have later := ih (forall_mem_cons.mp writable).2 (forall_mem_cons.mp all).2
      rw [mapM_cons, Function.comp_apply, exampleOf_node (writable first (.head _)), later]
      rfl
  · rw [exampleWarnings, filter_eq_nil_iff.mpr fun node mem => by simp [all node mem]]
    rfl
end

section
variable {schema? : Option String} {examples : List Example}

theorem nonempty?_toList (filled : text.toList ≠ []) : nonempty? text.toList = some text := by
  rw [nonempty?, isEmpty_eq_false_iff.mpr filled, if_neg Bool.false_ne_true, String.ofList_toList]

def mediaNodes (schema? : Option String) (examples : List Example) : List Outline :=
  (schema?.toList.map fun schema => .node 0 (keyed "schema" schema) []) ++
    if examples.isEmpty then [] else [.node 0 (keyed "examples" "") (examples.map Example.node)]

def unnumberedKey (line : Nat × KeyLine) : OutlineLine := ⟨line.1, 0, line.2⟩

theorem forestLines_mediaNodes (schema? : Option String) (examples : List Example) :
    forestLines 3 (mediaNodes schema? examples) =
      (mediaLines schema? examples).map unnumberedKey := by
  have shown : forestLines 4 (examples.map Example.node) =
      (examples.flatMap Example.lines).map unnumberedKey := by
    rw [forestLines_eq_flatMap, flatMap_map, map_flatMap]
    refine flatMap_congr fun sample _ => ?_
    unfold Example.node Example.lines
    cases sample.summary? <;> rfl
  unfold mediaNodes mediaLines
  rw [forestLines_eq_flatMap, flatMap_append, map_append, apply_ite (flatMap _),
    apply_ite (map unnumberedKey), map_cons, <- shown]
  cases schema? <;> simp [Outline.preorder, forestLines, unnumberedKey]

theorem mediaPart_mediaNodes (schema : ∀ schema, schema? = some schema -> Filled schema)
    (writable : ∀ sample ∈ examples, sample.Writable) (description? : Option String)
    (contentType : String) (content : KeyLine) :
    (mediaNodes schema? examples).foldlM Draft.mediaPart ⟨description?, contentType, none, []⟩ =
        .ok ⟨description?, contentType, schema?, examples⟩ /\
      mediaWarnings (.node 0 content (mediaNodes schema? examples)) = [] := by
  obtain ⟨found, unwarned⟩ := examplesOf_node writable
  have named : (schema?.toList.map fun schema => Outline.node 0 (keyed "schema" schema) []).foldlM
      Draft.mediaPart ⟨description?, contentType, none, []⟩ =
        .ok ⟨description?, contentType, schema?, []⟩ := by
    cases schema? with
    | none => rfl
    | some name =>
      exact congrArg (fun schema? => Except.ok (Draft.mk description? contentType schema? []))
        (nonempty?_toList (schema name rfl).filled)
  have unwarnedSchema : mediaWarnings (.node 0 content
      (schema?.toList.map fun schema => .node 0 (keyed "schema" schema) [])) = [] := by
    cases schema? <;> rfl
  unfold mediaNodes
  split
  · rename_i empty
    rw [append_nil, isEmpty_iff.mp empty]
    exact ⟨named, unwarnedSchema⟩
  · have shown : Draft.mediaPart ⟨description?, contentType, schema?, []⟩
        (.node 0 (keyed "examples" "") (examples.map Example.node)) =
          (examplesOf (examples.map Example.node)).map fun found =>
            ⟨description?, contentType, schema?, found⟩ := rfl
    constructor
    · rw [foldlM_append, named]
      change Draft.mediaPart _ _ >>= _ = _
      rw [shown, found]
      rfl
    · have parts (first second : List Outline) : mediaWarnings (.node 0 content (first ++ second)) =
          mediaWarnings (.node 0 content first) ++ mediaWarnings (.node 0 content second) :=
        flatMap_append
      rw [parts, unwarnedSchema]
      exact (append_nil _).trans unwarned

theorem indented_example {sample : Example} (writable : sample.Writable) :
    ∀ line ∈ sample.lines, Indented line := by
  obtain ⟨text, isText, unenclosed, -⟩ := writable.value
  have valueText : sample.valueText = text := by rw [Example.valueText, isText]
  have nameKey : KeyText "name" := by decide
  have summaryKey : KeyText "summary" := by decide
  have valueKey : KeyText "value" := by decide
  intro line mem
  rcases mem_cons.mp mem with rfl | below
  · exact nameKey.indented writable.name.oneLine true 3
  · rcases mem_append.mp below with isSummary | isValue
    · obtain ⟨summary, given, rfl⟩ := mem_map.mp isSummary
      have oneLine := (writable.summary summary (Option.mem_toList.mp given)).oneLine
      exact summaryKey.indented oneLine false 4
    · rw [mem_singleton.mp isValue, valueText]
      exact valueKey.indented unenclosed.oneLine false 4

theorem indented_mediaLines (schema : ∀ schema, schema? = some schema -> Filled schema)
    (writable : ∀ sample ∈ examples, sample.Writable) :
    ∀ line ∈ mediaLines schema? examples, Indented line := by
  have schemaKey : KeyText "schema" := by decide
  have examplesKey : KeyText "examples" := by decide
  intro line mem
  rcases mem_append.mp mem with isSchema | isExample
  · obtain ⟨name, given, rfl⟩ := mem_map.mp isSchema
    have oneLine := (schema name (Option.mem_toList.mp given)).oneLine
    exact schemaKey.indented oneLine false 2
  · split at isExample
    · cases isExample
    · rcases mem_cons.mp isExample with rfl | inside
      · exact examplesKey.indented oneLine_nil false 2
      · obtain ⟨sample, listed, found⟩ := mem_flatMap.mp inside
        exact indented_example (writable sample listed) line found
end

section
variable {resp : Response}

theorem Response.Sayable.indented (sayable : resp.Sayable) :
    ∀ line ∈ resp.block, Indented line := by
  cases resp with
  | simple => exact forall_mem_nil _
  | elaborate status about contentType schema? examples =>
    obtain ⟨described, media, schema, writable⟩ := sayable
    have descriptionKey : KeyText "description" := by decide
    have contentKey : KeyText "content" := by decide
    refine forall_mem_cons.mpr ⟨descriptionKey.indented described.oneLine false 0,
      forall_mem_cons.mpr ⟨contentKey.indented oneLine_nil false 0,
        forall_mem_cons.mpr ⟨media.indented oneLine_nil false 1, ?_⟩⟩⟩
    exact indented_mediaLines schema writable

theorem elaborateResponse_block {status : Nat} (line : Nat)
    (sayable : (Response.elaborate status about contentType schema? examples).Sayable) :
    ∃ nodes, readOutline ((Response.elaborate status about contentType schema?
        examples).block.map fun line => ⟨0, indentedLine line⟩) = .ok nodes /\
      elaborateResponse status line nodes =
        .ok (some (.elaborate status about contentType schema? examples), []) := by
  obtain ⟨described, media, schema, writable⟩ := id sayable
  obtain ⟨said, unwarned⟩ := mediaPart_mediaNodes schema writable (some about) contentType
    (keyed contentType "")
  let mediaNode := Outline.node 0 (keyed contentType "") (mediaNodes schema? examples)
  refine ⟨[.node 0 (keyed "description" about) [],
    .node 0 (keyed "content" "") [mediaNode]], ?_, ?_⟩
  · have block : forestLines 1 [.node 0 (keyed "description" about) [],
        .node 0 (keyed "content" "") [mediaNode]] =
          (Response.elaborate status about contentType schema? examples).block.map unnumberedKey := by
      rw [Response.block, map_cons, map_cons, map_cons, <- forestLines_mediaNodes]
      simp [forestLines, Outline.preorder, mediaNode, unnumberedKey]
    have written := congrArg (map OutlineLine.line) block
    rw [map_map] at written
    refine Eq.trans (congrArg readOutline written.symm) (readOutline_line ?_)
    rw [block]
    exact forall_mem_map.mpr fun line mem => (sayable.indented line mem).content.plain
  · have drafted : [Outline.node 0 (keyed "description" about) [],
        .node 0 (keyed "content" "") [mediaNode]].foldlM Draft.part {} =
        .ok ⟨some about, contentType, schema?, examples⟩ := by
      have describes : Draft.part {} (.node 0 (keyed "description" about) []) =
          .ok { description? := some (String.ofList (unquote about.toList)) } := rfl
      have contains : ∀ draft : Draft, draft.part (.node 0 (keyed "content" "") [mediaNode]) =
          (mediaNodes schema? examples).foldlM Draft.mediaPart
            { draft with contentType := String.ofList contentType.toList } >>= pure := fun _ => rfl
      simp only [foldlM_cons, foldlM_nil, describes, contains, bind, Except.bind,
        unquote_of_unenclosed described, String.ofList_toList, said]
      rfl
    have warnings : [Outline.node 0 (keyed "description" about) [],
        .node 0 (keyed "content" "") [mediaNode]].flatMap (partWarnings status) =
        mediaWarnings mediaNode ++ [] ++ [] := rfl
    unfold elaborateResponse
    rw [drafted, warnings, unwarned]
    rfl
end
end RouteDocs.Doc
