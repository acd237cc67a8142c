import Mathlib.Data.List.Basic
import RouteDocs.Doc.Block

/-!
# Line numbers

The numbers of the lines are handed on and never looked at: with other numbers the same is read,
and the warnings have the other numbers.
-/

namespace RouteDocs
open List Text Function Doc
namespace Doc
open Outline

section
variable (renumber : Nat -> Nat)

def Line.renumbered (line : Line) : Line := { line with number := renumber line.number }

def OutlineLine.renumbered (line : OutlineLine) : OutlineLine :=
  { line with number := renumber line.number }

def Outline.renumbered : Outline -> Outline
  | .node line content children => .node (renumber line) content (children.map renumbered)

def Warning.renumbered (warning : Warning) : Warning :=
  { warning with line := renumber warning.line.toNat }

def Entry.renumbered (entry : Entry) : Entry :=
  ⟨entry.head.renumbered renumber, entry.body.map (Line.renumbered renumber)⟩

def ResponseEntry.renumbered (bullet : ResponseEntry) : ResponseEntry :=
  { bullet with
    line := renumber bullet.line
    body := bullet.body.map (Line.renumbered renumber) }

def Collected.renumbered (collected : Collected) : Collected :=
  { collected with warnings := collected.warnings.map (Warning.renumbered renumber) }

theorem Outline.renumbered_eq (node : Outline) :
    (node.renumbered renumber).line = renumber node.line /\
      (node.renumbered renumber).key = node.key /\ (node.renumbered renumber).value = node.value /\
      (node.renumbered renumber).children = node.children.map (renumbered renumber) := by
  cases node
  rw [renumbered]
  exact ⟨rfl, rfl, rfl, rfl⟩

theorem beginsExample_renumbered (node : Outline) :
    beginsExample (node.renumbered renumber) = beginsExample node := by
  simp only [beginsExample, renumbered_eq]

theorem part_renumbered (draft : Draft) (node : Outline) :
    draft.part (node.renumbered renumber) = draft.part node := by
  have given (key : String) (nodes : List Outline) :
      attribute? key (nodes.map (renumbered renumber)) = attribute? key nodes := by
    simp only [attribute?, <- map_reverse, find?_map, Option.map_map, Function.comp_def,
      renumbered_eq]
  have single (node : Outline) : exampleOf (node.renumbered renumber) = exampleOf node := by
    simp only [exampleOf, renumbered_eq, given]
  have examples (nodes : List Outline) :
      examplesOf (nodes.map (renumbered renumber)) = examplesOf nodes := by
    simp only [examplesOf, filter_map, beginsExample_renumbered, mapM_map, comp_def, single]
  have mediaPart (draft : Draft) (node : Outline) :
      draft.mediaPart (node.renumbered renumber) = draft.mediaPart node := by
    simp only [Draft.mediaPart, renumbered_eq, examples]
  have media (draft : Draft) (node : Outline) :
      draft.media (node.renumbered renumber) = draft.media node := by
    simp only [Draft.media, renumbered_eq, foldlM_map, mediaPart]
  simp only [Draft.part, renumbered_eq, foldlM_map, media, mediaPart]

theorem partWarnings_renumbered (status : Nat) (node : Outline) :
    partWarnings status (node.renumbered renumber) =
      (partWarnings status node).map (Warning.renumbered renumber) := by
  have examples (nodes : List Outline) : exampleWarnings (nodes.map (renumbered renumber)) =
      (exampleWarnings nodes).map (Warning.renumbered renumber) := by
    simp only [exampleWarnings, filter_map, comp_def, beginsExample_renumbered,
      map_map, renumbered_eq]
    rfl
  have media (node : Outline) : mediaWarnings (node.renumbered renumber) =
      (mediaWarnings node).map (Warning.renumbered renumber) := by
    simp only [mediaWarnings, renumbered_eq, flatMap_map, map_flatMap, examples]
    congr 1
    funext child
    split_ifs <;> rfl
  simp only [partWarnings, renumbered_eq, flatMap_map, media, examples]
  split_ifs <;> first | rfl | simp only [map_flatMap]

theorem outlineLines_renumbered (prev : Nat) (lines : List Line) :
    outlineLines prev (lines.map (Line.renumbered renumber)) =
      ((outlineLines prev lines).map (List.map (OutlineLine.renumbered renumber))).mapError
        (Warning.renumbered renumber) := by
  have one (prev : Nat) (line : Line) : outlineLine prev (line.renumbered renumber) =
      ((outlineLine prev line).map (OutlineLine.renumbered renumber)).mapError
        (Warning.renumbered renumber) := by
    unfold Line.renumbered outlineLine
    dsimp only
    split_ifs
    · rfl
    · rfl
    · cases keyLine? (trim line.text) <;> rfl
  induction lines generalizing prev with
  | nil => rfl
  | cons line rest ih =>
    rw [map_cons, outlineLines, one, outlineLines]
    cases outlineLine prev line with
    | error warning => rfl
    | ok first =>
      change (outlineLines first.level (rest.map (Line.renumbered renumber)) >>= _) = _
      rw [ih]
      cases later : outlineLines first.level rest <;>
        (simp only [bind, Except.bind, later]; rfl)

theorem outlineOf_renumbered (lines : List OutlineLine) :
    outlineOf (lines.map (OutlineLine.renumbered renumber)) =
      (outlineOf lines).map (renumbered renumber) := by
  have nested : (lines.map (OutlineLine.renumbered renumber)).foldr nest [] =
      (lines.foldr nest []).map fun piece => (piece.1, piece.2.renumbered renumber) := by
    induction lines with
    | nil => rfl
    | cons line rest ih =>
      rw [map_cons, foldr_cons, foldr_cons, ih]
      simp only [nest, takeWhile_map, dropWhile_map, map_cons, map_map, renumbered]
      rfl
  rw [outlineOf, nested, outlineOf, map_map, map_map]
  rfl

theorem read_renumbered (bullet : ResponseEntry) : (bullet.renumbered renumber).read =
      bullet.read.map (Prod.map id (List.map (Warning.renumbered renumber))) := by
  simp only [ResponseEntry.read, ResponseEntry.renumbered, readOutline, outlineLines_renumbered]
  split_ifs
  · rfl
  · cases bullet.body <;> rfl
  · cases outlineLines 0 bullet.body with
    | error warning => rfl
    | ok lines =>
      simp only [Except.map, Except.mapError, outlineOf_renumbered, elaborateResponse,
        foldlM_map, part_renumbered, flatMap_map, partWarnings_renumbered]
      cases List.foldlM Draft.part ({} : Draft) (outlineOf lines) with
      | error overflow => rfl
      | ok draft =>
        simp only [bind, Except.bind]
        cases draft.description? <;>
          simp only [pure, Except.pure, Prod.map, id, map_append, map_flatMap]
        rfl

theorem response?_renumbered (entry : Entry) : (entry.renumbered renumber).response? =
      entry.response?.map (Option.map (ResponseEntry.renumbered renumber)) := by
  simp only [Entry.response?, Entry.renumbered, Line.renumbered]
  cases responseBullet? entry.head.text with
  | none => rfl
  | some bullet =>
    dsimp only
    cases readNumeral bullet.digits <;> rfl

theorem splitEntries_renumbered (lines : List Line) :
    splitEntries (lines.map (Line.renumbered renumber)) =
      ((splitEntries lines).1.map (Line.renumbered renumber),
        (splitEntries lines).2.map (Entry.renumbered renumber)) := by
  induction lines with
  | nil => rfl
  | cons line rest ih =>
    simp only [map_cons, splitEntries, ih]
    have blank : isBlankText (line.renumbered renumber).text = isBlankText line.text := rfl
    have indented : isIndented (line.renumbered renumber) = isIndented line := rfl
    rw [blank, indented]
    split_ifs <;> rfl

theorem splitSections_renumbered (lines : List Line) :
    splitSections (lines.map (Line.renumbered renumber)) =
      ((splitSections lines).1.map (Line.renumbered renumber), (splitSections lines).2.map
        fun part => { part with lines := part.lines.map (Line.renumbered renumber) }) := by
  induction lines with
  | nil => rfl
  | cons line rest ih =>
    rw [map_cons, splitSections, ih, splitSections]
    have same : (line.renumbered renumber).text = line.text := rfl
    rw [same]
    cases headingTitle? line.text <;> rfl

theorem addAll_renumbered (collected : Collected) (bullets : List ResponseEntry) :
    (collected.renumbered renumber).addAll (bullets.map (ResponseEntry.renumbered renumber)) =
      (collected.addAll bullets).map (Collected.renumbered renumber) := by
  induction bullets generalizing collected with
  | nil => rfl
  | cons bullet rest ih =>
    rw [map_cons, Collected.addAll, read_renumbered, Collected.addAll]
    rcases bullet.read with overflow | ⟨response?, warnings⟩
    · rfl
    · have added : (collected.renumbered renumber).add (bullet.renumbered renumber)
          (response?, warnings.map (Warning.renumbered renumber)) =
            (collected.add bullet (response?, warnings)).renumbered renumber := by
        cases response? with
        | none => simp [Collected.add, Collected.renumbered]
        | some resp =>
          simp only [Collected.add, Collected.renumbered, ResponseEntry.renumbered,
            map_append, apply_ite (map (Warning.renumbered renumber))]
          rfl
      refine Eq.trans ?_ (ih _)
      rw [<- added]
      rfl

theorem readResponses_renumbered (lines : List Line) :
    readResponses (lines.map (Line.renumbered renumber)) =
      (readResponses lines).map (Collected.renumbered renumber) := by
  have cut : cutSpaces (lines.map (Line.renumbered renumber)) =
      (cutSpaces lines).map (Line.renumbered renumber) := by
    simp only [cutSpaces, filter_map, map_map, Function.comp_def, Line.renumbered]
  rw [readResponses, cut, splitEntries_renumbered, readResponses]
  rcases splitEntries (cutSpaces lines) with ⟨indented, entries⟩
  have asked : (entries.map (Entry.renumbered renumber)).mapM Entry.response? =
      (entries.mapM Entry.response?).map
        (map (Option.map (ResponseEntry.renumbered renumber))) := by
    induction entries with
    | nil => rfl
    | cons entry rest ih =>
      rw [map_cons, mapM_cons, mapM_cons, ih, response?_renumbered]
      cases entry.response? <;> cases rest.mapM Entry.response? <;> rfl
  have noted : (entries.map (Entry.renumbered renumber)).flatMap Entry.warnings =
      (entries.flatMap Entry.warnings).map (Warning.renumbered renumber) := by
    rw [flatMap_map, map_flatMap]
    refine congrArg (flatMap · entries) (funext fun entry => ?_)
    simp only [Entry.warnings, Entry.renumbered, Line.renumbered]
    cases responseBullet? entry.head.text <;> rfl
  dsimp only
  rw [asked, noted]
  cases entries.mapM Entry.response? with
  | error overflow => rfl
  | ok bullets =>
    have found : (bullets.map (Option.map (ResponseEntry.renumbered renumber))).filterMap id =
        (bullets.filterMap id).map (ResponseEntry.renumbered renumber) := by
      rw [filterMap_map, map_filterMap]
      rfl
    have added : ({} : Collected).addAll
        ((bullets.filterMap id).map (ResponseEntry.renumbered renumber)) = _ :=
      addAll_renumbered renumber {} (bullets.filterMap id)
    simp only [Except.map, bind, Except.bind, found, added]
    cases Collected.addAll {} (bullets.filterMap id) with
    | error overflow => rfl
    | ok collected =>
      simp only [pure, Except.pure, Collected.renumbered, map_append, map_map]
      rfl
end

def unnumbered (texts : List Chars) : List Line := texts.map (Line.mk 0)

theorem map_text_numberLines (start : Nat) (texts : List Chars) :
    (numberLines start texts).map Line.text = texts := by
  induction texts generalizing start with
  | nil => rfl
  | cons first rest ih => rw [numberLines, map_cons, ih]

def Section.bared (part : Section) : Section :=
  { part with lines := part.lines.map (Line.renumbered fun _ => 0) }
end Doc

def EndpointDoc.bared (doc : EndpointDoc) : EndpointDoc :=
  { doc with warnings := doc.warnings.map (Warning.renumbered fun _ => 0) }

namespace Doc
theorem mergeResponses_bared (responses : OrderedMap Int Response) (warnings : List Warning)
    (added : List (Int × Response)) :
    mergeResponses responses (warnings.map (Warning.renumbered fun _ => 0)) added =
      ((mergeResponses responses warnings added).1,
        (mergeResponses responses warnings added).2.map (Warning.renumbered fun _ => 0)) := by
  induction added generalizing responses warnings with
  | nil => rfl
  | cons first rest ih =>
    rw [mergeResponses, mergeResponses, <- ih]
    split
    · rw [map_append]
      rfl
    · rfl

theorem addSection_bared (doc : EndpointDoc) (part : Section) : addSection doc.bared part.bared =
      (addSection doc part).map EndpointDoc.bared := by
  unfold addSection Section.bared EndpointDoc.bared
  dsimp only
  split_ifs
  · have noted (line : Line) : parameterWarnings (line.renumbered fun _ => 0) =
        (parameterWarnings line).map (Warning.renumbered fun _ => 0) := by
      unfold parameterWarnings Line.renumbered
      dsimp only
      split_ifs
      · rfl
      · split
        · rfl
        · split <;> rfl
    simp only [Except.map, filterMap_map, flatMap_map, map_append, map_flatMap, noted]
    rfl
  · simp only [Except.map, readRequestBody, map_map]
    rfl
  · have trimmed : (part.lines.map (Line.renumbered fun _ => 0)).map (fun line : Line =>
        { line with text := trimEnd line.text }) = (part.lines.map fun line =>
          { line with text := trimEnd line.text }).map (Line.renumbered fun _ => 0) := by
      rw [map_map, map_map]
      rfl
    rw [trimmed, readResponses_renumbered]
    cases readResponses (part.lines.map fun line => { line with text := trimEnd line.text }) with
    | error overflow => rfl
    | ok collected =>
      have merged := mergeResponses_bared doc.responses
        (doc.warnings ++ collected.warnings) collected.responses.entries
      rw [map_append] at merged
      simp only [Except.map, Collected.renumbered, bind, Except.bind, pure, Except.pure, merged]
  · simp only [Except.map, sectionText, map_map]
    rfl

theorem foldlM_bared (parts : List Section) (doc : EndpointDoc) :
    (parts.map Section.bared).foldlM addSection doc.bared =
      (parts.foldlM addSection doc).map EndpointDoc.bared := by
  induction parts generalizing doc with
  | nil => rfl
  | cons part rest ih =>
    rw [map_cons, foldlM_cons, foldlM_cons, addSection_bared]
    cases addSection doc part with
    | error overflow => rfl
    | ok post => exact ih post

def opening (preamble : List Line) : EndpointDoc :=
  { summary := (readPreamble preamble).1, description := (readPreamble preamble).2 }

def reading (lines : List Line) : Except ReadFault EndpointDoc :=
  (splitSections lines).2.foldlM addSection (opening (splitSections lines).1)

theorem ofLines_bared (texts : List Chars) :
    (EndpointDoc.ofLines texts).map EndpointDoc.bared = reading (unnumbered texts) := by
  have bared : unnumbered texts = (numberLines 1 texts).map (Line.renumbered fun _ => 0) := by
    rw [unnumbered, <- map_text_numberLines 1 texts, map_map, map_text_numberLines]
    rfl
  rw [bared, reading, splitSections_renumbered]
  refine (foldlM_bared _ _).symm.trans ?_
  have start (preamble : List Line) :
      opening (preamble.map (Line.renumbered fun _ => 0)) = opening preamble := by
    simp only [opening, readPreamble, map_map]
    rfl
  rw [start]
  rfl

/-- What is read without a warning does not depend on the numbers of the lines. -/
theorem eq_of_bared {read : Except ReadFault EndpointDoc} (silent : doc.warnings = [])
    (bared : read.map EndpointDoc.bared = .ok doc) : read = .ok doc := by
  cases read with
  | error overflow => cases bared
  | ok found =>
    cases bared
    have nothing : found.warnings = [] := map_eq_nil_iff.mp silent
    rw [EndpointDoc.bared, nothing, map_nil, <- nothing]
end Doc
end RouteDocs
