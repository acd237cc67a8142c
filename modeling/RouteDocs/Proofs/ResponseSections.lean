import RouteDocs.Proofs.LineNumbers
import RouteDocs.Proofs.Outlines

namespace RouteDocs.Doc
open List Text
open Text (OneLine isBlank)

/-!
# Reading written responses

The lines of responses fall into entries, one for each response, since nothing but the
first line of a response begins in the first column. Every entry is read by itself, and as
all statuses are different, no response takes the place of another one.
-/

section
variable {resp : Response}

def Response.entry (resp : Response) : Entry :=
  ⟨⟨0, resp.headLine⟩, resp.block.map fun line => ⟨0, indentedLine line⟩⟩

structure Reads (resp : Response) (bullet : ResponseEntry) : Prop where
  status : (bullet.status : Int) = resp.status
  read : bullet.read = .ok (some resp, [])

theorem exists_status {status : Int} (range : 100 <= status /\ status <= 599) :
    ∃ n : Nat, status = n /\ n <= 599 /\ Http.isStatus n = true := by
  refine ⟨status.toNat, by omega, by omega, ?_⟩
  simp only [Http.isStatus, Bool.and_eq_true, decide_eq_true_eq]
  omega

theorem readNumeral_toDigits (small : n <= 599) : readNumeral (Nat.toDigits 10 n) = .ok n := by
  have short : (Nat.toDigits 10 n).length <= 3 :=
    (Nat.length_toDigits_le_iff (by omega) (by omega)).mpr (by omega)
  have limit : (Nat.toDigits 10 n).length <= digitLimit := Nat.le_trans short (by decide)
  rw [readNumeral, if_pos limit, numeral_toDigits]

theorem response?_statusLine {n : Nat} (small : n <= 599) (oneLine : OneLine about.toList)
    (body : List Line) :
    Entry.response? ⟨⟨0, statusLine n about⟩, body⟩ = .ok (some ⟨0, n, about.toList, body⟩) /\
      Entry.warnings ⟨⟨0, statusLine n about⟩, body⟩ = [] := by
  have bullet := responseBullet?_statusLine (n := n) oneLine
  constructor
  · simp only [Entry.response?, bullet, readNumeral_toDigits small, bind, Except.bind]
    rfl
  · simp only [Entry.warnings, bullet]

theorem Response.Writable.reads (writable : resp.Writable) : ∃ bullet,
    resp.entry.response? = .ok (some bullet) /\ resp.entry.warnings = [] /\ Reads resp bullet := by
  obtain ⟨range, sayable⟩ := writable
  cases resp with
  | simple status about =>
    obtain ⟨n, rfl, small, isStatus⟩ := exists_status range
    have heard := response?_statusLine small sayable.oneLine
    refine ⟨_, (heard _).1, (heard _).2, rfl, ?_⟩
    have filled : about.toList.isEmpty = false := isEmpty_eq_false_iff.mpr sayable.filled
    simp only [ResponseEntry.read, isStatus, filled, Bool.not_true, Bool.not_false,
      Bool.false_eq_true, if_false, if_true, String.ofList_toList]
    rfl
  | elaborate status about contentType schema? examples =>
    obtain ⟨n, rfl, small, isStatus⟩ := exists_status range
    have heard := response?_statusLine small (show OneLine "".toList from oneLine_nil)
    refine ⟨_, (heard _).1, (heard _).2, rfl, ?_⟩
    obtain ⟨nodes, outlined, elaborated⟩ := elaborateResponse_block 0 sayable
    have empty : "".toList.isEmpty = true := rfl
    simp only [ResponseEntry.read, isStatus, empty, Bool.not_true, Bool.false_eq_true, if_false,
      outlined, elaborated]

theorem headLine_eq_cons (resp : Response) : ∃ rest, resp.headLine = '-' :: rest := by
  cases resp <;> exact ⟨_, rfl⟩

theorem splitEntries_append {written : List (Nat × KeyLine)}
    (indented : ∀ line ∈ written, Indented line) (split : splitEntries rest = ([], entries)) :
    splitEntries ((written.map fun line => ⟨0, indentedLine line⟩) ++ rest) =
      (written.map fun line => ⟨0, indentedLine line⟩, entries) := by
  induction written with
  | nil => exact split
  | cons first others ih =>
    have deep := indented first (.head _)
    have spaced : isIndented ⟨0, indentedLine first⟩ = true := by
      rw [isIndented, deep.head?]
      rfl
    rw [map_cons, cons_append, splitEntries, ih (forall_mem_cons.mp indented).2]
    simp only [deep.isBlankText_eq, spaced, Bool.false_eq_true, if_false, if_true]

theorem splitEntries_of_blank (blank : ∀ line ∈ lines, isBlankText line.text = true) :
    splitEntries lines = ([], []) := by
  induction lines with
  | nil => rfl
  | cons first rest ih =>
    have later := ih (forall_mem_cons.mp blank).2
    rw [splitEntries, later]
    simp only [blank first (.head _), if_true]

theorem splitEntries_append_flush (front : List Line) (flush : (splitEntries back).1 = []) :
    splitEntries (front ++ back) =
      ((splitEntries front).1, (splitEntries front).2 ++ (splitEntries back).2) := by
  induction front with
  | nil => rw [nil_append, splitEntries, <- flush]; rfl
  | cons line rest ih =>
    simp only [cons_append, splitEntries, ih]
    split_ifs <;> rfl

theorem readResponses_append_blank (lines : List Line)
    (blank : ∀ line ∈ blanks, isBlankText line.text = true) :
    readResponses (lines ++ blanks) = readResponses lines := by
  have unseen : blanks.filter (fun line => !isBlankText line.text) = [] := by
    rw [filter_eq_nil_iff]
    intro line mem
    rw [blank line mem]
    exact Bool.false_ne_true
  have entries (margin : Nat) : splitEntries (blanks.map fun line =>
      { line with text := line.text.drop margin }) = ([], []) := by
    refine splitEntries_of_blank (forall_mem_map.mpr fun line mem => ?_)
    exact all_eq_true.mpr fun c inside => all_eq_true.mp (blank line mem) c (mem_of_mem_drop inside)
  have split : splitEntries (cutSpaces (lines ++ blanks)) = splitEntries (cutSpaces lines) := by
    simp only [cutSpaces, filter_append, unseen, append_nil, map_append]
    rw [splitEntries_append_flush _ (by rw [entries]), entries, append_nil]
  rw [readResponses, split, readResponses]

theorem splitEntries_lines {resps : List Response} (writable : ∀ resp ∈ resps, resp.Writable) :
    splitEntries (unnumbered (resps.flatMap Response.lines)) = ([], resps.map Response.entry) := by
  induction resps with
  | nil => rfl
  | cons first rest ih =>
    have regroup : unnumbered ((first :: rest).flatMap Response.lines) = first.entry.head ::
        ((first.block.map fun line => ⟨0, indentedLine line⟩) ++
          unnumbered (rest.flatMap Response.lines)) := by
      rw [flatMap_cons, unnumbered, map_append, Response.lines, map_cons, map_map]
      rfl
    obtain ⟨tail, begins⟩ := headLine_eq_cons first
    have visible : isBlankText first.entry.head.text = false := by
      rw [Response.entry, begins]
      rfl
    have unindented : isIndented first.entry.head = false := by
      rw [isIndented, Response.entry, begins]
      rfl
    rw [regroup, splitEntries, splitEntries_append (writable first (.head _)).sayable.indented
      (ih (forall_mem_cons.mp writable).2)]
    simp only [visible, unindented, Bool.false_eq_true, if_false]
    rfl
end

section
variable {resps : List Response} {known all : OrderedMap Int Response}

theorem cutSpaces_of_head? (mem : line ∈ lines) (found : line.text.head? = some c)
    (visible : isBlank c = false) : cutSpaces lines = lines := by
  obtain ⟨rest, text⟩ := head?_eq_some_iff.mp found
  have ne : (c == ' ') = false := by
    apply beq_eq_false_iff_ne.mpr
    rintro rfl
    cases visible
  have shown : isBlankText line.text = false := by
    rw [text, isBlankText, all_cons, visible, Bool.false_and]
  have unindented : leadingSpaces line.text = 0 := by
    rw [text, leadingSpaces, takeWhile_cons, ne, if_neg Bool.false_ne_true]
    rfl
  have margin : ((lines.filter fun line => !isBlankText line.text).map fun line =>
      leadingSpaces line.text).min? = some 0 := by
    rw [min?_eq_some_iff]
    refine ⟨mem_map.mpr ⟨line, mem_filter.mpr ⟨mem, ?_⟩, unindented⟩, fun _ _ => Nat.zero_le _⟩
    rw [shown]
    rfl
  simp only [cutSpaces, margin, Option.getD_some, drop_zero, map_id']

theorem exists_bullets (writable : ∀ resp ∈ resps, resp.Writable) :
    ∃ bullets, (resps.map Response.entry).mapM Entry.response? = .ok (bullets.map some) /\
      (resps.map Response.entry).flatMap Entry.warnings = [] /\
      List.Forall₂ Reads resps bullets := by
  induction resps with
  | nil => exact ⟨[], rfl, rfl, .nil⟩
  | cons resp rest ih =>
    obtain ⟨bullet, found, unwarned, reads⟩ := (writable resp (.head _)).reads
    obtain ⟨bullets, foundAll, unwarnedAll, readsAll⟩ := ih (forall_mem_cons.mp writable).2
    refine ⟨bullet :: bullets, ?_, ?_, .cons reads readsAll⟩
    · rw [map_cons, mapM_cons, found, foundAll]
      rfl
    · rw [map_cons, flatMap_cons, unwarned, unwarnedAll, append_nil]

def byStatus (resps : List Response) : List (Int × Response) :=
  resps.map fun resp => (resp.status, resp)

theorem addAll_of_reads (reads : List.Forall₂ Reads resps bullets)
    (entries : all.entries = known.entries ++ byStatus resps) :
    Collected.addAll ⟨known, []⟩ bullets = .ok ⟨all, []⟩ := by
  induction reads generalizing known with
  | nil =>
    have same : all = known := OrderedMap.eq_of_entries (entries.trans (append_nil _))
    rw [same]
    rfl
  | @cons resp bullet resps bullets here _ ih =>
    obtain ⟨fresh, further⟩ := OrderedMap.insert_next entries
    have added : Collected.add ⟨known, []⟩ bullet (some resp, []) =
        ⟨known.insert resp.status resp, []⟩ := by
      simp only [Collected.add, here.status, OrderedMap.contains, fresh, Option.isSome_none,
        Bool.false_eq_true, if_false, append_nil]
    rw [Collected.addAll, here.read]
    simp only [bind, Except.bind, added, ih further]

theorem mergeResponses_of_entries (entries : all.entries = known.entries ++ added)
    (warnings : List Warning) : mergeResponses known warnings added = (all, warnings) := by
  induction added generalizing known with
  | nil =>
    have same : all = known := OrderedMap.eq_of_entries (entries.trans (append_nil _))
    rw [same]
    rfl
  | cons first rest ih =>
    obtain ⟨status, resp⟩ := first
    obtain ⟨fresh, further⟩ := OrderedMap.insert_next entries
    simp only [mergeResponses, OrderedMap.contains, fresh, Option.isSome_none, Bool.false_eq_true,
      if_false, ih further]

theorem readResponses_lines (entries : all.entries = byStatus resps) (present : resps ≠ [])
    (writable : ∀ resp ∈ resps, resp.Writable) :
    readResponses (unnumbered (resps.flatMap Response.lines)) = .ok ⟨all, []⟩ := by
  obtain ⟨bullets, found, unwarned, reads⟩ := exists_bullets writable
  have added : Collected.addAll {} bullets = .ok ⟨all, []⟩ := addAll_of_reads reads entries
  -- The first line is the bullet of the first response.
  have uncut : cutSpaces (unnumbered (resps.flatMap Response.lines)) =
      unnumbered (resps.flatMap Response.lines) := by
    obtain ⟨first, rest, rfl⟩ := exists_cons_of_ne_nil present
    obtain ⟨tail, begins⟩ := headLine_eq_cons first
    refine cutSpaces_of_head? (show first.entry.head ∈ _ from .head _) (c := '-') ?_ rfl
    rw [Response.entry, begins]
    rfl
  have bulletsOf : (bullets.map some).filterMap id = bullets := by
    rw [filterMap_map]
    exact filterMap_some
  simp only [readResponses, uncut, splitEntries_lines writable, found, bind, Except.bind, bulletsOf,
    added, unwarned, map_nil, nil_append]
  rfl
end
end RouteDocs.Doc
