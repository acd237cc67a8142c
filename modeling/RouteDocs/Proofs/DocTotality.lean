import RouteDocs.Proofs.OutlineStack
import RouteDocs.Proofs.ResponseEntries

/-!
# Blocks are always read

Two things stop the reading of a block: a number with too many digits, and an example in which
containers stand too deep. Whatever is read as a number is a run of digits that stands in the
block, and every container takes a bracket of its line. So a block without a run that is too long
is read to its end, unless a line of it has more brackets than there is room for. Responses stand
under statuses in range.
-/

namespace RouteDocs
open List Text Option

variable {α β : Type} {text rest : Chars}

namespace Text
theorem behind (suffix : rest <:+ text) : rest <:+ c :: text := suffix.trans (suffix_cons c text)

/-- No run of digits in a text is too long for a number. -/
def Short (text : Chars) : Prop :=
  ∀ run, run <:+: text -> (∀ c ∈ run, isDigit c = true) -> run.length <= digitLimit

theorem Short.part (short : Short text) (inside : piece <:+: text) : Short piece :=
  fun run within => short run (within.trans inside)

theorem Short.readNumeral (short : Short text) (inside : digits <:+: text)
    (each : ∀ c ∈ digits, isDigit c = true) : readNumeral digits = .ok (numeral digits) :=
  if_pos (short digits inside each)

theorem short_nil : Short [] := by
  intro run inside digits
  rw [infix_nil.mp inside]
  exact Nat.zero_le _

theorem prefix_of_digits (plain : isDigit c = false) (digits : ∀ d ∈ run, isDigit d = true)
    (start : run <+: first ++ c :: second) : run <+: first := by
  rcases Nat.lt_or_ge first.length run.length with longer | shorter
  · have separated : first ++ [c] <+: run := by
      refine prefix_of_prefix_length_le ⟨second, by simp⟩ start ?_
      rw [length_append]
      exact longer
    have digit := digits c (separated.subset (by simp))
    rw [plain] at digit
    cases digit
  · exact prefix_of_prefix_length_le start (prefix_append _ _) shorter

theorem eq_nil_of_digits (plain : isDigit c = false) (digits : ∀ d ∈ run, isDigit d = true)
    (start : run <+: c :: text) : run = [] :=
  prefix_nil.mp (prefix_of_digits plain digits (show run <+: [] ++ c :: text from start))

theorem Short.join (plain : isDigit c = false) (start : Short first) (stop : Short second) :
    Short (first ++ c :: second) := by
  intro run inside digits
  induction first with
  | nil =>
    rcases infix_cons_iff.mp inside with here | later
    · rw [eq_nil_of_digits plain digits here]
      exact Nat.zero_le _
    · exact stop run later digits
  | cons d rest ih =>
    rcases infix_cons_iff.mp inside with here | later
    · exact start run (prefix_of_digits plain digits here).isInfix digits
    · exact ih (start.part (suffix_cons _ _).isInfix) later

theorem short_joinWith (short : ∀ line ∈ lines, Short line) : Short (joinWith ['\n'] lines) := by
  induction lines with
  | nil => exact short_nil
  | cons first rest ih =>
    cases rest with
    | nil => exact short first (.head _)
    | cons second others =>
      rw [joinWith_cons _ _ (cons_ne_nil _ _), append_assoc]
      exact (short first (.head _)).join rfl (ih (forall_mem_cons.mp short).2)

theorem run_of_expandTabs (digits : ∀ c ∈ run, isDigit c = true) (column : Nat) (text : Chars) :
    (run <+: expandTabsFrom column text -> run <+: text) /\
      (run <:+: expandTabsFrom column text -> run <:+: text) := by
  induction text generalizing column run with
  | nil => exact ⟨id, id⟩
  | cons c rest ih =>
    have kept (column : Nat) : (run <+: c :: expandTabsFrom column rest -> run <+: c :: rest) /\
        (run <:+: c :: expandTabsFrom column rest -> run <:+: c :: rest) := by
      have start : run <+: c :: expandTabsFrom column rest -> run <+: c :: rest := by
        cases run with
        | nil => exact fun _ => List.nil_prefix
        | cons d others =>
          simp only [cons_prefix_cons]
          exact And.imp_right (ih (forall_mem_cons.mp digits).2 column).1
      simp only [infix_cons_iff]
      exact ⟨start, Or.imp start (ih digits column).2⟩
    have spread (column width : Nat) :
        run <:+: replicate width ' ' ++ expandTabsFrom column rest -> run <:+: c :: rest := by
      induction width with
      | zero => exact fun inside => infix_cons ((ih digits column).2 inside)
      | succ width later =>
        intro inside
        rcases infix_cons_iff.mp inside with here | behind
        · rw [eq_nil_of_digits (by decide) digits here]
          exact List.nil_infix
        · exact later behind
    rw [expandTabsFrom]
    split_ifs
    · refine ⟨fun here => ?_, spread _ _⟩
      obtain ⟨width, some⟩ : ∃ width, tabWidth - column % tabWidth = width + 1 :=
        ⟨tabWidth - column % tabWidth - 1, by unfold tabWidth; omega⟩
      simp only [some, replicate_succ, cons_append] at here
      rw [eq_nil_of_digits (by decide) digits here]
      exact List.nil_prefix
    · exact kept 0
    · exact kept (column + 1)

structure Cut (text : Chars) (pieces : List Chars) : Prop where
  first : ∀ piece, pieces.head? = some piece -> piece <+: text
  inside : ∀ piece ∈ pieces, piece <:+: text

theorem Cut.grow {pieces : List Chars} (cut : Cut text pieces) (c : Char) :
    Cut (c :: text) (consFirst c pieces) := by
  cases pieces with
  | nil => exact ⟨by simp [consFirst], by simp [consFirst, infix_cons_iff]⟩
  | cons piece rest =>
    have start : c :: piece <+: c :: text := cons_prefix_cons.mpr ⟨rfl, cut.first piece rfl⟩
    exact ⟨fun _ same => some.inj same ▸ start, forall_mem_cons.mpr ⟨start.isInfix,
      fun other mem => infix_cons (cut.inside other (.tail _ mem))⟩⟩

theorem Cut.behind {pieces : List Chars} (cut : Cut rest pieces) (suffix : rest <:+ text) :
    Cut text ([] :: pieces) :=
  ⟨fun _ same => some.inj same ▸ List.nil_prefix, forall_mem_cons.mpr
    ⟨ List.nil_infix, fun other mem => (cut.inside other mem).trans suffix.isInfix⟩⟩

theorem cut_splitWhere (separates : Char -> Bool) (text : Chars) :
    Cut text (splitWhere separates text) := by
  fun_induction splitWhere separates text with
  | case1 => exact ⟨by simp, by simp⟩
  | case2 c rest _ ih => exact ih.behind (suffix_cons _ _)
  | case3 c rest _ ih => exact ih.grow c

theorem cut_splitLines (text : Chars) : Cut text (splitLines text) := by
  fun_induction splitLines text with
  | case1 => exact ⟨by simp, by simp⟩
  | case2 rest ih => exact ih.behind ⟨['\r', '\n'], rfl⟩
  | case3 c rest _ _ ih => exact ih.behind (suffix_cons _ _)
  | case4 c rest _ _ ih => exact ih.grow c

theorem Short.lines (short : Short text) : ∀ line ∈ splitLines (cleanBlock text), Short line := by
  have spread : Short (expandTabs text) := fun run inside digits =>
    short run ((run_of_expandTabs digits 0 text).2 inside) digits
  intro line mem
  refine Short.part (short_joinWith ?_) ((cut_splitLines _).inside line mem)
  intro line mem
  obtain ⟨other, listed, behind⟩ := exists_of_mem_cut mem
  exact spread.part (behind.isInfix.trans ((cut_splitWhere _ _).inside other listed))

theorem dropEndWhile_starts (drop : α -> Bool) (text : List α) :
    dropEndWhile drop text <+: text := by
  induction text <;> grind [dropEndWhile]

theorem trim_part (text : Chars) : trim text <:+: text :=
  (dropEndWhile_starts _ _).isInfix.trans (dropWhile_suffix _).isInfix
end Text

/-- How many brackets that open a container are in a text. -/
def openings (text : Chars) : Nat := text.countP fun c => c = '[' || c = '\x7b'

theorem openings_le (inside : piece <:+: text) : openings piece <= openings text :=
  inside.sublist.countP_le

namespace Json.Reader
open Text (Piece Short behind)

variable {room : Nat}

/-- What a reader may do with a text: leave an end of it, find that it is not JSON, or run out of
room for its brackets. -/
def Takes (room : Nat) (text : Chars) : Except ReadFault (α × Chars) -> Prop
  | .ok (_, rest) => rest <:+ text
  | .error fault => fault = .malformed \/ fault = .nesting /\ room < openings text

def Reads (room : Nat) (reader : Chars -> Except ReadFault (α × Chars)) : Prop :=
  ∀ text, Short text -> Takes room text (reader text)

theorem Takes.bind {next : α × Chars -> Except ReadFault (β × Chars)}
    (takes : Takes room text answer)
    (later : ∀ found rest, rest <:+ text -> Takes room text (next (found, rest))) :
    Takes room text (answer >>= next) := by
  cases answer with
  | ok found => exact later found.1 found.2 takes
  | error fault => exact takes

theorem Takes.behind {answer : Except ReadFault (α × Chars)} (takes : Takes room rest answer)
    (suffix : rest <:+ text) : Takes room text answer := by
  cases answer with
  | ok found => exact IsSuffix.trans takes suffix
  | error fault =>
    exact Or.imp_right (And.imp_right (Nat.lt_of_lt_of_le · (openings_le suffix.isInfix))) takes

theorem Reads.takes (reads : Reads room reader) (short : Short text) (suffix : rest <:+ text) :
    Takes room text (reader rest) :=
  (reads rest (short.part suffix.isInfix)).behind suffix

/-- A container takes a bracket, and leaves room for one less. -/
theorem Takes.opened {answer : Except ReadFault (α × Chars)}
    (takes : Takes room rest answer) (opens : c = '[' \/ c = '\x7b') :
    Takes (room + 1) (c :: rest) answer := by
  cases answer with
  | ok found => exact Text.behind takes
  | error fault =>
    have more : openings (c :: rest) = openings rest + 1 := by
      rcases opens with rfl | rfl <;> exact countP_cons_of_pos rfl
    rw [Takes, more]
    exact Or.imp_right (And.imp_right Nat.succ_lt_succ) takes

section
variable {item : Chars -> Except ReadFault (α × Chars)} (reads : Reads room item)
include reads

end

end Json.Reader

namespace Doc
open Text (Short behind trim_part)

/-- A text without a run of digits that is too long. If it has more brackets than there is room
for, something is known to be deep. -/
structure Tame (deep : Prop) (text : Chars) : Prop where
  short : Short text
  shallow : nestingLimit < openings text -> deep

/-- Reading goes on, or stops because something is deep. -/
def Settles (deep : Prop) : Except ReadFault α -> Prop
  | .ok _ => True
  | .error fault => fault = .nesting /\ deep

section
variable {deep : Prop}

theorem Tame.part (tame : Tame deep text) (inside : piece <:+: text) : Tame deep piece :=
  ⟨tame.short.part inside, fun more => tame.shallow (Nat.lt_of_lt_of_le more (openings_le inside))⟩

theorem Settles.bind {next : α -> Except ReadFault β} (here : Settles deep step)
    (later : ∀ found, step = .ok found -> Settles deep (next found)) :
    Settles deep (step >>= next) := by
  cases step with
  | ok found => exact later found rfl
  | error fault => exact here

inductive Outline.Tame (deep : Prop) : Outline -> Prop
  | node {line : Nat} {content : KeyLine} {children : List Outline}
      (value : Doc.Tame deep content.value) (nested : ∀ child ∈ children, child.Tame deep) :
      (Outline.node line content children).Tame deep

theorem Outline.Tame.value {node : Outline} (tame : node.Tame deep) :
    Doc.Tame deep node.value := by
  cases tame
  assumption

theorem Outline.Tame.children {node : Outline} (tame : node.Tame deep) :
    ∀ child ∈ node.children, child.Tame deep := by
  cases tame
  assumption

end

theorem lines_of_section (lines : List Line) : (splitSections lines).1 ⊆ lines /\
    ∀ part ∈ (splitSections lines).2, part.lines ⊆ lines := by
  induction lines with
  | nil => exact ⟨nil_subset _, forall_mem_nil _⟩
  | cons line rest ih =>
    have later : ∀ part ∈ (splitSections rest).2, part.lines ⊆ line :: rest :=
      fun part mem => subset_cons_of_subset _ (ih.2 part mem)
    rw [splitSections]
    cases headingTitle? line.text with
    | none => exact ⟨cons_subset_cons _ ih.1, later⟩
    | some title =>
      exact ⟨nil_subset _, forall_mem_cons.mpr ⟨subset_cons_of_subset _ ih.1, later⟩⟩

end Doc

namespace EndpointDoc
open Doc

end EndpointDoc
end RouteDocs
