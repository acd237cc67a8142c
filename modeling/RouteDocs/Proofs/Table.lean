import RouteDocs.Proofs.Agreement

namespace RouteDocs.Schema
open List

/-!
# What a table holds

The first node and the first status map of a name stay, and a name is recorded as a conflict when
something different comes later. `Table.Holds` compares a table with the list of all definitions
that were made. Since agreement is an equivalence, of any two that differ one has been noticed to
differ from the first. Definitions that were made before may be added to the list without touching
the table, which is all that the memo of the synthesis does.
-/

namespace Table
variable (table : Table) (name : String)

theorem mem_conflicts_recordConflict (other : String) :
    other ∈ (table.recordConflict name).conflicts ↔ other ∈ table.conflicts \/ other = name := by
  unfold recordConflict
  split
  · rename_i present
    constructor
    · exact .inl
    · rintro (known | rfl)
      · exact known
      · exact present
  · simp only [mem_append, mem_singleton]

theorem mem_conflicts_define (node : Node) (other : String) :
    other ∈ (table.define name node).1.conflicts ↔ other ∈ table.conflicts \/
        (other = name /\ ∃ known, table.get? name = some known /\ known.same node = false) := by
  rw [define_node]
  cases known : table.get? name with
  | none => simp
  | some first =>
    cases same : first.same node with
    | true => simp [same]
    | false => simp [same, mem_conflicts_recordConflict]

theorem mem_conflicts_defineStatuses (codes : StatusMap) (other : String) :
    other ∈ (table.defineStatuses name codes).1.conflicts ↔ other ∈ table.conflicts \/
        (other = name /\ ∃ known, table.statusMap? name = some known /\
          known.same codes = false) := by
  unfold defineStatuses
  cases known : table.statusMap? name with
  | none => simp
  | some first =>
    cases same : first.same codes with
    | true => simp [same]
    | false => simp [same, mem_conflicts_recordConflict]

/-! What a definition does not touch. -/

@[simp] theorem statusMaps_recordConflict :
    (table.recordConflict name).statusMaps = table.statusMaps := by
  unfold recordConflict
  split <;> rfl

@[simp] theorem schemas_recordConflict : (table.recordConflict name).schemas = table.schemas := by
  unfold recordConflict
  split <;> rfl

@[simp] theorem warnings_recordConflict : (table.recordConflict name).warnings = table.warnings := by
  unfold recordConflict
  split <;> rfl

@[simp] theorem frozen_recordConflict : (table.recordConflict name).frozen = table.frozen := by
  unfold recordConflict
  split <;> rfl

theorem get?_define (node : Node) (other : String) : (table.define name node).1.get? other =
      (table.get? other).or (if name = other then some node else none) := by
  have schemas : (table.define name node).1.schemas =
      if table.contains name then table.schemas else table.schemas.insert name node := by
    rw [define_node, show table.contains name = (table.get? name).isSome from rfl]
    cases table.get? name with
    | none => rfl
    | some first => cases same : first.same node <;> simp [same]
  rw [get?, schemas]
  exact table.schemas.get?_insert_new name other node

theorem statusMap?_defineStatuses (codes : StatusMap) (other : String) :
    (table.defineStatuses name codes).1.statusMap? other =
      (table.statusMap? other).or (if name = other then some codes else none) := by
  have maps : (table.defineStatuses name codes).1.statusMaps =
      if table.statusMaps.contains name then table.statusMaps
      else table.statusMaps.insert name codes := by
    rw [defineStatuses, OrderedMap.contains, <- statusMap?]
    cases table.statusMap? name with
    | none => rfl
    | some first => cases same : first.same codes <;> simp [same]
  rw [statusMap?, maps]
  exact table.statusMaps.get?_insert_new name other codes

theorem define_frame (node : Node) : (table.define name node).1.statusMaps = table.statusMaps /\
      (table.define name node).1.warnings = table.warnings /\
      (table.define name node).1.frozen = table.frozen := by
  rw [define_node]
  cases table.get? name with
  | none => exact ⟨rfl, rfl, rfl⟩
  | some first =>
    cases same : first.same node <;> simp [same]

theorem defineStatuses_frame (codes : StatusMap) :
    (table.defineStatuses name codes).1.schemas = table.schemas /\
      (table.defineStatuses name codes).1.warnings = table.warnings /\
      (table.defineStatuses name codes).1.frozen = table.frozen := by
  unfold defineStatuses
  cases table.statusMap? name with
  | none => exact ⟨rfl, rfl, rfl⟩
  | some first =>
    cases same : first.same codes <;> simp [same]
end Table

def Table.enterStatuses (table : Table) (defn : Definition) : Table :=
  match defn.statuses? with
  | none => table
  | some codes => (table.defineStatuses defn.name codes).1

def Table.enter (table : Table) (defn : Definition) : Table :=
  ((table.enterStatuses defn).define defn.name defn.node).1

section
variable (table : Table) (defn : Definition)

theorem Table.enterStatuses_frame : (table.enterStatuses defn).schemas = table.schemas /\
      (table.enterStatuses defn).warnings = table.warnings /\
      (table.enterStatuses defn).frozen = table.frozen := by
  unfold enterStatuses
  split
  · exact ⟨rfl, rfl, rfl⟩
  · exact table.defineStatuses_frame _ _

theorem Table.get?_enter (other : String) : (table.enter defn).get? other =
      (table.get? other).or (if defn.name = other then some defn.node else none) := by
  unfold enter
  rw [get?_define, get?, (table.enterStatuses_frame defn).1]
  rfl

theorem Table.statusMap?_enter (other : String) : (table.enter defn).statusMap? other =
      (table.statusMap? other).or (if defn.name = other then defn.statuses? else none) := by
  unfold enter
  rw [statusMap?, (define_frame _ _ _).1]
  change (table.enterStatuses defn).statusMap? other = _
  unfold enterStatuses
  cases defn.statuses? with
  | none => simp only [ite_self, Option.or_none]
  | some codes => exact table.statusMap?_defineStatuses defn.name codes other

theorem Table.enter_frame : (table.enter defn).warnings = table.warnings /\
      (table.enter defn).frozen = table.frozen := by
  have node := (table.enterStatuses defn).define_frame defn.name defn.node
  have codes := table.enterStatuses_frame defn
  exact ⟨node.2.1.trans codes.2.1, node.2.2.trans codes.2.2⟩

theorem Table.mem_conflicts_enter (other : String) : other ∈ (table.enter defn).conflicts ↔
      other ∈ table.conflicts \/ (other = defn.name /\
        ((∃ known, table.get? defn.name = some known /\ known.same defn.node = false) \/
          ∃ codes, defn.statuses? = some codes /\ ∃ known, table.statusMap? defn.name = some known /\
              known.same codes = false)) := by
  have sameNodes : (table.enterStatuses defn).get? defn.name = table.get? defn.name := by
    rw [get?, (table.enterStatuses_frame defn).1]
    rfl
  unfold enter
  rw [mem_conflicts_define, sameNodes]
  unfold enterStatuses
  cases defn.statuses? with
  | none => simp
  | some codes =>
    simp only [mem_conflicts_defineStatuses, Option.some.injEq, exists_eq_left', and_or_left,
      or_assoc]
    exact or_congr_right or_comm
end

/-- Two definitions differ in their nodes, or both have statuses and differ there. -/
def Definition.Disagrees (first second : Definition) : Prop := first.node ≠ second.node \/
    ∃ one other, first.statuses? = some one /\ second.statuses? = some other /\
      ∃ status, one.get? status ≠ other.get? status

def Conflicting (defns : List Definition) (name : String) : Prop :=
  ∃ first ∈ defns, ∃ second ∈ defns, first.name = name /\ second.name = name /\ first.Disagrees second

def firstNode? (defns : List Definition) (name : String) : Option Node :=
  (defns.find? fun defn => defn.name = name).map Definition.node

def firstPart? {α : Type} (part : Definition -> Option α) (defns : List Definition)
    (name : String) : Option α :=
  defns.findSome? fun defn =>
    if defn.name = name then part defn else none

def firstStatuses? (defns : List Definition) (name : String) : Option StatusMap :=
  firstPart? Definition.statuses? defns name

structure Table.Holds (table : Table) (defns : List Definition) : Prop where
  schemas : ∀ name, table.get? name = firstNode? defns name
  statuses : ∀ name, table.statusMap? name = firstStatuses? defns name
  conflicts : ∀ name, name ∈ table.conflicts ↔ Conflicting defns name

variable {first defn last : Definition} {defns : List Definition} {name : String}

theorem Definition.Disagrees.symm (differ : first.Disagrees second) : second.Disagrees first := by
  rcases differ with nodes | ⟨one, other, atFirst, atSecond, status, ne⟩
  · exact .inl (Ne.symm nodes)
  · exact .inr ⟨other, one, atSecond, atFirst, status, Ne.symm ne⟩

theorem Definition.not_disagrees_self (defn : Definition) : ¬ defn.Disagrees defn := by
  rintro (nodes | ⟨one, other, atFirst, atSecond, status, ne⟩)
  · exact nodes rfl
  · have same : one = other := Option.some.inj (atFirst.symm.trans atSecond)
    exact ne (by rw [same])

section
variable {α : Type} {part : Definition -> Option α}

theorem exists_of_firstPart? (found : firstPart? part defns name = some value) :
    ∃ defn ∈ defns, defn.name = name /\ part defn = some value := by
  obtain ⟨defn, mem, here⟩ := exists_of_findSome?_eq_some found
  by_cases named : defn.name = name
  · rw [if_pos named] at here
    exact ⟨defn, mem, named, here⟩
  · rw [if_neg named] at here
    cases here

theorem firstPart?_eq_none_iff : firstPart? part defns name = none ↔
    ∀ defn ∈ defns, defn.name = name -> part defn = none := by
  simp only [firstPart?, findSome?_eq_none_iff, ite_eq_right_iff]

theorem firstPart?_append (first second : List Definition) : firstPart? part (first ++ second) name =
    (firstPart? part first name).or (firstPart? part second name) :=
  findSome?_append

theorem firstPart?_eq_none_of_subset (sub : fewer ⊆ defns)
    (nothing : firstPart? part defns name = none) : firstPart? part fewer name = none :=
  firstPart?_eq_none_iff.mpr fun defn mem => firstPart?_eq_none_iff.mp nothing defn (sub mem)

theorem firstPart?_absorb (sub : again ⊆ defns) :
    firstPart? part (defns ++ again) name = firstPart? part defns name := by
  rw [firstPart?_append]
  cases found : firstPart? part defns name with
  | some value => rfl
  | none => exact firstPart?_eq_none_of_subset sub found
end

theorem firstNode?_eq (defns : List Definition) (name : String) :
    firstNode? defns name = firstPart? (some ·.node) defns name := by
  induction defns with
  | nil => rfl
  | cons defn rest ih =>
    by_cases named : defn.name = name
    · simp [firstNode?, firstPart?, named]
    · simpa [firstNode?, firstPart?, named] using ih

theorem exists_of_firstNode? (found : firstNode? defns name = some node) :
    ∃ defn ∈ defns, defn.name = name /\ defn.node = node := by
  rw [firstNode?_eq] at found
  obtain ⟨defn, mem, named, same⟩ := exists_of_firstPart? found
  exact ⟨defn, mem, named, Option.some.inj same⟩

theorem firstNode?_isSome_iff (defns : List Definition) (name : String) :
    (∃ node, firstNode? defns name = some node) ↔ ∃ defn ∈ defns, defn.name = name := by
  rw [<- Option.ne_none_iff_exists', firstNode?_eq, Ne, firstPart?_eq_none_iff]
  simp

theorem firstNode?_of_mem (mem : defn ∈ defns) (agreeing : ¬ Conflicting defns defn.name) :
    firstNode? defns defn.name = some defn.node := by
  obtain ⟨node, found⟩ := (firstNode?_isSome_iff defns defn.name).mpr ⟨defn, mem, rfl⟩
  obtain ⟨first, listed, named, rfl⟩ := exists_of_firstNode? found
  rw [found, Option.some.injEq]
  by_contra ne
  exact agreeing ⟨first, listed, defn, mem, named, rfl, .inl ne⟩

theorem firstStatuses?_isSome_of_mem (mem : defn ∈ defns) (stated : defn.statuses? = some codes) :
    ∃ first, firstStatuses? defns defn.name = some first := by
  rw [<- Option.ne_none_iff_exists', firstStatuses?, Ne, firstPart?_eq_none_iff]
  intro nothing
  rw [nothing defn mem rfl] at stated
  cases stated

theorem StatusMap.same_eq_false_iff (first second : StatusMap) :
    first.same second = false ↔ ∃ status, first.get? status ≠ second.get? status := by
  rw [<- Bool.not_eq_true, StatusMap.same, OrderedMap.sameEntries_iff, not_forall]

theorem Conflicting.mono (sub : fewer ⊆ more) (conflicting : Conflicting fewer name) :
    Conflicting more name := by
  obtain ⟨first, firstMember, second, secondMember, rest⟩ := conflicting
  exact ⟨first, sub firstMember, second, sub secondMember, rest⟩

/-- A definition differs from the first node or from the first status map that its
name has among some definitions. -/
def Definition.DiffersFromFirst (defn : Definition) (defns : List Definition) : Prop :=
  (∃ node, firstNode? defns defn.name = some node /\ node ≠ defn.node) \/
    ∃ codes, defn.statuses? = some codes /\ ∃ known, firstStatuses? defns defn.name = some known /\
        ∃ status, known.get? status ≠ codes.get? status

/-- If a definition differs from any other one of its name, then it differs from the
first, or the name has a conflict without it. -/
theorem conflicting_or_differsFromFirst (mem : first ∈ defns)
    (sameName : first.name = last.name) (differ : first.Disagrees last) :
    Conflicting defns last.name \/ last.DiffersFromFirst defns := by
  rcases differ with nodes | ⟨one, other, atFirst, atLast, status, ne⟩
  · obtain ⟨node, found⟩ := (firstNode?_isSome_iff defns last.name).mpr ⟨first, mem, sameName⟩
    by_cases equal : node = last.node
    · obtain ⟨earliest, earliestMember, earliestName, earliestNode⟩ := exists_of_firstNode? found
      have apart : first.node ≠ earliest.node := by
        rw [earliestNode, equal]
        exact nodes
      exact .inl ⟨first, mem, earliest, earliestMember, sameName, earliestName, .inl apart⟩
    · exact .inr (.inl ⟨node, found, equal⟩)
  · obtain ⟨known, found⟩ := firstStatuses?_isSome_of_mem mem atFirst
    rw [sameName] at found
    by_cases equal : known.get? status = other.get? status
    · obtain ⟨earliest, earliestMember, earliestName, earliestStated⟩ := exists_of_firstPart? found
      have apart : one.get? status ≠ known.get? status := by
        rw [equal]
        exact ne
      exact .inl ⟨first, mem, earliest, earliestMember, sameName, earliestName,
        .inr ⟨one, known, atFirst, earliestStated, status, apart⟩⟩
    · exact .inr (.inr ⟨other, atLast, known, found, status, equal⟩)

theorem conflicting_concat_iff (defns : List Definition) (last : Definition) (name : String) :
    Conflicting (defns ++ [last]) name ↔
      Conflicting defns name \/ (name = last.name /\ last.DiffersFromFirst defns) := by
  constructor
  · have against : ∀ first ∈ defns, first.name = name -> last.name = name -> first.Disagrees last ->
        Conflicting defns name \/ (name = last.name /\ last.DiffersFromFirst defns) := by
      rintro first mem sameName rfl differ
      exact (conflicting_or_differsFromFirst mem sameName differ).imp_right fun new => ⟨rfl, new⟩
    rintro ⟨first, firstMember, second, secondMember, firstName, secondName, differ⟩
    rcases mem_append.mp firstMember with firstOld | firstLast <;>
      rcases mem_append.mp secondMember with secondOld | secondLast
    · exact .inl ⟨first, firstOld, second, secondOld, firstName, secondName, differ⟩
    · rw [mem_singleton.mp secondLast] at secondName differ
      exact against first firstOld firstName secondName differ
    · rw [mem_singleton.mp firstLast] at firstName differ
      exact against second secondOld secondName firstName differ.symm
    · rw [mem_singleton.mp firstLast, mem_singleton.mp secondLast] at differ
      exact absurd differ last.not_disagrees_self
  · have lastMember : last ∈ defns ++ [last] := mem_append_right _ (.head _)
    rintro (old | ⟨rfl, ⟨node, found, ne⟩ | ⟨codes, stated, known, found, status, apart⟩⟩)
    · exact old.mono (subset_append_left _ _)
    · obtain ⟨first, mem, named, rfl⟩ := exists_of_firstNode? found
      exact ⟨first, mem_append_left _ mem, last, lastMember, named, rfl, .inl ne⟩
    · obtain ⟨first, mem, named, atFirst⟩ := exists_of_firstPart? found
      exact ⟨first, mem_append_left _ mem, last, lastMember, named, rfl,
        .inr ⟨known, codes, atFirst, stated, status, apart⟩⟩

theorem Table.holds_empty : ({} : Table).Holds [] where
  schemas := fun _ => rfl
  statuses := fun _ => rfl
  conflicts := by
    intro name
    constructor
    · intro mem
      cases mem
    · rintro ⟨first, mem, -⟩
      cases mem

/-- Putting a definition into a table that holds some gives a table that holds one
more, provided that the table's comparison of nodes is equality on them. -/
theorem Table.Holds.enter {table : Table} (holds : table.Holds defns)
    (compared : ∀ first ∈ defns, first.name = last.name ->
      (first.node.same last.node = true ↔ first.node = last.node)) :
    (table.enter last).Holds (defns ++ [last]) where
  schemas := by
    intro name
    rw [get?_enter, holds.schemas, firstNode?_eq, firstNode?_eq, firstPart?_append]
    simp only [firstPart?, findSome?_singleton]
  statuses := by
    intro name
    rw [statusMap?_enter, holds.statuses, firstStatuses?, firstStatuses?, firstPart?_append]
    simp only [firstPart?, findSome?_singleton]
  conflicts := by
    intro name
    have nodes : (∃ known, table.get? last.name = some known /\ known.same last.node = false) ↔
        ∃ node, firstNode? defns last.name = some node /\ node ≠ last.node := by
      rw [holds.schemas]
      refine exists_congr fun node => and_congr_right fun found => ?_
      obtain ⟨first, mem, named, rfl⟩ := exists_of_firstNode? found
      rw [<- Bool.not_eq_true, compared first mem named]
    have maps : (∃ codes, last.statuses? = some codes /\
          ∃ known, table.statusMap? last.name = some known /\ known.same codes = false) ↔
        ∃ codes, last.statuses? = some codes /\
          ∃ known, firstStatuses? defns last.name = some known /\
            ∃ status, known.get? status ≠ codes.get? status := by
      simp only [holds.statuses, StatusMap.same_eq_false_iff]
    rw [mem_conflicts_enter, conflicting_concat_iff, holds.conflicts, nodes, maps]
    rfl

theorem Table.Holds.absorb {table : Table} (holds : table.Holds defns) (sub : again ⊆ defns) :
    table.Holds (defns ++ again) where
  schemas := by
    intro name
    rw [holds.schemas, firstNode?_eq, firstNode?_eq, firstPart?_absorb sub]
  statuses := by
    intro name
    rw [holds.statuses]
    exact (firstPart?_absorb sub).symm
  conflicts := by
    intro name
    rw [holds.conflicts]
    exact ⟨Conflicting.mono (subset_append_left _ _),
      Conflicting.mono (append_subset.mpr ⟨List.Subset.refl _, sub⟩)⟩
end RouteDocs.Schema
