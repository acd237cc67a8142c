import Mathlib.Logic.Function.Basic
import RouteDocs.Proofs.TableInvariants

namespace RouteDocs.Schema
open List Synthesis

/-!
# Frozen tables

Synthesizers with memos of their own may go on after their table is frozen. The schemas and the
status maps stay as they are. But a conflict or a warning that is met before the first definition
of a call is still added, and a struct is remembered before its definition is refused, so that the
next call for it is answered with a reference to a schema that does not exist.
-/

/-- Nothing is defined any more: a frozen table only comes to have more conflicts and more
warnings. -/
structure Table.Sealed (start table : Table) : Prop where
  frozen : table.frozen = true
  schemas : table.schemas = start.schemas
  statusMaps : table.statusMaps = start.statusMaps
  conflicts : start.conflicts <+: table.conflicts
  warnings : start.warnings <+: table.warnings

namespace Table.Sealed
variable {start table : Table}

theorem refl (frozen : start.frozen = true) : start.Sealed start :=
  ⟨frozen, rfl, rfl, prefix_rfl, prefix_rfl⟩

theorem recordConflict (kept : start.Sealed table) (name : String) :
    start.Sealed (table.recordConflict name) := by
  unfold Table.recordConflict
  split
  · exact kept
  · exact { kept with conflicts := kept.conflicts.trans (prefix_append _ _) }

theorem warn (kept : start.Sealed table) (message : String) : start.Sealed (table.warn message) :=
  { kept with warnings := kept.warnings.trans (prefix_append _ _) }
end Table.Sealed

/-- The table of a session is sealed, and what it has come to remember is among some
types. -/
structure Session.Sealed (start : Session) (drawn : Descriptor -> Prop) (session : Session) : Prop where
  table : start.table.Sealed session.table
  memo : ∀ name type, session.memo.get? name = some type ->
    start.memo.get? name = some type \/ drawn type

theorem Session.inductive_sealed (start : Session) (drawn : Descriptor -> Prop) :
    Session.Inductive (start.Sealed drawn) drawn where
  notices := fun _ _ kept => ⟨kept.table, kept.memo⟩
  recordConflict := fun _ name kept => ⟨kept.table.recordConflict name, kept.memo⟩
  warn := fun _ message kept => ⟨kept.table.warn message, kept.memo⟩
  remember := by
    intro session name type isDrawn kept
    refine ⟨by rw [Session.table_remember]; exact kept.table, fun other found remembered => ?_⟩
    rw [Session.get?_memo_remember, Option.or_eq_some_iff] at remembered
    rcases remembered with old | ⟨-, new⟩
    · exact kept.memo other found old
    · split at new
      · exact .inr (Option.some.inj new ▸ isDrawn)
      · cases new
  define := fun _ _ _ writable _ kept => absurd writable (by rw [kept.table.frozen]; decide)
  defineStatuses := fun _ _ _ _ writable kept => absurd writable (by rw [kept.table.frozen]; decide)

variable {type : Descriptor}

/-- While the table is frozen, no struct or union is built to the end: only one that is
remembered is answered. -/
theorem Synthesis.remembered_of_frozen {pre after : Session} (frozen : pre.table.frozen = true)
    (isType : type.isType = true) (yields : Yields (ofDescriptor type) pre shape after) :
    pre.memo.get? type.typeName = some type := by
  have still : after.table.frozen = true := by
    have closed := pre.inductive_sealed Anything
    have kept : pre.Sealed Anything ((ofDescriptor type).run.run pre).2 :=
      (maintains_node closed type (fun _ _ => trivial) pre ⟨.refl frozen, fun _ _ => .inl⟩).1
    rw [yields] at kept
    exact kept.table.frozen
  -- A definition that succeeds is made in a table that is not frozen, and leaves it so.
  have defined : ∀ {session : Session} {name : String} {node : Node},
      ¬ Yields (register name node) session () after := by
    intro session name node registered
    obtain ⟨writable, rfl⟩ := yields_register.mp registered
    rw [Session.defined, (session.table.define_frame name node).2.2, writable] at still
    cases still
  cases type with
  | struct name fields about =>
    rcases (yields_struct rfl).mp yields with ⟨-, ⟨known, -⟩ | ⟨-, parts, mid, -, registered⟩⟩
    · exact known
    · exact absurd registered defined
  | union name variants =>
    rcases (yields_union rfl).mp yields with
      ⟨-, ⟨known, -⟩ | ⟨-, -, -, errors, mid, made, -, -, registered⟩⟩
    · exact known
    · exact absurd registered defined
  | _ => cases isType

theorem Synthesis.yields_remembered {pre : Session} (isType : type.isType = true)
    (known : pre.memo.get? type.typeName = some type) :
    Yields (ofDescriptor type) pre type.shape pre := by
  cases type with
  | struct name fields about => exact (yields_struct rfl).mpr ⟨rfl, .inl ⟨known, rfl⟩⟩
  | union name variants => exact (yields_union rfl).mpr ⟨rfl, .inl ⟨known, rfl⟩⟩
  | _ => cases isType

/-- Numbered synthesizers on one table, with what each of them remembers. -/
structure Team where
  table : Table
  memo : Nat -> OrderedMap String Descriptor

/-- Something that is asked of a synthesizer. A block of tasks ends with the first one
that fails. -/
inductive Task where
  | synthesize (worker : Nat) (type : Candidate)
  | statuses (worker : Nat) (type : Descriptor)
  | errors (worker : Nat) (union : String) (variants : List Variant)
  | staged (worker : Nat) (block : List Task)
  | attempt (block : List Task)

mutual
def Task.requests : Task -> List (Nat × Descriptor)
  | .synthesize worker (.descriptor type) | .statuses worker type => type.types.map (worker, ·)
  | .synthesize _ (.foreign _) => []
  | .errors worker _ variants => (variantTypes variants).map (worker, ·)
  | .staged _ block | .attempt block => blockRequests block

def blockRequests : List Task -> List (Nat × Descriptor)
  | [] => []
  | task :: rest => task.requests ++ blockRequests rest
end

namespace Team
def session (team : Team) (worker : Nat) : Session where
  table := team.table
  memo := team.memo worker

def after (team : Team) (worker : Nat) (session : Session) : Team where
  table := session.table
  memo := Function.update team.memo worker session.memo

def ask {α : Type} (team : Team) (worker : Nat) (step : Synthesis Node α) : Except Failure α × Team :=
  let ran := step.run.run (team.session worker)
  (ran.1, team.after worker ran.2)

def staged (team : Team) (worker : Nat) (done : Except Failure Unit × Team) :
    Except Failure Unit × Team :=
  let step : Synthesis Node Unit := ExceptT.mk fun _ => (done.1, done.2.session worker)
  let ran := (Synthesis.staged step).run.run (team.session worker)
  (ran.1, done.2.after worker ran.2)

mutual
def perform (team : Team) : Task -> Except Failure Unit × Team
  | .synthesize worker type => team.ask worker do
    let _ <- type.synthesize
  | .statuses worker type => team.ask worker do
    let _ <- statusMapOf type
  | .errors worker union variants => team.ask worker do
    let _ <- errorVariants [] union variants
  | .staged worker block => team.staged worker (team.performAll block)
  | .attempt block => (.ok (), (team.performAll block).2)

def performAll (team : Team) : List Task -> Except Failure Unit × Team
  | [] => (.ok (), team)
  | task :: rest =>
    match team.perform task with
    | (.ok _, reached) => reached.performAll rest
    | (.error failure, reached) => (.error failure, reached)
end

/-- A team works on a frozen table: the table is sealed, and whatever a synthesizer has
come to remember is among the types it was asked about. -/
structure Sealed (start : Team) (asked : Nat -> Descriptor -> Prop) (team : Team) : Prop where
  table : start.table.Sealed team.table
  memo : ∀ worker name type, (team.memo worker).get? name = some type ->
    (start.memo worker).get? name = some type \/ asked worker type

variable {start team : Team} {asked : Nat -> Descriptor -> Prop} {worker : Nat}

theorem Sealed.after (kept : start.Sealed asked team) {session : Session}
    (worked : (start.session worker).Sealed (asked worker) session) :
    start.Sealed asked (team.after worker session) := by
  refine ⟨worked.table, fun other name type found => ?_⟩
  by_cases same : other = worker
  · subst same
    simp only [Team.after, Function.update_self] at found
    exact worked.memo name type found
  · simp only [Team.after, Function.update_of_ne same] at found
    exact kept.memo other name type found

theorem Sealed.ask {α : Type} {step : Synthesis Node α} (kept : start.Sealed asked team)
    (maintained : Maintains ((start.session worker).Sealed (asked worker)) Anything step) :
    start.Sealed asked (team.ask worker step).2 :=
  kept.after (maintained (team.session worker) ⟨kept.table, kept.memo worker⟩).1

@[simp] theorem after_session (team : Team) (worker : Nat) :
    team.after worker (team.session worker) = team := by
  simp only [after, session, Function.update_eq_self]

theorem staged_eq (team : Team) (worker : Nat) (done : Except Failure Unit × Team) :
    team.staged worker done = match done.1 with
      | .ok value => (.ok value, done.2)
      | .error failure => (.error failure, done.2.after worker (team.session worker)) := by
  simp only [staged, run_staged]
  obtain ⟨answer, reached⟩ := done
  cases answer with
  | error failure => rfl
  | ok value => exact congrArg (Prod.mk _) (reached.after_session worker)

theorem Sealed.staged {done : Except Failure Unit × Team} (kept : start.Sealed asked team)
    (reached : start.Sealed asked done.2) : start.Sealed asked (team.staged worker done).2 := by
  rw [staged_eq]
  split
  · exact reached
  · exact reached.after ⟨kept.table, kept.memo worker⟩

mutual
theorem Sealed.perform {team : Team} (kept : start.Sealed asked team) : (task : Task) ->
    (∀ req ∈ task.requests, asked req.1 req.2) -> start.Sealed asked (team.perform task).2
  | .synthesize worker (.descriptor type), known =>
    kept.ask ((maintains_node (Session.inductive_sealed _ _) type
      (forall_mem_map.mp known)).bind fun _ _ => maintains_pure trivial)
  | .synthesize worker (.foreign shown), _ => kept.ask (maintains_throw_bind _ _)
  | .statuses worker type, known => by
    have found : Maintains ((start.session worker).Sealed (asked worker)) Anything
        (statusMapOf type : Synthesis Node _) :=
      (maintains_node (Session.inductive_sealed _ _) type (forall_mem_map.mp known)).bind fun _ _ =>
          maintains_get.bind fun _ _ => maintains_pure trivial
    exact kept.ask (found.bind fun _ _ => maintains_pure trivial)
  | .errors worker union variants, known =>
    kept.ask ((maintains_errorVariants (Session.inductive_sealed _ _) variants
      (forall_mem_map.mp known)).bind fun _ _ => maintains_pure trivial)
  | .staged worker block, known => kept.staged (kept.performAll block known)
  | .attempt block, known => kept.performAll block known

theorem Sealed.performAll {team : Team} (kept : start.Sealed asked team) : (tasks : List Task) ->
    (∀ req ∈ blockRequests tasks, asked req.1 req.2) -> start.Sealed asked (team.performAll tasks).2
  | [], _ => kept
  | task :: rest, known => by
    obtain ⟨here, later⟩ := forall_mem_append.mp known
    have done := kept.perform task here
    rw [Team.performAll]
    cases ran : team.perform task with
    | mk answer reached =>
      rw [ran] at done
      cases answer with
      | ok value => exact done.performAll rest later
      | error failure => exact done
end

/-- **A frozen table takes no definition.**  Whatever synthesizers are asked after the table
is frozen, its schemas and status maps stay, and conflicts and warnings are only added.
A struct or a union is answered, without any change, exactly by a synthesizer that
remembers it; any other synthesizer fails. It remembers it from before, or because it
was asked about it since. A staged block that fails leaves the table as it was. -/
theorem definitions_of_frozen (start : Team) (frozen : start.table.frozen = true)
    (tasks : List Task) :
    start.table.Sealed (start.performAll tasks).2.table /\ (∀ worker type, type.isType = true ->
        if ((start.performAll tasks).2.memo worker).get? type.typeName = some type then
          (start.performAll tasks).2.ask worker (.ofDescriptor type) =
            (.ok type.shape, (start.performAll tasks).2) else ∃ failure,
          ((start.performAll tasks).2.ask worker (.ofDescriptor type)).1 = .error failure) /\
      (∀ worker name type, ((start.performAll tasks).2.memo worker).get? name = some type ->
        (start.memo worker).get? name = some type \/ (worker, type) ∈ blockRequests tasks) /\
      ∀ worker block failure,
        ((start.performAll tasks).2.perform (.staged worker block)).1 = .error failure ->
          ((start.performAll tasks).2.perform (.staged worker block)).2.table =
            (start.performAll tasks).2.table := by
  have kept : start.Sealed (fun worker type => (worker, type) ∈ blockRequests tasks)
      (start.performAll tasks).2 :=
    Sealed.performAll ⟨.refl frozen, fun _ _ _ => .inl⟩ tasks fun _ mem => mem
  generalize (start.performAll tasks).2 = team at kept ⊢
  refine ⟨kept.table, fun worker type isType => ?_, kept.memo, fun worker block failure failed => ?_⟩
  · split
    · rename_i known
      have answered : (ofDescriptor type).run.run (team.session worker) =
          (.ok type.shape, team.session worker) := yields_remembered isType known
      simp only [ask, answered, after_session]
    · rename_i unknown
      cases ran : ((ofDescriptor type).run.run (team.session worker) :
          Except Failure Node × Session) with
      | mk answer reached =>
        cases answer with
        | error failure => exact ⟨failure, by simp only [ask, ran]⟩
        | ok shape => exact absurd (remembered_of_frozen kept.table.frozen isType ran) unknown
  · rw [Team.perform, staged_eq] at failed ⊢
    split at failed
    · cases failed
    · rfl

/-- A table that is frozen before anything is registered, with nothing remembered. -/
def untouched : Team where
  table := Table.freeze {}
  memo := fun _ => ∅

/-- The same synthesizer refuses a struct and then answers it, though it is not in the
table, and a union that it refuses leaves a warning. -/
theorem frozen_table_is_not_inert : let point := Descriptor.struct "Point" [] ""
    let fault := Descriptor.union "Fault" [⟨"Lost", [], ""⟩]
    (untouched.ask 0 (.ofDescriptor point)).1 = .error .frozen /\
      ((untouched.ask 0 (.ofDescriptor point)).2.ask 0 (.ofDescriptor point)).1 = .ok (.ref "Point") /\
      (untouched.ask 0 (.ofDescriptor point)).2.table.contains "Point" = false /\
      (untouched.ask 0 (.ofDescriptor fault)).1 = .error .frozen /\
      (untouched.ask 0 (.ofDescriptor fault)).2.table.warnings =
        ["Fault.Lost has no valid status annotation, defaulting to 500"] :=
  ⟨rfl, rfl, rfl, rfl, rfl⟩

/-- A synthesizer that has come to remember one struct fails on another. -/
theorem definitions_of_frozen_point :
    let tasks := [Task.attempt [.synthesize 0 (.descriptor (.struct "Point" [] ""))],
      .staged 1 [.synthesize 1 (.descriptor (.struct "Point" [] ""))]]
    untouched.table.frozen = true /\ untouched.table.Sealed (untouched.performAll tasks).2.table /\
      (untouched.performAll tasks).2.ask 0 (.ofDescriptor (.struct "Point" [] "")) =
        (.ok (.ref "Point"), (untouched.performAll tasks).2) /\
      ∃ failure, ((untouched.performAll tasks).2.ask 1
        (.ofDescriptor (.struct "Point" [] ""))).1 = .error failure := by
  intro tasks
  have known := definitions_of_frozen untouched rfl tasks
  have answered := known.2.1 0 (.struct "Point" [] "") rfl
  have refused := known.2.1 1 (.struct "Point" [] "") rfl
  rw [if_pos (by decide +kernel)] at answered
  rw [if_neg (by decide +kernel)] at refused
  exact ⟨rfl, known.1, answered, refused⟩
end Team
end RouteDocs.Schema
