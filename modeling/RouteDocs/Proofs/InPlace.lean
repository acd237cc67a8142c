import RouteDocs.Proofs.RegistryCalls

namespace RouteDocs.Schema
open Synthesis

/-!
# Synthesis in place

Here the types under way are kept in a variable, where a type is entered before it is built and
taken out whatever comes of it, and a staged step that fails puts back what it had copied of the
table. `Tracks` says that work in place does what a step of the synthesis does, and leaves the
variable as it found it. Whether a table is frozen is not put back, so the synthesis must never
freeze it.
-/

structure Bench where
  session : Session
  underway : List (String × Descriptor) := []

abbrev Work := ExceptT Failure (StateM Bench)

namespace Work
variable {α β : Type}

def plain (step : Synthesis Node α) : Work α := ExceptT.mk fun bench =>
    ((step.run.run bench.session).1, { bench with session := (step.run.run bench.session).2 })

def inside (owner : String) (work : Work α) : Work α := ExceptT.mk do
    match <- work.run with
    | .ok value => return .ok value
    | .error failure => return .error (failure.inside owner)

/-- Work on a type while it is entered as under way; it is taken out whatever comes
of it. -/
def building (name : String) (desc : Descriptor) (work : Work α) : Work α := ExceptT.mk do
    modify fun bench => { bench with underway := (name, desc) :: bench.underway }
    let answer <- work.run
    modify fun bench => { bench with underway := bench.underway.eraseP fun entry => entry.1 == name }
    return answer

def named (name : String) (desc : Descriptor) (reference : Node) (build : Work Node) :
    Work Node := do
  match (<- get).underway.lookup name with
  | some outer =>
    if outer ≠ desc then plain (.recordConflict name .nestedShape)
    return reference
  | none =>
    if (<- get).session.memo.get? name = some desc then return reference
    let node <- building name desc build
    plain (modify fun sess =>
      if sess.memo.contains name then sess
      else { sess with memo := sess.memo.insert name desc })
    plain (.register name (Storable.ofNode node))
    return reference

mutual
def node : Descriptor -> Work Node
  | .primitive name =>
    match primitive? name with
    | some type => return .primitive type
    | none => plain (.fail (.unknownPrimitive name))
  | .optional inner => return .optional (<- node inner).stripOptional
  | .sequence inner => return .array (<- node inner).stripOptional
  | .named name => return .ref name
  | .struct name fields about =>
    named name (.struct name fields about) (.ref name) do
      let members <- inside name (members [] fields)
      return .object members about none
  | .union name variants =>
    named name (.union name variants) (.enumRef name) do
      if variants.isEmpty then plain (.fail (.noVariants name))
      if !(variants.map Variant.name).Nodup then plain (.fail (.repeatedVariants name))
      plain (.registerVariants name (<- errorVariants name variants))

def members (seen : List String) : List Field -> Work (List (String × Node))
  | [] => return []
  | ⟨name, type, optional⟩ :: rest => do
    if name ∈ seen then plain (.fail (.repeatedField name))
    let schema <- node type
    let schema := if optional && !schema.isOptional then .optional schema else schema
    return (name, schema) :: (<- members (name :: seen) rest)

def errorVariants (union : String) : List Variant -> Work (List ErrorVariant)
  | [] => return []
  | ⟨name, fields, doc⟩ :: rest => do
    let (status, about) <- plain (.variantStatus union name doc)
    let members <- inside (variantName union name) (members [] fields)
    if discriminator ∈ members.map Prod.fst then
      plain (.fail (.inside (variantName union name) .discriminatorField))
    return ⟨status, name, about, members⟩ :: (<- errorVariants union rest)
end

/-- What was copied of a bench is put back: all of the table but whether it is
frozen, and the memo. -/
def restore (copied bench : Bench) : Bench :=
  { bench with
    session := { bench.session with
      table := { bench.session.table with
        schemas := copied.session.table.schemas
        statusMaps := copied.session.table.statusMaps
        conflicts := copied.session.table.conflicts
        warnings := copied.session.table.warnings }
      memo := copied.session.memo } }

def staged (work : Work α) : Work α := ExceptT.mk do
    let copied <- get
    match <- work.run with
    | .ok value => return .ok value
    | .error failure =>
      modify (restore copied)
      return .error failure

/-- With some types under way, work does what a step does, and the types under way
are the same afterwards. -/
def Tracks (active : List (String × Descriptor)) (step : Synthesis Node α) (work : Work α) : Prop :=
  ∀ sess, work.run.run ⟨sess, active⟩ = ((step.run.run sess).1, ⟨(step.run.run sess).2, active⟩)

variable {active : List (String × Descriptor)} {step : Synthesis Node α} {work : Work α}
  {condition : Prop}

theorem tracks_pure (value : α) : Tracks active (pure value) (pure value) := fun _ => rfl

theorem tracks_plain (step : Synthesis Node α) : Tracks active step (plain step) := fun _ => rfl

theorem Tracks.bind {step : Synthesis Node α} (first : Tracks active step work)
    (second : ∀ value, Tracks active (next value) (further value)) :
    Tracks active (step >>= next) (work >>= further) := by
  intro sess
  rw [run_bind, run_bind, first sess]
  cases ran : (step.run.run sess : Except Failure α × Session) with
  | mk answer mid =>
    cases answer with
    | error failure => rfl
    | ok value => exact second value mid

theorem Tracks.inside {owner : String} (tracks : Tracks active step work) :
    Tracks active (Synthesis.inside owner step) (inside owner work) := by
  intro sess
  have here := tracks sess
  rw [run_inside]
  unfold Work.inside
  simp only [ExceptT.run_mk, StateT.run_bind]
  rw [here]
  cases ran : (step.run.run sess : Except Failure α × Session) with
  | mk answer mid => cases answer <;> rfl

theorem Tracks.look {work : Bench -> Work α}
    (tracks : ∀ sess, Tracks active step (work ⟨sess, active⟩)) :
    Tracks active step (get >>= work) :=
  fun sess => tracks sess sess

theorem Tracks.get {next : Session -> Synthesis Node α} {work : Bench -> Work α}
    (tracks : ∀ sess, Tracks active (next sess) (work ⟨sess, active⟩)) :
    Tracks active (get >>= next) (get >>= work) :=
  fun sess => tracks sess sess

theorem tracks_ite [Decidable condition] {first second : Synthesis Node α}
    (whenTrue : Tracks active first one) (whenFalse : Tracks active second other) :
    Tracks active (if condition then first else second) (if condition then one else other) := by
  split
  · exact whenTrue
  · exact whenFalse

theorem Tracks.unless [Decidable condition] {fault : Fault} (remaining : Tracks active step work) :
    Tracks active (do
        if condition then fail fault
        step)
      (do
        if condition then plain (.fail fault)
        work) :=
  tracks_ite ((tracks_plain _).bind fun _ => remaining) remaining

theorem Tracks.building (tracks : Tracks ((name, desc) :: active) step work) :
    Tracks active step (building name desc work) := by
  intro sess
  have taken : ((name, desc) :: active).eraseP (fun entry => entry.1 == name) = active := by simp
  have opened : (Work.building name desc work).run.run ⟨sess, active⟩ =
      let ran := work.run.run ⟨sess, (name, desc) :: active⟩
      (ran.1, { ran.2 with underway := ran.2.underway.eraseP fun entry => entry.1 == name }) := rfl
  rw [opened, tracks sess]
  simp only [taken]

theorem Tracks.named {reference : Node} {work : Work Node}
    (built : Tracks ((name, desc) :: active) build work) :
    Tracks active (Synthesis.named active name desc reference build)
      (named name desc reference work) := by
  unfold Synthesis.named Work.named
  apply Tracks.look
  intro _
  cases around : active.lookup name with
  | some outer =>
    simp only
    split
    · exact (tracks_plain _).bind fun _ => tracks_pure reference
    · exact tracks_pure reference
  | none =>
    simp only
    apply Tracks.get
    intro sess
    apply tracks_ite (tracks_pure reference)
    exact built.building.bind fun _ => (tracks_plain _).bind fun _ => (tracks_plain _).bind fun _ =>
      tracks_pure reference

mutual
theorem tracks_node {active : List (String × Descriptor)} : (desc : Descriptor) ->
    Tracks active (Synthesis.node active desc) (node desc)
  | .primitive name => by
    rw [Synthesis.node, node]
    cases primitive? name with
    | none => exact tracks_plain _
    | some type => exact tracks_pure _
  | .optional inner => by
    rw [Synthesis.node, node]
    exact (tracks_node inner).bind fun _ => tracks_pure _
  | .sequence inner => by
    rw [Synthesis.node, node]
    exact (tracks_node inner).bind fun _ => tracks_pure _
  | .named name => by
    rw [Synthesis.node, node]
    exact tracks_pure _
  | .struct name fields about => by
    rw [Synthesis.node, node]
    exact Tracks.named ((tracks_members fields).inside.bind fun _ => tracks_pure _)
  | .union name variants => by
    rw [Synthesis.node, node]
    apply Tracks.named
    have built : Tracks ((name, .union name variants) :: active)
        (Synthesis.errorVariants ((name, .union name variants) :: active) name variants >>=
          registerVariants name)
        (errorVariants name variants >>= fun errors => plain (.registerVariants name errors)) :=
      (tracks_errorVariants variants).bind fun errors => tracks_plain _
    exact built.unless.unless

theorem tracks_members {active : List (String × Descriptor)} :
    (fields : List Field) -> Tracks active (Synthesis.members active seen fields) (members seen fields)
  | [] => by
    rw [Synthesis.members, members]
    exact tracks_pure _
  | ⟨name, type, optional⟩ :: rest => by
    rw [Synthesis.members, members]
    have remaining : Tracks active (do
        let schema <- Synthesis.node active type
        let schema := if optional && !schema.isOptional then .optional schema else schema
        return (name, schema) :: (<- Synthesis.members active (name :: seen) rest)) (do
        let schema <- node type
        let schema := if optional && !schema.isOptional then .optional schema else schema
        return (name, schema) :: (<- members (name :: seen) rest)) :=
      (tracks_node type).bind fun _ => (tracks_members rest).bind fun _ => tracks_pure _
    exact remaining.unless

theorem tracks_errorVariants {active : List (String × Descriptor)} : (variants : List Variant) ->
      Tracks active (Synthesis.errorVariants active union variants) (errorVariants union variants)
  | [] => by
    rw [Synthesis.errorVariants, errorVariants]
    exact tracks_pure _
  | ⟨name, fields, doc⟩ :: rest => by
    rw [Synthesis.errorVariants, errorVariants]
    refine (tracks_plain _).bind fun status => ?_
    refine (tracks_members fields).inside.bind fun parts => ?_
    have remaining : Tracks active (do
        return ⟨status.1, name, status.2, parts⟩ :: (<- Synthesis.errorVariants active union rest))
        (do return ⟨status.1, name, status.2, parts⟩ :: (<- errorVariants union rest)) :=
      (tracks_errorVariants rest).bind fun _ => tracks_pure _
    exact remaining.unless
end

theorem Tracks.staged {expected : α -> Prop} (tracks : Tracks active step work)
    (kept : ∀ value, Maintains (OnTable fun table => table.frozen = value) expected step) :
    Tracks active (Synthesis.staged step) (staged work) := by
  intro sess
  have opened : (Work.staged work).run.run ⟨sess, active⟩ = match work.run.run ⟨sess, active⟩ with
      | (.ok value, post) => (.ok value, post)
      | (.error failure, post) => (.error failure, restore ⟨sess, active⟩ post) := by
    unfold Work.staged
    simp only [ExceptT.run_mk, StateT.run_bind, StateT.run_get, pure_bind]
    cases ran : (work.run.run ⟨sess, active⟩ : Except Failure α × Bench) with
    | mk answer post => cases answer <;> rfl
  have sameFrozen := (kept sess.table.frozen sess rfl).1
  rw [opened, tracks sess, run_staged]
  cases ran : (step.run.run sess : Except Failure α × Session) with
  | mk answer post =>
    rw [ran] at sameFrozen
    cases answer with
    | ok value => rfl
    | error failure =>
      have thawed : post.table.frozen = sess.table.frozen := sameFrozen
      simp only [restore, thawed]
end Work
end RouteDocs.Schema
