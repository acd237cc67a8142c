import RouteDocs.Proofs.ClassConflicts
import RouteDocs.Proofs.RouterLife

namespace RouteDocs.Router
open List RouteDocs.Class Schema

/-!
# Classes that are added to a router

A router describes the classes that are passed to it anew with every route and every schema, so its
table goes back to many descriptions of the same classes. Whether it has a conflict only depends on
how the classes refer to each other.
-/

inductive Addition where
  | route (handler : Handler)
  | schemas (sources : List (Option TypeSource))

def Addition.sources : Addition -> List (Option TypeSource)
  | route handler => [handler.response?, handler.error?, handler.body?]
  | schemas sources => sources

def add (router : Router) : Addition -> Outcome Unit
  | .route handler => ((router.addRoute handler).1.map fun _ => (), (router.addRoute handler).2)
  | .schemas sources => router.addSchemas sources

def addAll : Router -> List Addition -> Outcome Unit
  | router, [] => (.ok (), router)
  | router, addition :: rest =>
    match router.add addition with
    | (.error refusal, post) => (.error refusal, post)
    | (.ok (), post) => post.addAll rest

def TypeSource.subject? : TypeSource -> Option Subject
  | hinted (.declared number _) => some (.declared number)
  | hinted (.builtin class_) => some (.builtin class_)
  | _ => none

def passedAt (source? : Option TypeSource) : List Subject :=
  (source?.bind TypeSource.subject?).toList

def passed (additions : List Addition) : List Subject :=
  additions.flatMap fun addition => addition.sources.flatMap passedAt

def PassesOnly (known : Subject -> Prop) (source? : Option TypeSource) : Prop :=
  ∀ source, source? = some source -> ∃ subject, source.subject? = some subject /\ known subject

variable {source? : Option TypeSource} {subject : Subject} {pre post : Memory}
  {subjects : List Subject} {number : Nat} {profile : Profile}

theorem known_of_mem_passedAt (only : PassesOnly known source?)
    (passes : subject ∈ passedAt source?) : known subject := by
  obtain ⟨source, given, names⟩ := Option.bind_eq_some_iff.mp (Option.mem_toList.mp passes)
  obtain ⟨other, named, isKnown⟩ := only source given
  rw [Option.some.inj (names.symm.trans named)]
  exact isKnown

variable {cat : Catalog} {hints : Nat -> List FieldHint} {kept : Memory -> Prop}
  {known : Subject -> Prop}

/-- A session goes back to descriptions of classes, and certain classes are among them. -/
def Accounts (cat : Catalog) (hints : Nat -> List FieldHint) (known : Subject -> Prop)
    (sess : Session) (subjects : List Subject) : Prop :=
  ∃ types, sess.Reflects types /\ AllStated cat hints known [] types /\
    ∀ subject ∈ subjects, ∃ type : Descriptor,
      Rooted cat hints known subject type /\ type.types ⊆ types

theorem Accounts.ofDescriptors {pre post : Session}
    (accounts : Accounts cat hints known pre subjects)
    (rooted : List.Forall₂ (Rooted cat hints known) more descs)
    (yields : Yields (Synthesis.ofDescriptors descs) pre () post) :
    Accounts cat hints known post (subjects ++ more) := by
  obtain ⟨types, reflects, stated, described⟩ := accounts
  obtain ⟨ofSubjects, ofDescriptors⟩ := exists_of_forall₂ rooted
  refine ⟨_, (Synthesis.ofDescriptors_reflects reflects (fun desc mem => ?_) yields).1,
    forall_mem_append.mpr ⟨stated, fun type mem => ?_⟩,
    forall_mem_append.mpr ⟨fun other mem => ?_, fun subject mem => ?_⟩⟩
  · obtain ⟨_, -, here⟩ := ofDescriptors desc mem
    exact here.unnested
  · obtain ⟨desc, listed, inside⟩ := mem_flatMap.mp mem
    obtain ⟨_, -, here⟩ := ofDescriptors desc listed
    exact here.stated type inside
  · obtain ⟨desc, here, sub⟩ := described other mem
    exact ⟨desc, here, subset_append_of_subset_left _ sub⟩
  · obtain ⟨desc, listed, here⟩ := ofSubjects subject mem
    exact ⟨desc, here, fun type inside =>
      mem_append_right _ (mem_flatMap.mpr ⟨desc, listed, inside⟩)⟩

theorem yields_describe_declared {name : String} (declared : cat.declared? number = some profile) :
    Yields (describe cat (.declared number name)) pre described post ↔
      ∃ type, Yields (describeClass cat number profile) pre type post /\
        described = ⟨profile.isErrorUnion, type⟩ := by
  rw [describe, yields_get_bind, Catalog.get?_of_declared declared]
  unfold Yields
  simp only [ExceptT.run_mk, StateT.run_bind]
  cases ran : ((describeClass cat number profile).run.run pre :
      Except Class.Fault Descriptor × Memory) with
  | mk answer mid =>
    cases answer with
    | error cause =>
      constructor
      · intro impossible
        cases impossible
      · rintro ⟨_, impossible, -⟩
        cases impossible
    | ok type =>
      constructor
      · intro same
        cases same
        exact ⟨type, rfl, rfl⟩
      · rintro ⟨_, same, rfl⟩
        cases same
        rfl

theorem rooted_of_candidate? (settled : cat.Settled kept hints known)
    (differ : cat.NamesDiffer known) {source : TypeSource}
    (names : source.subject? = some subject) (isKnown : known subject) (held : kept pre)
    (yields : Yields (source.candidate? cat) pre type? post) :
    kept post /\ ∃ desc, type? = some (.descriptor desc) /\ Rooted cat hints known subject desc := by
  match source, names with
  | .hinted (.builtin class_), rfl =>
    obtain ⟨described, read, rfl⟩ := yields_bind_pure.mp yields
    cases known : builtinDescriptor class_ with
    | error cause =>
      simp only [describe, known] at read
      exact absurd read yields_throw.mp
    | ok desc =>
      simp only [describe, known] at read
      obtain ⟨rfl, rfl⟩ := yields_pure.mp read
      obtain rfl := builtinDescriptor_eq known
      exact ⟨held, _, rfl, rooted_builtin class_ isKnown⟩
  | .hinted (.declared number name), rfl =>
    obtain ⟨profile, declared⟩ := settled.declared number isKnown
    obtain ⟨described, read, rfl⟩ := yields_bind_pure.mp yields
    obtain ⟨desc, made, rfl⟩ := (yields_describe_declared declared).mp read
    obtain ⟨stillHeld, stated, inside⟩ :=
      describeClass_described settled differ isKnown declared held made
    refine ⟨stillHeld, desc, rfl, stated, inside.stated, inside.unnested, ?_⟩
    rintro _ ⟨⟩ target finds
    obtain ⟨type, mem, around, -, placed, typeStated⟩ := inside.finds target finds
    exact ⟨type, mem, around, placed, typeStated⟩

theorem typed_of_candidate? (settled : cat.Settled kept hints known)
    (differ : cat.NamesDiffer known) (only : PassesOnly known source?) (held : kept pre)
    (yields : Yields (candidate? cat source?) pre type? post) :
    kept post /\ List.Forall₂ (Rooted cat hints known) (passedAt source?)
      (type?.toList.filterMap Candidate.descriptor?) := by
  cases source? with
  | none =>
    obtain ⟨rfl, rfl⟩ := yields_pure.mp yields
    exact ⟨held, .nil⟩
  | some source =>
    obtain ⟨subject, names, isKnown⟩ := only source rfl
    obtain ⟨stillHeld, type, rfl, rooted⟩ :=
      rooted_of_candidate? settled differ names isKnown held yields
    have passes : passedAt (some source) = [subject] := by
      rw [passedAt, Option.bind_some, names, Option.toList_some]
    rw [passes]
    exact ⟨stillHeld, .cons rooted .nil⟩

/-- A router whose table goes back to descriptions of classes, with those that were passed
among them. -/
structure Keeps (cat : Catalog) (kept : Memory -> Prop) (hints : Nat -> List FieldHint)
    (known : Subject -> Prop) (router : Router) (subjects : List Subject) : Prop where
  declares : router.catalog = cat
  memory : kept router.memory
  accounts : Accounts cat hints known
    { table := router.registry.table, memo := router.registry.memo } subjects

theorem Accounts.resume (accounts : Accounts cat hints known sess subjects) :
    Accounts cat hints known { table := sess.table, memo := sess.memo } subjects := by
  obtain ⟨types, reflects, described⟩ := accounts
  exact ⟨types, ⟨reflects.table, reflects.sound, reflects.memo⟩, described⟩

section
variable {router : Router} {subjects : List Subject} (settled : cat.Settled kept hints known)
  (differ : cat.NamesDiffer known)

include settled differ

section
variable (keeps : Keeps cat kept hints known router subjects)

include keeps

theorem Keeps.addSchema
    (only : PassesOnly known source?) (succeeds : (router.addSchema source?).1 = .ok ()) :
    Keeps cat kept hints known (router.addSchema source?).2 (subjects ++ passedAt source?) := by
  rcases router.addSchema_cases source? with
    ⟨type?, reg, memory, ran, performed, added⟩ | ⟨refusal, memory, refused⟩
  · rw [keeps.declares] at ran
    obtain ⟨held, rooted⟩ := typed_of_candidate? settled differ only keeps.memory ran
    obtain ⟨inOrder, -, -, -, sess, synthesized, rfl⟩ :=
      (Registry.perform_eq_ok_iff (by simp)).mp performed
    rw [added]
    cases type? with
    | none => cases inOrder
    | some type =>
      exact ⟨keeps.declares, held, (keeps.accounts.ofDescriptors rooted synthesized).resume⟩
  · rw [refused] at succeeds
    cases succeeds

theorem Keeps.addSchemas (only : ∀ source? ∈ sources, PassesOnly known source?)
    (succeeds : (router.addSchemas sources).1 = .ok ()) :
    Keeps cat kept hints known (router.addSchemas sources).2
      (subjects ++ sources.flatMap passedAt) := by
  induction sources generalizing router subjects with
  | nil =>
    rw [flatMap_nil, append_nil]
    exact keeps
  | cons source? rest ih =>
    rw [Router.addSchemas] at succeeds ⊢
    have first : (router.addSchema source?).1 = .ok () -> _ :=
      keeps.addSchema settled differ (only source? (.head _))
    cases step : router.addSchema source? with
    | mk answer post =>
      rw [step] at first succeeds
      cases answer with
      | error refusal => cases succeeds
      | ok =>
        rw [flatMap_cons, <- append_assoc]
        exact ih (first rfl) (forall_mem_cons.mp only).2 succeeds

theorem Keeps.addRoute
    (only : ∀ source? ∈ (Addition.route handler).sources, PassesOnly known source?)
    (succeeds : (router.addRoute handler).1 = .ok entry) :
    Keeps cat kept hints known (router.addRoute handler).2
      (subjects ++ (Addition.route handler).sources.flatMap passedAt) := by
  rcases router.addRoute_cases handler with
    ⟨req, _, reg, memory, ran, performed, added⟩ | ⟨refusal, memory, refused⟩
  · rw [keeps.declares] at ran
    obtain ⟨success?, _, error?, _, body?, first, second, third, rfl⟩ := yields_request.mp ran
    obtain ⟨held, success⟩ := typed_of_candidate? settled differ
      (only handler.response? (by simp [Addition.sources])) keeps.memory first
    obtain ⟨held, error⟩ := typed_of_candidate? settled differ
      (only handler.error? (by simp [Addition.sources])) held second
    obtain ⟨held, body⟩ := typed_of_candidate? settled differ
      (only handler.body? (by simp [Addition.sources])) held third
    obtain ⟨-, -, -, -, sess, synthesized, rfl⟩ :=
      (Registry.perform_eq_ok_iff (by simp)).mp performed
    rw [Registry.Call.descriptors_register] at synthesized
    have accounts := keeps.accounts.ofDescriptors
      (rel_append success (rel_append error body)) synthesized
    rw [added]
    refine ⟨keeps.declares, held, ?_⟩
    simp only [Addition.sources, flatMap_cons, flatMap_nil, append_nil]
    exact accounts.resume
  · rw [refused] at succeeds
    cases succeeds

theorem Keeps.add (only : ∀ source? ∈ addition.sources, PassesOnly known source?)
    (succeeds : (router.add addition).1 = .ok ()) :
    Keeps cat kept hints known (router.add addition).2
      (subjects ++ addition.sources.flatMap passedAt) := by
  cases addition with
  | schemas sources => exact keeps.addSchemas settled differ only succeeds
  | route handler =>
    cases answered : (router.addRoute handler).1 with
    | error refusal =>
      rw [Router.add, answered] at succeeds
      cases succeeds
    | ok entry => exact keeps.addRoute settled differ only answered

theorem Keeps.addAll
    (only : ∀ addition ∈ additions, ∀ source? ∈ addition.sources, PassesOnly known source?)
    (succeeds : (router.addAll additions).1 = .ok ()) :
    Keeps cat kept hints known (router.addAll additions).2 (subjects ++ passed additions) := by
  induction additions generalizing router subjects with
  | nil =>
    rw [passed, flatMap_nil, append_nil]
    exact keeps
  | cons addition rest ih =>
    rw [Router.addAll] at succeeds ⊢
    have first : (router.add addition).1 = .ok () -> _ :=
      keeps.add settled differ (only addition (.head _))
    cases step : router.add addition with
    | mk answer post =>
      rw [step] at first succeeds
      cases answer with
      | error refusal => cases succeeds
      | ok =>
        rw [passed, flatMap_cons, <- append_assoc]
        exact ih (first rfl) (forall_mem_cons.mp only).2 succeeds
end
end

/-- Classes with different names that are added to a new router are in no conflict, unless a
union refers to itself through another class. If one does, there is a conflict as soon as
both have been added. -/
theorem conflicts_of_addAll {router : Router} {additions : List Addition}
    (fresh : router.registry = {}) (held : kept router.memory)
    (settled : router.catalog.Settled kept hints known) (apart : router.catalog.NamesApart known)
    (only : ∀ addition ∈ additions, ∀ source? ∈ addition.sources, PassesOnly known source?)
    (succeeds : (router.addAll additions).1 = .ok ()) :
    ((∀ union other, known (.declared union) -> ¬ router.catalog.ReturnsThrough hints union other) ->
      (router.addAll additions).2.registry.table.conflicts = []) /\
    ∀ union other, router.catalog.ReturnsThrough hints union other ->
      .declared union ∈ passed additions -> .declared other ∈ passed additions ->
        (router.addAll additions).2.registry.table.conflicts ≠ [] := by
  have start : Keeps router.catalog kept hints known router [] := by
    refine ⟨rfl, held, ?_⟩
    rw [fresh]
    exact ⟨[], Session.Reflects.start, nofun, nofun⟩
  have keeps := start.addAll settled (apart.differ settled) only succeeds
  obtain ⟨types, reflects, stated, described⟩ := keeps.accounts
  have conflicts := reflects.table.conflicts
  constructor
  · intro straight
    apply eq_nil_iff_forall_not_mem.mpr
    intro name mem
    exact not_conflicting settled apart straight stated reflects.sound name
      ((conflicts name).mp mem)
  · intro union other returns unionPassed otherPassed
    obtain ⟨unionDescriptor, unionRooted, unionIncluded⟩ := described _ unionPassed
    obtain ⟨otherDescriptor, otherRooted, otherIncluded⟩ := described _ otherPassed
    have otherKnown : known (.declared other) := by
      obtain ⟨addition, listed, inside⟩ := mem_flatMap.mp otherPassed
      obtain ⟨source?, sourceListed, at_⟩ := mem_flatMap.mp inside
      exact known_of_mem_passedAt (only addition listed source? sourceListed) at_
    obtain ⟨name, conflicting⟩ := conflicting_of_returns settled returns otherKnown unionRooted
      otherRooted unionIncluded otherIncluded
    exact ne_nil_of_mem ((conflicts name).mpr conflicting)

/-- Folders and files refer to each other, an error refers to itself and to folders, and a
report refers to the error. -/
def shelves : List Profile := [
  { name := "Folder", fields := pure [⟨"cover", .declared 1 "File", true⟩] },
  { name := "File", fields := pure [⟨"folder", .declared 0 "Folder", false⟩] },
  { name := "Missing"
    doc? := some "404: not there"
    fields := pure [⟨"folder", .declared 0 "Folder", false⟩, ⟨"cause", .declared 3 "Fault", true⟩] },
  { name := "Fault", isErrorUnion := true, variants := [.declared 2] },
  { name := "Report", fields := pure [⟨"fault", .declared 3 "Fault", false⟩] }]

def shelfHints : Nat -> List FieldHint
  | 0 => [⟨"cover", .declared 1 "File", true⟩]
  | 1 => [⟨"folder", .declared 0 "Folder", false⟩]
  | 2 => [⟨"folder", .declared 0 "Folder", false⟩, ⟨"cause", .declared 3 "Fault", true⟩]
  | 4 => [⟨"fault", .declared 3 "Fault", false⟩]
  | _ => []

/-- A route and two schemas with these classes, each of which is described more than once. -/
def shelfAdditions : List Addition := [ .route {
    method := "GET"
    path := "/folders"
    response? := some (.hinted (.declared 0 "Folder"))
    error? := some (.hinted (.declared 3 "Fault")) },
  .schemas [some (.hinted (.declared 4 "Report")), some (.hinted (.declared 1 "File"))]]

def shelfRouter : Router where
  title := "Shelves"
  version := "1"
  catalog := { profiles := shelves }

def ShelfClass (subject : Subject) : Prop :=
  subject ∈ [Subject.declared 0, .declared 1, .declared 3, .declared 4]

theorem declared_shelf (declared : shelfRouter.catalog.declared? number = some profile) :
    number < 5 /\ profile.fields = pure (shelfHints number) := by
  have bounded : number < 5 := lt_of_declared declared
  refine ⟨bounded, ?_⟩
  match number, bounded with
  | 0, _ | 1, _ | 2, _ | 3, _ | 4, _ =>
    cases declared
    rfl

def shelfReferences : List (Nat × Subject) :=
  [(0, .declared 1), (1, .declared 0), (2, .declared 0), (2, .declared 3), (3, .declared 0),
    (3, .declared 3), (4, .declared 3)]

theorem mem_shelfReferences (mentions : shelfRouter.catalog.Mentions shelfHints number subject) :
    (number, subject) ∈ shelfReferences := by
  have all : ∀ number < 5, ∀ subject ∈ shelfRouter.catalog.mentioned shelfHints number,
      (number, subject) ∈ shelfReferences := by
    decide +kernel
  rw [Catalog.mentions_iff] at mentions
  refine all number ?_ subject mentions
  cases declared : shelfRouter.catalog.declared? number with
  | none => simp [Catalog.mentioned, Catalog.hintsOf, declared] at mentions
  | some profile => exact (declared_shelf declared).1

theorem settled_shelf : shelfRouter.catalog.Settled (fun _ => True) shelfHints ShelfClass where
  resolves := by
    intro number profile memory found post declared _ yields
    rw [(declared_shelf declared).2] at yields
    exact ⟨(yields_pure.mp yields).1, trivial⟩
  declared := by
    intro number isKnown
    simp only [ShelfClass, mem_cons, Subject.declared.injEq, not_mem_nil, or_false] at isKnown
    rcases isKnown with rfl | rfl | rfl | rfl <;> exact ⟨_, rfl⟩
  variants := by
    intro number profile _ declared variant listed
    match number, (declared_shelf declared).1 with
    | 0, _ | 1, _ | 2, _ | 4, _ =>
      cases declared
      cases listed
    | 3, _ =>
      cases declared
      cases mem_singleton.mp listed
      exact ⟨_, rfl⟩
  mentioned := by
    intro number other _ mentions
    have listed := mem_shelfReferences mentions
    simp only [shelfReferences, mem_cons, Prod.mk.injEq, Subject.declared.injEq,
      not_mem_nil, or_false] at listed
    rcases listed with ⟨-, rfl⟩ | ⟨-, rfl⟩ | ⟨-, rfl⟩ | ⟨-, rfl⟩ | ⟨-, rfl⟩ | ⟨-, rfl⟩ | ⟨-, rfl⟩ <;>
      exact ⟨_, rfl, fun _ => by simp [ShelfClass]⟩
  builtin := by
    intro number class_ _ mentions
    have listed := mem_shelfReferences mentions
    simp [shelfReferences] at listed

theorem reached_shelf (reaches : Relation.TransGen (shelfRouter.catalog.Leads shelfHints) 3 other) :
    other = 0 \/ other = 1 \/ other = 3 := by
  have closed : ∀ {number next : Nat}, (number = 0 \/ number = 1 \/ number = 3) ->
      shelfRouter.catalog.Leads shelfHints number next -> next = 0 \/ next = 1 \/ next = 3 := by
    intro number next inside leads
    have listed := mem_shelfReferences leads.1
    simp only [shelfReferences, mem_cons, Prod.mk.injEq, Subject.declared.injEq,
      not_mem_nil, or_false] at listed
    omega
  induction reaches with
  | single leads => exact closed (.inr (.inr rfl)) leads
  | tail _ leads ih => exact closed ih leads

theorem straight_shelf (union other : Nat) :
    ¬ shelfRouter.catalog.ReturnsThrough shelfHints union other := by
  intro returns
  have only : ∀ number < 5, ((shelfRouter.catalog.declared? number).map Profile.isErrorUnion) =
      some true -> number = 3 := by
    decide +kernel
  obtain ⟨profile, declared, isUnion⟩ := returns.isUnion
  obtain rfl := only union (declared_shelf declared).1 (by rw [declared, Option.map_some, isUnion])
  have reached := reached_shelf returns.reaches
  have ne := returns.different
  have back := mem_shelfReferences returns.returns.1
  simp only [shelfReferences, mem_cons, Prod.mk.injEq, Subject.declared.injEq,
    not_mem_nil, or_false] at back
  omega

/-- The classes are in no conflict, whatever they stand inside of. -/
theorem conflicts_of_addAll_shelf :
    shelfRouter.catalog.Settled (fun _ => True) shelfHints ShelfClass /\
      (shelfRouter.addAll shelfAdditions).1 = .ok () /\
      (shelfRouter.addAll shelfAdditions).2.registry.table.conflicts = [] := by
  have succeeds : (shelfRouter.addAll shelfAdditions).1 = .ok () := by decide +kernel
  refine ⟨settled_shelf, succeeds, ?_⟩
  refine (conflicts_of_addAll rfl trivial settled_shelf ?_ ?_ succeeds).1 fun union other _ =>
    straight_shelf union other
  · have apart : ∀ first ∈ [Subject.declared 0, .declared 1, .declared 3, .declared 4],
        ∀ second ∈ [Subject.declared 0, .declared 1, .declared 3, .declared 4],
          ∀ name ∈ shelfRouter.catalog.schemaNames first,
            name ∈ shelfRouter.catalog.schemaNames second -> first = second := by
      decide +kernel
    exact fun first second firstKnown secondKnown => apart first firstKnown second secondKnown
  · simp [shelfAdditions, Addition.sources, PassesOnly, TypeSource.subject?, ShelfClass]

def entangled : List Declaration := [
  .mk { name := "Account", fields := [{ name := "last", form := .text "Fault" }] } [],
  .mk { name := "Fault", isErrorUnion := true } [ .mk {
      name := "Closed"
      doc? := some "404: closed"
      fields := [{ name := "account", form := .declared "Account" }] } []]]

def entangledRouter : Router where
  title := "Accounts"
  version := "1"
  catalog := ((makeAll entangled).toOption.getD {}).catalog

/-- The account is in conflict with itself, although both classes are only passed as
themselves and all names are different. -/
theorem entangled_conflict : entangledRouter.catalog.schemaNames (.declared 0) = ["Account"] /\
      entangledRouter.catalog.schemaNames (.declared 2) = ["Fault", "Fault.Closed"] /\
      (entangledRouter.addAll [.schemas [some (.hinted (.declared 0 "Account")),
        some (.hinted (.declared 2 "Fault"))]]).1 = .ok () /\
      (entangledRouter.addAll [.schemas [some (.hinted (.declared 0 "Account")),
        some (.hinted (.declared 2 "Fault"))]]).2.registry.table.conflicts = ["Account"] := by
  decide +kernel
end RouteDocs.Router
