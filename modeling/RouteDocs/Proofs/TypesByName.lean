import RouteDocs.Proofs.UnknownSchemas

namespace RouteDocs
open List Route Schema

/-!
# Types by name

A route can be given a type, or the name of a type that is registered at some other point. The same
types occur in either run, in another order. Where types agree, the order does not show in the
table; where they do not, there is a conflict. So the two ways give the same document or none.
-/

/-- Two sessions that reflect the same types have a conflict both or neither; without one, they
have the same nodes and the same status maps. -/
theorem Schema.Session.Reflects.alike {first second : Session} (one : first.Reflects types)
    (other : second.Reflects others) (members : ∀ type, type ∈ types ↔ type ∈ others) :
    (first.table.conflicts = [] ↔ second.table.conflicts = []) /\
      (second.table.conflicts = [] -> ∀ name, first.table.get? name = second.table.get? name /\
          first.table.statusMap? name = second.table.statusMap? name) := by
  have defns : ∀ defn, defn ∈ types.flatMap Descriptor.ownDefinitions ↔
      defn ∈ others.flatMap Descriptor.ownDefinitions := by
    intro defn
    simp only [mem_flatMap, members]
  constructor
  · rw [eq_nil_iff_forall_not_mem, eq_nil_iff_forall_not_mem]
    apply forall_congr'
    intro name
    rw [one.table.conflicts, other.table.conflicts, conflicting_congr defns]
  · intro unconflicted name
    have agreeing : ¬ Conflicting (others.flatMap Descriptor.ownDefinitions) name := by
      rw [<- other.table.conflicts, unconflicted]
      exact not_mem_nil
    rw [one.table.schemas, other.table.schemas, one.table.statuses, other.table.statuses]
    exact ⟨firstNode?_congr defns agreeing, firstStatuses?_congr defns rfl other.sound agreeing⟩

theorem OpenApi.danglingReference?_of_get?_eq (nodes : ∀ name, first.get? name = second.get? name)
    (complete : danglingReference? first = none) : danglingReference? second = none := by
  cases dangling : danglingReference? second with
  | none => rfl
  | some found =>
    rcases found with ⟨target, owner⟩
    rcases exists_of_danglingReference? dangling with ⟨node, found, referred, unknown⟩
    have listed := (first.schemas.mem_entries_iff owner node).mpr ((nodes owner).trans found)
    have registered := covers_references complete listed target referred
    have same : first.contains target = second.contains target :=
      congrArg Option.isSome (nodes target)
    rw [same, unknown] at registered
    cases registered

namespace Registry
open OpenApi (Site TablesAlike)

theorem assemble_of_alike {title : String} {first second : Registry} (entries : first.entries = second.entries)
    (agreeing : second.table.conflicts = [])
    (tables : ∀ name, first.table.get? name = second.table.get? name /\
      first.table.statusMap? name = second.table.statusMap? name)
    (assembled : (first.assemble title version options).1 = .ok document) :
    ∃ other, (second.assemble title version options).1 = .ok other /\ other.paths = document.paths /\
      ∀ name, other.schemas.get? name = document.schemas.get? name := by
  have alike : TablesAlike first.table second.table :=
    ⟨fun name => congrArg Option.isSome (tables name).1, fun name => (tables name).2⟩
  rcases OpenApi.paths_of_assembly assembled with ⟨-, complete, schemas, ops, built, filed⟩
  have alsoComplete := OpenApi.danglingReference?_of_get?_eq (fun name => (tables name).1) complete
  have alsoBuilt : Forall₂ (fun entry op =>
      Site.alone ⟨entry, second.table, options⟩ = .ok op) second.entries ops := by
    rw [<- entries]
    refine built.imp fun entry op here => ?_
    rw [<- Site.alone_congr alike]
    exact here
  rcases OpenApi.yields_assembly ⟨title, version, options.description?⟩ agreeing alsoComplete
    alsoBuilt with ⟨other, after, assembledToo, otherSchemas, otherFiled⟩
  refine ⟨other, congrArg Prod.fst assembledToo, ?_, ?_⟩
  · rw [otherFiled, filed, entries]
  · intro name
    rw [otherSchemas, schemas]
    exact (tables name).1.symm
end Registry

def Route.Request.byName (request : Request) (name : String) : Role -> Request
  | .success => { request with success? := some (.descriptor (.named name)) }
  | .error => { request with error? := some (.descriptor (.named name)) }
  | .body => { request with body? := some (.descriptor (.named name)) }

theorem Route.Request.type?_byName (request : Request) (name : String) (role other : Role) :
    (request.byName name role).type? other =
      if other = role then some (.descriptor (.named name)) else request.type? other := by
  cases role <;> cases other <;> rfl

theorem Route.Request.entry_byName {request : Request} (passes : request.type? role = some type)
    (named : type.schemaName? = some name) (method : Http.Method) (doc : EndpointDoc) :
    (request.byName name role).entry method doc = request.entry method doc := by
  have same : (Candidate.descriptor (.named name)).schemaName? = type.schemaName? := named.symm
  cases role with
  | success =>
    have known : request.success? = some type := passes
    simp [byName, entry, known, same]
  | error =>
    have known : request.error? = some type := passes
    simp [byName, entry, known, same]
  | body =>
    have known : request.body? = some type := passes
    simp [byName, entry, known, same]

namespace Registry
theorem mem_descriptors_register (request : Request) (descriptor : Descriptor) :
    descriptor ∈ (Call.register request).descriptors ↔
      ∃ role, request.type? role = some (.descriptor descriptor) := by
  have listed : ∀ type, type ∈ (Call.register request).types ↔ ∃ role, request.type? role = some type := by
    intro type
    simp only [Call.types, mem_flatMap, Option.mem_toList]
    constructor
    · rintro ⟨role, -, passes⟩
      exact ⟨role, passes⟩
    · rintro ⟨role, passes⟩
      refine ⟨role, ?_, passes⟩
      cases role <;> decide
  rw [Call.descriptors, mem_filterMap]
  constructor
  · rintro ⟨type, mem, same⟩
    cases type with
    | foreign shown => cases same
    | descriptor given =>
      cases same
      exact (listed _).mp mem
  · intro passes
    exact ⟨_, (listed _).mpr passes, rfl⟩

theorem inOrder_byName (inOrder : (Call.register request).InOrder) (name : String) (role : Role) :
    (Call.register (request.byName name role)).InOrder := by
  cases inOrder with
  | register supported read typed =>
    have typedToo : (request.byName name role).Typed := by
      intro other type given
      rw [Request.type?_byName] at given
      split at given
      · rw [<- Option.some.inj given]
        rfl
      · exact typed other type given
    cases role <;> exact .register supported read typedToo

/-- In a run of calls a route is given a type. In another run it is given the name of the type,
and the type is registered at some point of its own. -/
structure Deferral where
  request : Request
  role : Role
  type : Descriptor
  name : String
  before : List Call
  after : List Call
  earlier : List Call
  later : List Call
  passes : request.type? role = some (.descriptor type)
  named : type.name? = some name
  moved : earlier ++ later = before ++ .register (request.byName name role) :: after

namespace Deferral
def eager (deferral : Deferral) : List Call :=
  deferral.before ++ .register deferral.request :: deferral.after

def deferred (deferral : Deferral) : List Call :=
  deferral.earlier ++ .registerType (.descriptor deferral.type) :: deferral.later

theorem mem_middle : call ∈ first ++ mid :: second ↔ call = mid \/ call ∈ first ++ second := by
  simp only [mem_append, mem_cons, or_left_comm]

variable (deferral : Deferral)

theorem mem_eager_iff (call : Call) : call ∈ deferral.eager ↔
      call = .register deferral.request \/ call ∈ deferral.before ++ deferral.after :=
  mem_middle

theorem mem_deferred_iff (call : Call) : call ∈ deferral.deferred ↔
      call = .registerType (.descriptor deferral.type) \/
        call = .register (deferral.request.byName deferral.name deferral.role) \/
        call ∈ deferral.before ++ deferral.after := by
  rw [deferred, mem_middle, deferral.moved, mem_middle]

theorem passed_eager_subset : passed deferral.eager ⊆ passed deferral.deferred := by
  intro type mem
  rcases mem_flatMap.mp mem with ⟨call, listed, ofCall⟩
  rcases (deferral.mem_eager_iff call).mp listed with rfl | kept
  · rcases (mem_descriptors_register _ type).mp ofCall with ⟨other, given⟩
    by_cases replaced : other = deferral.role
    · rw [replaced, deferral.passes] at given
      cases given
      exact mem_flatMap.mpr ⟨_, (deferral.mem_deferred_iff _).mpr (.inl rfl),
        mem_singleton_self _⟩
    · refine mem_flatMap.mpr ⟨_, (deferral.mem_deferred_iff _).mpr (.inr (.inl rfl)), ?_⟩
      refine (mem_descriptors_register _ type).mpr ⟨other, ?_⟩
      rw [Request.type?_byName, if_neg replaced]
      exact given
  · exact mem_flatMap.mpr
      ⟨call, (deferral.mem_deferred_iff call).mpr (.inr (.inr kept)), ofCall⟩

theorem passed_of_deferred {type : Descriptor} (mem : type ∈ passed deferral.deferred) :
    type = .named deferral.name \/ type ∈ passed deferral.eager := by
  have ofRequest : ∀ role, deferral.request.type? role = some (.descriptor type) ->
      type ∈ passed deferral.eager := fun role given =>
    mem_flatMap.mpr ⟨_, (deferral.mem_eager_iff _).mpr (.inl rfl),
      (mem_descriptors_register _ _).mpr ⟨role, given⟩⟩
  rcases mem_flatMap.mp mem with ⟨call, listed, ofCall⟩
  rcases (deferral.mem_deferred_iff call).mp listed with rfl | rfl | kept
  · rw [mem_singleton.mp ofCall] at ofRequest ⊢
    exact .inr (ofRequest _ deferral.passes)
  · rcases (mem_descriptors_register _ type).mp ofCall with ⟨other, given⟩
    rw [Request.type?_byName] at given
    split at given
    · cases given
      exact .inl rfl
    · exact .inr (ofRequest other given)
  · exact .inr (mem_flatMap.mpr ⟨call, (deferral.mem_eager_iff call).mpr (.inr kept), ofCall⟩)

theorem mem_types_iff (inner : Descriptor) :
    inner ∈ (passed deferral.eager).flatMap Descriptor.types ↔
      inner ∈ (passed deferral.deferred).flatMap Descriptor.types := by
  rw [mem_flatMap, mem_flatMap]
  constructor
  · rintro ⟨type, mem, within⟩
    exact ⟨type, deferral.passed_eager_subset mem, within⟩
  · rintro ⟨type, mem, within⟩
    rcases deferral.passed_of_deferred mem with rfl | listed
    · cases within
    · exact ⟨type, listed, within⟩

theorem unnested_deferred (unnested : ∀ type ∈ passed deferral.eager, type.Unnested) :
    ∀ type ∈ passed deferral.deferred, type.Unnested := by
  intro type mem
  rcases deferral.passed_of_deferred mem with rfl | listed
  · exact fun _ impossible => absurd impossible not_mem_nil
  · exact unnested type listed

section
variable {deferral} (inOrder : ∀ call ∈ deferral.eager, call.InOrder)

include inOrder

theorem request_inOrder : (Call.register deferral.request).InOrder :=
  inOrder _ ((deferral.mem_eager_iff _).mpr (.inl rfl))

theorem inOrder_deferred : ∀ call ∈ deferral.deferred, call.InOrder := by
  intro call mem
  rcases (deferral.mem_deferred_iff call).mp mem with rfl | rfl | kept
  · exact .registerType deferral.type
  · exact inOrder_byName (request_inOrder inOrder) _ _
  · exact inOrder call ((deferral.mem_eager_iff call).mpr (.inr kept))

theorem entries_deferred :
    deferral.deferred.filterMap Call.reply? = deferral.eager.filterMap Call.reply? := by
  have sameEntry : (Call.register (deferral.request.byName deferral.name deferral.role)).reply? =
      (Call.register deferral.request).reply? := by
    cases request_inOrder inOrder with
    | register supported read typed =>
      have named : (Candidate.descriptor deferral.type).schemaName? = some deferral.name := by
        have hasName := typed deferral.role _ deferral.passes
        rw [<- deferral.named]
        cases given : deferral.type with
        | named | struct | union => rfl
        | primitive | optional | sequence =>
          rw [given] at hasName
          cases hasName
      have unmoved : ∀ role, (deferral.request.byName deferral.name role).method =
          deferral.request.method /\
            (deferral.request.byName deferral.name role).doc = deferral.request.doc := by
        intro role
        cases role <;> exact ⟨rfl, rfl⟩
      simp only [Call.reply?, unmoved, supported, read, Option.bind_some, Except.toOption,
        Option.map_some]
      rw [Request.entry_byName deferral.passes named]
  have unseen : deferral.deferred.filterMap Call.reply? =
      (deferral.earlier ++ deferral.later).filterMap Call.reply? := by
    rw [deferred, filterMap_append, filterMap_cons, filterMap_append]
    rfl
  rw [unseen, deferral.moved, eager, filterMap_append, filterMap_append,
    filterMap_cons, filterMap_cons, sameEntry]

/-- The other run succeeds: its calls are in order, what it passes is without fault, and it enters
the same routes. -/
theorem succeeds_deferred (grounded : ∀ type ∈ passed deferral.eager, type.Grounded)
    (sound : ∀ inner ∈ (passed deferral.eager).flatMap Descriptor.types, inner.OwnSound)
    (distinct : ((deferral.eager.filterMap Call.reply?).map Entry.key).Nodup) :
    ∀ reply ∈ (performAll {} deferral.deferred).1, reply.isOk = true := by
  refine performAll_succeeds rfl rfl (inOrder_deferred inOrder) ?_ ?_
  · intro type mem
    rcases deferral.passed_of_deferred mem with rfl | listed
    · exact ⟨trivial, fun _ impossible => absurd impossible not_mem_nil⟩
    · refine ⟨grounded type listed, fun inner within => sound inner ?_⟩
      exact mem_flatMap.mpr ⟨type, listed, within⟩
  · rw [entries_deferred inOrder]
    exact distinct
end
end Deferral

section

/-! Two registries have the same entries and reflect the same types. -/

variable {first second : Registry} {types others : List Descriptor}
  (entries : first.entries = second.entries) (one : first.session.Reflects types)
  (other : second.session.Reflects others) (members : ∀ type, type ∈ types ↔ type ∈ others)
  {title version : String} {options : OpenApi.Options} {document : Document}

include entries one other members

theorem assemble_of_reflects (assembled : (first.assemble title version options).1 = .ok document) :
    ∃ counterpart, (second.assemble title version options).1 = .ok counterpart /\
      counterpart.paths = document.paths /\
      ∀ name, counterpart.schemas.get? name = document.schemas.get? name := by
  have agreeing := (OpenApi.paths_of_assembly assembled).1
  rcases one.alike other members with ⟨sameConflicts, tables⟩
  have alsoAgreeing := sameConflicts.mp agreeing
  exact assemble_of_alike entries alsoAgreeing (tables alsoAgreeing) assembled

theorem unassembled_of_reflects
    (unassembled : ∃ failure, (second.assemble title version options).1 = .error failure) :
    ∃ failure, (first.assemble title version options).1 = .error failure := by
  rcases unassembled with ⟨failure, failed⟩
  cases answer : (first.assemble title version options).1 with
  | error cause => exact ⟨cause, rfl⟩
  | ok document =>
    rcases assemble_of_reflects entries one other members answer with ⟨counterpart, found, -⟩
    rw [found] at failed
    cases failed

theorem documents_agree (assembled : (first.assemble title version options).1 = .ok document)
    (assembledToo : (second.assemble title version options).1 = .ok counterpart) :
    counterpart.paths = document.paths /\ ∀ name, (counterpart.schemas.get? name).map Node.toJson =
        (document.schemas.get? name).map Node.toJson := by
  rcases assemble_of_reflects entries one other members assembled with
    ⟨same, found, paths, schemas⟩
  rw [found] at assembledToo
  cases assembledToo
  exact ⟨paths, fun name => congrArg (Option.map Node.toJson) (schemas name)⟩
end

/-- Naming a type and passing its descriptor are interchangeable. In a run of calls that all
succeed and in which no type stands inside one of the same name, a route is given the name of
its type instead of the type itself, and the type is registered at any point. Then all calls
succeed again; no document is assembled exactly if none was before; and otherwise the document
has the same operations on the same paths, in the same order, and the same schema under each
name. -/
theorem named_type_interchangeable (deferral : Deferral) (registers : Call.freeze ∉ deferral.eager)
    (unnested : ∀ descriptor ∈ passed deferral.eager, descriptor.Unnested)
    (succeeds : ∀ reply ∈ (performAll {} deferral.eager).1, reply.isOk = true) :
    (∀ reply ∈ (performAll {} deferral.deferred).1, reply.isOk = true) /\ ∀ title version options,
        ((∃ failure, ((performAll {} deferral.deferred).2.assemble title version options).1 =
              .error failure) ↔
            ∃ failure, ((performAll {} deferral.eager).2.assemble title version options).1 =
              .error failure) /\ ∀ document other,
            ((performAll {} deferral.eager).2.assemble title version options).1 = .ok document ->
            ((performAll {} deferral.deferred).2.assemble title version options).1 = .ok other ->
            other.paths = document.paths /\
              ∀ component, (other.schemas.get? component).map Node.toJson =
                (document.schemas.get? component).map Node.toJson := by
  have start : ({} : Registry).session.Reflects [] := Session.Reflects.start
  rcases performAll_reflects registers unnested start succeeds with
    ⟨inOrder, grounded, reflects, entered⟩
  have noRoutes : ({} : Registry).RoutesDistinct := nodup_nil
  have distinct := noRoutes.performAll deferral.eager
  rw [RoutesDistinct, entered] at distinct
  have succeedsToo := Deferral.succeeds_deferred inOrder grounded reflects.sound distinct
  have registersToo : Call.freeze ∉ deferral.deferred := by
    intro mem
    cases Deferral.inOrder_deferred inOrder _ mem
  rcases performAll_reflects registersToo (deferral.unnested_deferred unnested) start succeedsToo with
    ⟨-, -, reflectsToo, enteredToo⟩
  have entries : (performAll {} deferral.eager).2.entries =
      (performAll {} deferral.deferred).2.entries := by
    rw [entered, enteredToo, Deferral.entries_deferred inOrder]
  have sameTypes := deferral.mem_types_iff
  refine ⟨succeedsToo, fun title version options => ⟨⟨?_, ?_⟩, fun document other => ?_⟩⟩
  · exact unassembled_of_reflects entries reflects reflectsToo sameTypes
  · exact unassembled_of_reflects entries.symm reflectsToo reflects fun type => (sameTypes type).symm
  · exact documents_agree entries reflects reflectsToo sameTypes

section

/-- What can go wrong with an order; one error shows the item that is missing. -/
def orderFault : Descriptor := .union "OrderFault"
    [⟨"Missing", [⟨"item", .struct "Item" [⟨"id", .primitive "int", false⟩] "", false⟩],
        "404 No such item"⟩,
      ⟨"Closed", [], "No more orders"⟩]

def placeOrder : Request where
  method := "POST"
  path := "/orders"
  doc := .parsed { summary := "Order items" }
  error? := some (.descriptor orderFault)

def listItems : Request where
  method := "GET"
  path := "/items"
  doc := .parsed { summary := "All items" }
  success? := some (.descriptor (.struct "Item" [⟨"id", .primitive "int", false⟩] ""))

/-- The error of an order is given by its name, and registered after everything else. -/
def faultByName : Deferral where
  request := placeOrder
  role := .error
  type := orderFault
  name := "OrderFault"
  before := []
  after := [.register listItems]
  earlier := [.register (placeOrder.byName "OrderFault" .error), .register listItems]
  later := []
  passes := rfl
  named := rfl
  moved := rfl

theorem named_type_interchangeable_orderFault :
    (∀ reply ∈ (performAll {} faultByName.eager).1, reply.isOk = true) /\
      (∀ reply ∈ (performAll {} faultByName.deferred).1, reply.isOk = true) /\ ∃ document other,
        ((performAll {} faultByName.eager).2.assemble "Orders" "1" {}).1 = .ok document /\
        ((performAll {} faultByName.deferred).2.assemble "Orders" "1" {}).1 = .ok other /\
        other.paths = document.paths := by
  have registers : Call.freeze ∉ faultByName.eager := by
    intro mem
    simp [Deferral.eager, faultByName] at mem
  have unnested : ∀ type ∈ passed faultByName.eager, type.Unnested := by decide +kernel
  have succeeds : ∀ reply ∈ (performAll {} faultByName.eager).1, reply.isOk = true := by
    decide +kernel
  rcases named_type_interchangeable faultByName registers unnested succeeds with
    ⟨succeedsToo, documents⟩
  rcases documents "Orders" "1" {} with ⟨fails, agree⟩
  refine ⟨succeeds, succeedsToo, ?_⟩
  have assembles : ((performAll {} faultByName.eager).2.assemble "Orders" "1" {}).1.isOk = true := by
    decide +kernel
  cases first : ((performAll {} faultByName.eager).2.assemble "Orders" "1" {}).1 with
  | error failure =>
    rw [first] at assembles
    cases assembles
  | ok document =>
    cases second : ((performAll {} faultByName.deferred).2.assemble "Orders" "1" {}).1 with
    | error failure =>
      rcases fails.mp ⟨failure, second⟩ with ⟨cause, failed⟩
      cases first.symm.trans failed
    | ok other => exact ⟨document, other, rfl, rfl, (agree document other first second).1⟩
end
end Registry
end RouteDocs
