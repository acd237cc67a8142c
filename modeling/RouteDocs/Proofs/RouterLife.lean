import RouteDocs.Proofs.RegistryRuns
import RouteDocs.Route.Router

namespace RouteDocs
open OpenApi Registry
open Route (Entry)
open Schema

/-!
# The life of a router

`Router.Coherent` says how the handlers, the entries of the registry, its table and the document fit
together. Every call keeps it, whether or not it succeeds. With a document in place the registry
is frozen, so that a call can only be answered by the document or refused.
-/

namespace OpenApi
theorem tablesAlike_freeze (table : Table) : TablesAlike table.freeze table where
  contains := fun _ => rfl
  statusMap? := fun _ => rfl

theorem addOperations_freeze (table : Table) (options : Options) (entries : List Entry)
    (paths : Paths) :
    addOperations table.freeze options paths entries = addOperations table options paths entries := by
  induction entries generalizing paths with
  | nil => rfl
  | cons entry rest ih =>
    simp only [addOperations, ih, Site.operation_congr (tablesAlike_freeze table)]
end OpenApi

namespace Registry
theorem assemble_freeze (registry : Registry) (title version : String) (options : Options) :
    registry.freeze.assemble title version options = registry.assemble title version options := by
  have same : assembly ⟨title, version, options.description?⟩ registry.entries
      registry.table.freeze options =
      assembly ⟨title, version, options.description?⟩ registry.entries registry.table
        options := by
    unfold assembly
    rw [addOperations_freeze]
    rfl
  unfold assemble freeze
  dsimp only
  rw [same]
end Registry

namespace Router
inductive Call where
  | addRoute (handler : Handler)
  | decorate (method : String) (handler : Handler)
  | addSchemas (sources : List (Option TypeSource))
  | document
  | publications (base : String)

inductive Answer where
  | entry (entry : Entry)
  | handler (handler : Handler)
  | done
  | document (document : Document)
  | publications (publications : List Publication)

def perform (router : Router) : Call -> Outcome Answer
  | .addRoute handler => (router.addRoute handler).map (Except.map .entry) id
  | .decorate method handler =>
    (router.addRoute { handler with method }).map (Except.map fun _ => .handler handler) id
  | .addSchemas sources => (router.addSchemas sources).map (Except.map fun _ => .done) id
  | .document => router.document.map (Except.map .document) id
  | .publications base => (router.publications base).map (Except.map .publications) id

def performAll (router : Router) : List Call -> List (Except Refusal Answer) × Router
  | [] => ([], router)
  | call :: rest =>
    let later := (router.perform call).2.performAll rest
    ((router.perform call).1 :: later.1, later.2)

def Call.Adds : Call -> Prop
  | .addRoute _ | .decorate .. => True
  | .addSchemas sources => sources ≠ []
  | .document | .publications _ => False

variable {router : Router}

def handlerKey (entry : Entry) : Http.Method × String := (entry.method, entry.path)

theorem yields_request {catalog : Class.Catalog} {handler : Handler} :
    Yields (handler.request catalog) pre req post ↔ ∃ success? one error? two body?,
        Yields (candidate? catalog handler.response?) pre success? one /\
        Yields (candidate? catalog handler.error?) one error? two /\
        Yields (candidate? catalog handler.body?) two body? post /\
        req = ⟨handler.method, handler.path,
          .block (String.ofList (Text.cleanBlock handler.doc.toList)), success?, error?, body?⟩ := by
  unfold Handler.request
  simp only [yields_bind, yields_pure]
  constructor
  · rintro ⟨success?, one, first, error?, two, second, body?, _, third, rfl, rfl⟩
    exact ⟨success?, one, error?, two, body?, first, second, third, rfl⟩
  · rintro ⟨success?, one, error?, two, body?, first, second, third, rfl⟩
    exact ⟨success?, one, first, error?, two, second, body?, post, third, rfl, rfl⟩

/-- A route is registered with the request of its handler, or it is refused, and then at most the
memory has changed. -/
theorem addRoute_cases (router : Router) (handler : Handler) : (∃ req entry registry memory,
        Yields (handler.request router.catalog) router.memory req memory /\
        router.registry.perform (.register req) = (.ok (some entry), registry) /\
        router.addRoute handler = (.ok entry, { router with
          memory, registry
          handlers := addHandler router.handlers (handlerKey entry) })) \/
      ∃ refusal memory, router.addRoute handler = (.error refusal, { router with memory }) := by
  unfold addRoute
  cases ran : (handler.request router.catalog).run.run router.memory with
  | mk answer memory =>
    cases answer with
    | error fault => exact .inr ⟨_, memory, rfl⟩
    | ok req =>
      cases answered : (router.registry.register req).answer with
      | error cause =>
        have failed : (router.registry.perform (.register req)).1 = .error cause := by
          rw [Registry.perform, answered]
          rfl
        have unchanged : (router.registry.register req).registry = router.registry :=
          registry_of_failed failed
        simp only [answered, unchanged]
        exact .inr ⟨_, memory, rfl⟩
      | ok entry =>
        have performed := perform_register_eq_ok.mpr ⟨answered, rfl⟩
        obtain ⟨_, _, _, _, _, -, -, -, rfl⟩ := yields_request.mp ran
        have samePath : entry.path = handler.path := by
          obtain ⟨inOrder, same, -⟩ := (perform_eq_ok_iff (by simp)).mp performed
          cases inOrder with
          | register supported read typed =>
            rw [Call.reply?_register supported read] at same
            cases same
            rfl
        refine .inl ⟨_, entry, _, memory, ran, performed, ?_⟩
        simp only [answered, handlerKey, samePath]

theorem addSchema_cases (router : Router) (source? : Option TypeSource) : (∃ type? registry memory,
        Yields (candidate? router.catalog source?) router.memory type? memory /\
        router.registry.perform (.registerType (type?.getD (.foreign "None"))) =
          (.ok none, registry) /\
        router.addSchema source? = (.ok (), { router with memory, registry })) \/
      ∃ refusal memory, router.addSchema source? = (.error refusal, { router with memory }) := by
  unfold addSchema
  cases ran : (candidate? router.catalog source?).run.run router.memory with
  | mk answer memory =>
    cases answer with
    | error fault => exact .inr ⟨_, memory, rfl⟩
    | ok type? =>
      rcases router.registry.perform_cases (.registerType (type?.getD (.foreign "None"))) with
        ⟨reply, post, performed⟩ | ⟨failure, performed⟩
      · obtain ⟨rfl, answered, left⟩ := perform_registerType_eq_ok.mp performed
        refine .inl ⟨type?, post, memory, ran, performed, ?_⟩
        simp only [answered, left]
        rfl
      · rcases Prod.mk.inj performed with ⟨refused, unchanged⟩
        cases answered : (router.registry.registerType (type?.getD (.foreign "None"))).answer with
        | ok =>
          rw [answered] at refused
          cases refused
        | error cause =>
          simp only [answered, unchanged]
          exact .inr ⟨_, memory, rfl⟩

structure Coherent (router : Router) : Prop where
  handlers : router.handlers = router.registry.entries.map handlerKey
  distinct : router.registry.RoutesDistinct
  frozen : router.document?.isSome = router.registry.frozen
  table : router.registry.table.frozen = router.registry.frozen
  document : ∀ document, router.document? = some document ->
    (router.registry.assemble router.title router.version router.options).1 = .ok document

theorem coherent_start (title version : String) (options : Options) (catalog : Class.Catalog)
    (memory : Class.Memory) : Coherent { title, version, options, catalog, memory } where
  handlers := rfl
  distinct := List.nodup_nil
  frozen := rfl
  table := rfl
  document := by
    intro document impossible
    cases impossible

namespace Coherent
variable {router : Router}

section
variable (coherent : router.Coherent)

include coherent

theorem nodup_handlers : router.handlers.Nodup := by
  rw [coherent.handlers]
  have apart : router.registry.entries.Pairwise fun one other => one.key ≠ other.key :=
    List.pairwise_map.mp coherent.distinct
  refine List.pairwise_map.mpr (apart.imp fun {one other} ne same => ne ?_)
  rcases Prod.mk.inj same with ⟨method, path⟩
  rw [Entry.key, Entry.key, method, path]

theorem remember (memory : Class.Memory) : Coherent { router with memory } :=
  ⟨coherent.handlers, coherent.distinct, coherent.frozen, coherent.table, coherent.document⟩

theorem register {registry : Registry}
    {handlers : List (Http.Method × String)} (memory : Class.Memory) (registers : call ≠ .freeze)
    (performed : router.registry.perform call = (.ok reply, registry))
    (listed : handlers = router.handlers ++ reply.toList.map handlerKey) :
    Coherent { router with memory, registry, handlers } := by
  have nodup := coherent.distinct.perform call
  rw [performed] at nodup
  obtain ⟨-, rfl, unfrozen, -, sess, synthesized, rfl⟩ := (perform_eq_ok_iff registers).mp performed
  refine ⟨?_, nodup, coherent.frozen,
    (frozen_of_ofDescriptors synthesized).trans coherent.table, ?_⟩
  · rw [listed, coherent.handlers]
    exact List.map_append.symm
  · intro document cached
    have present := coherent.frozen
    rw [show router.document? = some document from cached, unfrozen] at present
    cases present

theorem addRoute (handler : Handler) : (router.addRoute handler).2.Coherent := by
  rcases router.addRoute_cases handler with
    ⟨req, entry, registry, memory, -, performed, added⟩ | ⟨refusal, memory, refused⟩
  · rw [added]
    refine coherent.register memory (by simp) performed (if_neg ?_)
    obtain ⟨-, entered, -, fresh, -⟩ := (perform_eq_ok_iff (by simp)).mp performed
    rw [coherent.handlers]
    intro listed
    obtain ⟨other, mem, same⟩ := List.mem_map.mp listed
    obtain ⟨method, path⟩ := Prod.mk.inj same
    have sameKey : other.key = entry.key := by rw [Entry.key, Entry.key, method, path]
    exact fresh entry entered.symm (sameKey ▸ List.mem_map_of_mem mem)
  · rw [refused]
    exact coherent.remember memory

theorem addSchemas (sources : List (Option TypeSource)) :
    (router.addSchemas sources).2.Coherent := by
  induction sources generalizing router with
  | nil => exact coherent
  | cons source? rest ih =>
    rw [addSchemas]
    rcases router.addSchema_cases source? with
      ⟨type?, registry, memory, -, performed, added⟩ | ⟨refusal, memory, refused⟩
    · rw [added]
      exact ih (coherent.register memory (by simp) performed (List.append_nil _).symm)
    · rw [refused]
      exact coherent.remember memory

theorem assembled : router.document.2.Coherent := by
  unfold Router.document
  cases cached : router.document? with
  | some document => exact coherent
  | none =>
    cases answer : (router.registry.assemble router.title router.version router.options).1 with
    | error cause => exact coherent
    | ok document =>
      refine ⟨coherent.handlers, coherent.distinct, rfl, rfl, ?_⟩
      rintro _ ⟨⟩
      rw [assemble_freeze]
      exact answer

theorem published (base : String) : (router.publications base).2.Coherent := by
  have assembled := coherent.assembled
  unfold publications
  cases documented : router.document with
  | mk answer post =>
    rw [documented] at assembled
    cases answer with
    | error refusal => exact assembled
    | ok document => exact assembled

theorem perform (call : Call) : (router.perform call).2.Coherent := by
  cases call with
  | addRoute handler => exact coherent.addRoute handler
  | decorate method handler => exact coherent.addRoute _
  | addSchemas sources => exact coherent.addSchemas sources
  | document => exact coherent.assembled
  | publications base => exact coherent.published base

theorem performAll (calls : List Call) : (router.performAll calls).2.Coherent := by
  induction calls generalizing router with
  | nil => exact coherent
  | cons call rest ih => exact ih (coherent.perform call)
end
end Coherent

section
variable {router : Router} (frozen : router.registry.frozen = true)

include frozen

theorem unperformed {registry : Registry} (registers : call ≠ .freeze) :
    router.registry.perform call ≠ (.ok reply, registry) := by
  intro performed
  obtain ⟨-, -, unfrozen, -⟩ := (perform_eq_ok_iff registers).mp performed
  rw [frozen] at unfrozen
  cases unfrozen

theorem addRoute_refused (handler : Handler) :
    ∃ refusal memory, router.addRoute handler = (.error refusal, { router with memory }) :=
  (router.addRoute_cases handler).resolve_left fun ⟨_, _, _, _, _, performed, _⟩ =>
    unperformed frozen (by simp) performed

theorem addSchema_refused (source? : Option TypeSource) :
    ∃ refusal memory, router.addSchema source? = (.error refusal, { router with memory }) :=
  (router.addSchema_cases source?).resolve_left fun ⟨_, _, _, _, performed, _⟩ =>
    unperformed frozen (by simp) performed
end

/-- The state of a router after its document was made: the document is the one of its entries and
its table, every request for it is answered by it, whatever is to be added is refused, and no
call changes anything but the memory. -/
structure Concluded (router : Router) (document : Document) : Prop where
  assembled : (router.registry.assemble router.title router.version router.options).1 = .ok document
  answers : router.document = (.ok document, router)
  refuses : ∀ call : Call, call.Adds -> ∃ refusal, (router.perform call).1 = .error refusal
  stays : ∀ call, (router.perform call).2 = { router with memory := (router.perform call).2.memory }

namespace Coherent
variable {router : Router} {document : Document}

theorem concluded (coherent : router.Coherent) (cached : router.document? = some document) :
    router.Concluded document := by
  have frozen : router.registry.frozen = true := by
    rw [<- coherent.frozen, cached]
    rfl
  have answers : router.document = (.ok document, router) := by rw [Router.document, cached]
  have published : ∀ base, (router.publications base).2 = router := by
    intro base
    rw [publications, answers]
  have refusesTypes : ∀ source? rest, ∃ refusal memory,
      router.addSchemas (source? :: rest) = (.error refusal, { router with memory }) := by
    intro source? rest
    obtain ⟨refusal, memory, refused⟩ := addSchema_refused frozen source?
    exact ⟨refusal, memory, by rw [Router.addSchemas, refused]⟩
  -- An addition is refused, and a request is answered by the document there is.
  have performs : ∀ call : Call, (call.Adds -> ∃ refusal, (router.perform call).1 = .error refusal) /\
      ∃ memory, (router.perform call).2 = { router with memory } := by
    intro call
    cases call with
    | addRoute handler =>
      obtain ⟨refusal, memory, refused⟩ := addRoute_refused frozen handler
      rw [Router.perform, refused]
      exact ⟨fun _ => ⟨refusal, rfl⟩, memory, rfl⟩
    | decorate method handler =>
      obtain ⟨refusal, memory, refused⟩ := addRoute_refused frozen { handler with method }
      rw [Router.perform, refused]
      exact ⟨fun _ => ⟨refusal, rfl⟩, memory, rfl⟩
    | addSchemas sources =>
      cases sources with
      | nil => exact ⟨fun adds => absurd rfl adds, _, rfl⟩
      | cons source? rest =>
        obtain ⟨refusal, memory, refused⟩ := refusesTypes source? rest
        rw [Router.perform, refused]
        exact ⟨fun _ => ⟨refusal, rfl⟩, memory, rfl⟩
    | document => exact ⟨False.elim, _, congrArg Prod.snd answers⟩
    | publications base => exact ⟨False.elim, _, published base⟩
  refine ⟨coherent.document document cached, answers, fun call => (performs call).1, fun call => ?_⟩
  obtain ⟨memory, same⟩ := (performs call).2
  rw [same]

/-- The document and everything else but the memory stays for good. -/
theorem concluded_performAll (coherent : router.Coherent) (cached : router.document? = some document)
    (later : List Call) :
    (router.performAll later).2.Concluded document /\ (router.performAll later).2 =
        { router with memory := (router.performAll later).2.memory } := by
  induction later generalizing router with
  | nil => exact ⟨coherent.concluded cached, rfl⟩
  | cons call rest ih =>
    have stays := (coherent.concluded cached).stays call
    have stillCached : (router.perform call).2.document? = some document := by
      rw [stays]
      exact cached
    rcases ih (coherent.perform call) stillCached with ⟨concluded, same⟩
    refine ⟨concluded, ?_⟩
    rw [Router.performAll, same, stays]
end Coherent

theorem document?_of_answer {document : Document} (answered : router.document.1 = .ok document) :
    router.document.2.document? = some document := by
  unfold Router.document at answered ⊢
  cases cached : router.document? with
  | some known =>
    rw [cached] at answered
    rw [<- Except.ok.inj answered]
    exact cached
  | none =>
    rw [cached] at answered
    cases answer : (router.registry.assemble router.title router.version router.options).1 with
    | error cause =>
      rw [answer] at answered
      cases answered
    | ok known =>
      rw [answer] at answered
      rw [<- Except.ok.inj answered]

theorem document_of_refusal (coherent : router.Coherent)
    (refused : router.document.1 = .error refusal) :
    router.document.2 = router /\ router.registry.frozen = false := by
  unfold document at refused ⊢
  cases cached : router.document? with
  | some known =>
    rw [cached] at refused
    cases refused
  | none =>
    have unfrozen := coherent.frozen
    rw [cached] at refused unfrozen
    cases answer : (router.registry.assemble router.title router.version router.options).1 with
    | error cause => exact ⟨rfl, unfrozen.symm⟩
    | ok known =>
      rw [answer] at refused
      cases refused

theorem publications_of_failed_assembly
    (failed : (router.publications base).1 = .error (.assembly cause)) :
    router.document.1 = .error (.assembly cause) /\
      (router.publications base).2 = router.document.2 := by
  unfold publications at failed ⊢
  cases documented : router.document with
  | mk answer post =>
    rw [documented] at failed
    cases answer with
    | error refusal =>
      cases failed
      exact ⟨rfl, rfl⟩
    | ok document =>
      simp only at failed
      cases published : publish document base with
      | ok publications =>
        rw [published] at failed
        cases failed
      | error fault =>
        rw [published] at failed
        cases failed

/-- The life of a router, whatever calls are made on a new one, with whatever success. It has one
handler for each entry, in the order of the entries. It has a document exactly if its registry
is frozen, and exactly if the table is. The document is the one of its entries and its table;
once it was answered, everything that is to be added is refused, nothing changes any more but
the memory of classes, and the document is what every later request is answered with. A failed
assembly leaves the router as it was, and open. -/
theorem life_cycle (title version : String) (options : Options) (catalog : Class.Catalog)
    (memory : Class.Memory) (calls : List Call) :
    let router := (performAll { title, version, options, catalog, memory } calls).2
    (router.handlers = router.registry.entries.map handlerKey /\ router.handlers.Nodup) /\
      (router.document?.isSome = router.registry.frozen /\
        router.registry.table.frozen = router.registry.frozen) /\
      (∀ document, router.document? = some document -> ∀ later,
        (router.performAll later).2.Concluded document /\ (router.performAll later).2 =
            { router with memory := (router.performAll later).2.memory }) /\
      (∀ document, router.document.1 = .ok document -> router.document.2.document? = some document) /\
      (∀ refusal, router.document.1 = .error refusal ->
        router.document.2 = router /\ router.registry.frozen = false) /\
      ∀ base cause, (router.publications base).1 = .error (.assembly cause) ->
        (router.publications base).2 = router /\ router.registry.frozen = false := by
  intro router
  have coherent : router.Coherent :=
    (coherent_start title version options catalog memory).performAll calls
  refine ⟨⟨coherent.handlers, coherent.nodup_handlers⟩, ⟨coherent.frozen, coherent.table⟩,
    fun document cached => coherent.concluded_performAll cached,
    fun document => document?_of_answer, fun refusal => document_of_refusal coherent, ?_⟩
  intro base cause failed
  rcases publications_of_failed_assembly failed with ⟨refused, same⟩
  rw [same]
  exact document_of_refusal coherent refused
end Router
end RouteDocs
