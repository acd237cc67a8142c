import RouteDocs.Declaration.Compilation
import RouteDocs.Proofs.RegistryCalls
import RouteDocs.Proofs.Resolution
import RouteDocs.Proofs.Warnings

namespace RouteDocs.Declaration
open Compilation Registry Schema
open Yaml (Value)

/-!
# What a compilation keeps

Routes and types are compiled one after another. The two caches go together: all types in the table
are types of the resolution's cache, one for each name, and so are those that the registry
remembers. In the end every declared type is remembered.
-/

namespace Compilation
variable {pre post : Progress}

theorem yields_resolve {α : Type} {step : Resolution α} {result : α} :
    Yields (resolve step) pre result post ↔
      ∃ cache, Yields step pre.cache result cache /\ post = { pre with cache } := by
  rw [resolve, yields_get_bind, Yields]
  cases ran : (step.run pre.cache : Except TypeFault α × Cache) with
  | mk answer cache =>
    have sameRun : step.run.run pre.cache = (answer, cache) := ran
    cases answer with
    | error fault =>
      constructor
      · intro impossible
        cases impossible
      · rintro ⟨_, impossible, -⟩
        cases sameRun.symm.trans impossible
    | ok value =>
      constructor
      · intro same
        cases same
        exact ⟨cache, sameRun, rfl⟩
      · rintro ⟨_, same, rfl⟩
        cases sameRun.symm.trans same
        rfl

theorem yields_registering {α : Type} {step : Registry -> Outcome α} {result : α} :
    Yields (registering step) pre result post ↔
      (step pre.registry).answer = .ok result /\ post = { pre with
        registry := (step pre.registry).registry
        notices := pre.notices ++ (step pre.registry).notices } := by
  rw [registering, yields_get_bind]
  cases answered : (step pre.registry).answer <;> simp [answered, eq_comm, and_comm]
end Compilation

def RouteDeclaration.request (route : RouteDeclaration) (success? error? body? : Option Descriptor) :
    Route.Request where
  method := route.method
  path := route.path
  doc := .block route.doc
  success? := success?.map .descriptor
  error? := error?.map .descriptor
  body? := body?.map .descriptor

structure Answers (cache : Cache) (name? : Option String) (type? : Option Descriptor) : Prop where
  named : type?.map Descriptor.typeName = name?
  completed : ∀ type, type? = some type -> cache.get? type.typeName = some type

structure Compiled (types : OrderedMap String Value) (progress : Progress) : Prop where
  coherent : Coherent types progress.cache
  accounted : ∃ built, progress.registry.session.Accounted progress.cache.get? built

theorem compiled_start (types : OrderedMap String Value) : Compiled types {} :=
  ⟨nofun, [], (Session.Accounted.start _).congr rfl rfl⟩

section
variable {types : OrderedMap String Value} {cache : Cache}

theorem Answers.mono (answers : Answers cache name? type?)
    (advances : Advances types building cache further) : Answers further name? type? :=
  ⟨answers.named, fun type found => advances.kept _ type (answers.completed type found)⟩

theorem lookup_answers (coherent : Coherent types pre)
    (yields : Yields (Resolution.lookup types name?) pre type? post) :
    Advances types [] pre post /\ Answers post name? type? := by
  cases name? with
  | none =>
    obtain ⟨rfl, rfl⟩ := yields_pure.mp yields
    exact ⟨.refl coherent, rfl, nofun⟩
  | some name =>
    obtain ⟨type, found, rfl⟩ := yields_map.mp yields
    obtain ⟨advances, completed⟩ := Resolution.descriptor_completes coherent found
    have settled := advances.coherent name type completed
    refine ⟨advances, congrArg some settled.typeName, ?_⟩
    rintro _ ⟨⟩
    rw [settled.typeName]
    exact completed

def Remembers (pre post : Session) : Prop :=
  ∀ name type, pre.memo.get? name = some type -> post.memo.get? name = some type

/-- Completed types that are synthesized are accounted for, and remembered from then on: the
types in them are completed, and none is inside one of its own name. -/
theorem accounted_ofDescriptors (coherent : Coherent types cache)
    (accounted : pre.Accounted cache.get? built)
    (completed : ∀ type ∈ descs, cache.get? type.typeName = some type)
    (yields : Yields (Synthesis.ofDescriptors descs) pre () post) :
    (∃ more, post.Accounted cache.get? more) /\
      (∀ type ∈ descs, post.memo.get? type.typeName = some type) /\ Remembers pre post := by
  induction descs generalizing pre built with
  | nil =>
    rw [yields_forM_nil.mp yields]
    exact ⟨⟨built, accounted⟩, nofun, fun _ _ found => found⟩
  | cons type rest ih =>
    obtain ⟨shape, mid, ran, remaining⟩ := Synthesis.yields_ofDescriptors_cons.mp yields
    have settled := coherent _ type (completed type (.head _))
    obtain ⟨next, remembered, kept⟩ := accounted.ofDescriptor settled.isType settled.drawn
      (fun inner mem => (coherent _ inner (settled.drawn inner mem)).unnested) ran
    obtain ⟨last, others, stillKept⟩ := ih next
      (fun other mem => completed other (.tail _ mem)) remaining
    exact ⟨last, List.forall_mem_cons.mpr ⟨stillKept _ type remembered, others⟩,
      fun name other found => stillKept name other (kept name other found)⟩

variable {decls : Declarations} {progress post : Progress} {route : RouteDeclaration}

theorem Compiled.perform (compiled : Compiled types progress) (registers : call ≠ .freeze)
    (advances : Advances types [] progress.cache post.cache)
    (completed : ∀ type ∈ call.descriptors, post.cache.get? type.typeName = some type)
    (performed : progress.registry.perform call = (.ok reply, post.registry)) :
    Compiled types post /\
      (∀ type ∈ call.descriptors, post.registry.memo.get? type.typeName = some type) /\
      Remembers progress.registry.session post.registry.session := by
  obtain ⟨built, accounted⟩ := compiled.accounted
  obtain ⟨-, -, -, -, sess, synthesized, left⟩ := (perform_eq_ok_iff registers).mp performed
  obtain ⟨⟨more, last⟩, remembered, kept⟩ := accounted_ofDescriptors advances.coherent
    (accounted.mono advances.kept) completed synthesized
  refine ⟨⟨advances.coherent, more, last.congr ?_ ?_⟩, ?_, ?_⟩
  · rw [left]
    rfl
  · rw [left]
    rfl
  · rw [left]
    exact remembered
  · rw [left]
    exact kept

theorem performs_addRoute {result : Unit} (coherent : Coherent decls.specs progress.cache)
    (yields : Yields (addRoute decls route) progress result post) :
    Advances decls.specs [] progress.cache post.cache /\
      ∃ success? error? body? entry, Answers post.cache route.response? success? /\
        Answers post.cache route.error? error? /\ Answers post.cache route.body? body? /\
        progress.registry.perform (.register (route.request success? error? body?)) =
          (.ok (some entry), post.registry) := by
  unfold addRoute at yields
  simp only [yields_bind, yields_resolve, yields_registering] at yields
  obtain ⟨success?, _, ⟨one, ofSuccess, rfl⟩, error?, _, ⟨two, ofError, rfl⟩, body?, _,
    ⟨three, ofBody, rfl⟩, entry, _, ⟨answer, rfl⟩, finished⟩ := yields
  obtain ⟨-, rfl⟩ := yields_pure.mp finished
  obtain ⟨first, success⟩ := lookup_answers coherent ofSuccess
  obtain ⟨second, error⟩ := lookup_answers first.coherent ofError
  obtain ⟨third, body⟩ := lookup_answers second.coherent ofBody
  exact ⟨(first.trans second).trans third, success?, error?, body?, entry,
    success.mono (second.trans third), error.mono third, body,
    perform_register_eq_ok.mpr ⟨answer, rfl⟩⟩

theorem performs_addType {result : Unit} (coherent : Coherent decls.specs progress.cache)
    (yields : Yields (addType decls name) progress result post) :
    Advances decls.specs [] progress.cache post.cache /\ ∃ type, post.cache.get? name = some type /\
        progress.registry.perform (.registerType (.descriptor type)) = (.ok none, post.registry) := by
  unfold addType at yields
  simp only [yields_bind, yields_resolve, yields_registering] at yields
  obtain ⟨type, _, ⟨cache, found, rfl⟩, answer, rfl⟩ := yields
  obtain ⟨advances, completed⟩ := Resolution.descriptor_completes coherent found
  exact ⟨advances, type, completed, perform_registerType_eq_ok.mpr ⟨rfl, answer, rfl⟩⟩

theorem completed_of_answers (success : Answers cache route.response? success?)
    (error : Answers cache route.error? error?) (body : Answers cache route.body? body?) :
    ∀ type ∈ (Call.register (route.request success? error? body?)).descriptors,
      cache.get? type.typeName = some type := by
  have listed : (Call.register (route.request success? error? body?)).descriptors =
      success?.toList ++ (error?.toList ++ body?.toList) := by
    cases success? <;> cases error? <;> cases body? <;> rfl
  simp only [listed, List.forall_mem_append, Option.mem_toList]
  exact ⟨success.completed, error.completed, body.completed⟩

theorem Compiled.addRoute (compiled : Compiled decls.specs progress)
    (yields : Yields (addRoute decls route) progress result post) : Compiled decls.specs post := by
  obtain ⟨advances, success?, error?, body?, entry, success, error, body, performed⟩ :=
    performs_addRoute compiled.coherent yields
  exact (compiled.perform (by simp) advances (completed_of_answers success error body) performed).1

theorem Compiled.addType (compiled : Compiled decls.specs progress)
    (yields : Yields (addType decls name) progress result post) :
    Compiled decls.specs post /\ (∃ type, post.registry.memo.get? name = some type) /\
      Remembers progress.registry.session post.registry.session := by
  obtain ⟨advances, type, completed, performed⟩ := performs_addType compiled.coherent yields
  obtain rfl := (advances.coherent name type completed).typeName
  have passed : ∀ inner ∈ (Call.registerType (.descriptor type)).descriptors,
      post.cache.get? inner.typeName = some inner :=
    fun inner mem => List.mem_singleton.mp mem ▸ completed
  obtain ⟨still, remembered, kept⟩ := compiled.perform (by simp) advances passed performed
  exact ⟨still, ⟨type, remembered type (.head _)⟩, kept⟩

theorem Compiled.addTypes {names : List String} (compiled : Compiled decls.specs progress)
    (yields : Yields (names.forM (Compilation.addType decls)) progress result post) :
    Compiled decls.specs post /\ (∀ name ∈ names, ∃ type, post.registry.memo.get? name = some type) /\
      Remembers progress.registry.session post.registry.session := by
  induction names generalizing progress with
  | nil =>
    obtain rfl := yields_forM_nil.mp yields
    exact ⟨compiled, nofun, fun _ _ found => found⟩
  | cons name rest ih =>
    obtain ⟨mid, first, remaining⟩ := yields_forM_cons.mp yields
    obtain ⟨next, ⟨type, remembered⟩, kept⟩ := compiled.addType first
    obtain ⟨last, others, stillKept⟩ := ih next remaining
    refine ⟨last, List.forall_mem_cons.mpr ⟨⟨type, ?_⟩, others⟩, fun other known found => ?_⟩
    · exact stillKept name type remembered
    · exact stillKept other known (kept other known found)

theorem compiled_of_register {patterns : List String}
    (yields : Yields (Compilation.register decls patterns) {} () post) : Compiled decls.specs post /\
      ∀ name ∈ decls.types.keys, ∃ type, post.registry.memo.get? name = some type := by
  obtain ⟨_, mid, routes, types⟩ := yields_bind.mp yields
  have routed : Compiled decls.specs mid := forM_invariant (Compiled decls.specs)
      (fun route state next compiled added => compiled.addRoute added) (compiled_start _) routes
  obtain ⟨compiled, remembered, -⟩ := routed.addTypes types
  exact ⟨compiled, remembered⟩
end
end RouteDocs.Declaration
