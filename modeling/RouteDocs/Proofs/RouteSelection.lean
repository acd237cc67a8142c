import RouteDocs.Proofs.Completion
import RouteDocs.Proofs.DeclaredSchemas
import RouteDocs.Proofs.Resemblance
import RouteDocs.Proofs.RouteDocuments

namespace RouteDocs
open List Registry Route Declaration Schema Compilation Resolution

/-!
# Selecting routes

With other routes, types are met in another order, and cycles are cut elsewhere. This has no
influence on success: if all routes can be compiled, then every type is well written and without
fault, however it is completed, so any of the routes can be compiled, with the same entry as before.
-/

namespace Declaration

/-- A declared route has the entry that is read off it, and the types it names are
declared. -/
structure RouteDeclaration.Enters (types : OrderedMap String Yaml.Value) (route : RouteDeclaration)
    (entry : Entry) : Prop where
  method : Http.Method.ofName? (Http.capitalized route.method) = some entry.method
  path : entry.path = route.path
  doc : EndpointDoc.ofText route.doc = .ok entry.doc
  success : entry.success? = route.response?
  error : entry.error? = route.error?
  request : entry.request? = route.body?
  successDeclared : ∀ name, route.response? = some name -> name ∈ types.keys
  errorDeclared : ∀ name, route.error? = some name -> name ∈ types.keys
  bodyDeclared : ∀ name, route.body? = some name -> name ∈ types.keys

variable {decls : Declarations} {progress post : Progress} {cache : Cache}

theorem Answers.schemaName (answers : Answers cache name? type?) (coherent : Coherent types cache) :
    (type?.map Candidate.descriptor).bind Candidate.schemaName? = name? /\
      ∀ type, type?.map Candidate.descriptor = some type -> type.schemaName?.isSome = true := by
  rw [<- answers.named]
  cases type? with
  | none => exact ⟨rfl, nofun⟩
  | some type =>
    have isType := (coherent _ type (answers.completed type rfl)).isType
    cases type with
    | struct | union => exact ⟨rfl, by rintro _ ⟨⟩; rfl⟩
    | _ => cases isType

theorem Answers.declared (answers : Answers cache name? type?) (coherent : Coherent types cache)
    (name : String) (named : name? = some name) : name ∈ types.keys := by
  rw [<- answers.named] at named
  obtain ⟨type, found, rfl⟩ := Option.map_eq_some_iff.mp named
  exact coherent.declared (answers.completed type found)

theorem Compiled.enters (compiled : Compiled decls.specs progress)
    (yields : Yields (Compilation.addRoute decls route) progress result post) :
    ∃ entry, route.Enters decls.specs entry /\
      post.registry.entries = progress.registry.entries ++ [entry] := by
  obtain ⟨advances, success?, error?, body?, _, success, error, body, performed⟩ :=
    performs_addRoute compiled.coherent yields
  obtain ⟨inOrder, -, -, -, sess, -, left⟩ := (perform_eq_ok_iff (by simp)).mp performed
  cases inOrder with
  | @register _ method doc supported read typed =>
    rw [Call.reply?_register supported read] at left
    have coherent := advances.coherent
    exact ⟨(route.request success? error? body?).entry method doc,
      ⟨supported, rfl, read, (success.schemaName coherent).1,
        (error.schemaName coherent).1, (body.schemaName coherent).1, success.declared coherent, error.declared coherent,
        body.declared coherent⟩, left ▸ rfl⟩

theorem Compiled.entersAll (compiled : Compiled decls.specs progress)
    (yields : Yields (routes.forM (Compilation.addRoute decls)) progress result post) :
    Compiled decls.specs post /\
      ∃ entries, List.Forall₂ (RouteDeclaration.Enters decls.specs) routes entries /\
        post.registry.entries = progress.registry.entries ++ entries := by
  induction routes generalizing progress with
  | nil =>
    obtain rfl := yields_forM_nil.mp yields
    exact ⟨compiled, [], .nil, (append_nil _).symm⟩
  | cons route rest ih =>
    obtain ⟨mid, first, remaining⟩ := yields_forM_cons.mp yields
    obtain ⟨entry, enters, entered⟩ := compiled.enters first
    obtain ⟨last, entries, others, all⟩ := ih (compiled.addRoute first) remaining
    refine ⟨last, entry :: entries, .cons enters others, ?_⟩
    rw [all, entered, append_assoc, singleton_append]

theorem Compiled.entries_addType (compiled : Compiled decls.specs progress)
    (yields : Yields (Compilation.addType decls name) progress result post) :
    post.registry.entries = progress.registry.entries := by
  obtain ⟨-, type, -, performed⟩ := performs_addType compiled.coherent yields
  obtain ⟨-, -, -, -, sess, -, left⟩ := (perform_eq_ok_iff (by simp)).mp performed
  rw [left]
  exact append_nil _

theorem entries_of_register (yields : Yields (register decls patterns) {} () post) :
    List.Forall₂ (RouteDeclaration.Enters decls.specs)
      (decls.routes.filter (isSelected patterns)) post.registry.entries := by
  obtain ⟨_, mid, routes, types⟩ := yields_bind.mp yields
  obtain ⟨compiled, entries, enters, entered⟩ := (compiled_start _).entersAll routes
  have kept := forM_invariant (fun progress : Progress => Compiled decls.specs progress /\
      progress.registry.entries = mid.registry.entries)
    (fun name state next held added =>
      ⟨(held.1.addType added).1, (held.1.entries_addType added).trans held.2⟩)
    ⟨compiled, rfl⟩ types
  rw [kept.2, entered]
  exact enters

theorem routesDistinct_of_register (yields : Yields (register decls patterns) {} () post) :
    post.registry.RoutesDistinct := by
  obtain ⟨_, mid, routes, types⟩ := yields_bind.mp yields
  have called {state next : Progress} {call : Call} {reply : Option Entry}
      (nodup : state.registry.RoutesDistinct)
      (performed : state.registry.perform call = (.ok reply, next.registry)) :
      next.registry.RoutesDistinct := by
    have here := nodup.perform call
    rw [performed] at here
    exact here
  have routed := forM_invariant (fun progress : Progress =>
      Compiled decls.specs progress /\ progress.registry.RoutesDistinct)
    (fun route state next known added => by
      obtain ⟨-, _, _, _, _, -, -, -, performed⟩ := performs_addRoute known.1.coherent added
      exact ⟨known.1.addRoute added, called known.2 performed⟩)
    ⟨compiled_start _, nodup_nil⟩ routes
  refine (forM_invariant (fun progress : Progress =>
      Compiled decls.specs progress /\ progress.registry.RoutesDistinct)
    (fun name state next known added => ?_) routed types).2
  obtain ⟨-, _, -, performed⟩ := performs_addType known.1.coherent added
  exact ⟨(known.1.addType added).1, called known.2 performed⟩

/-- All declared types can be completed, and none of them has a fault, however it is
completed. -/
structure Faultless (decls : Declarations) : Prop where
  wellWritten : ∀ name ∈ decls.specs.keys, WellWritten decls.specs name
  sound : ∀ cache name type, Coherent decls.specs cache -> cache.get? name = some type ->
    type.OwnSound

theorem keys_specs (decls : Declarations) : decls.specs.keys = decls.types.keys := by
  unfold Declarations.specs OrderedMap.mapValues OrderedMap.keys
  rw [map_map]
  rfl

theorem faultless_of_register (yields : Yields (register decls patterns) {} () progress) :
    Faultless decls := by
  obtain ⟨compiled, complete⟩ := compiled_of_register yields
  obtain ⟨built, accounted⟩ := compiled.accounted
  constructor
  · intro name decl
    rw [keys_specs] at decl
    obtain ⟨type, memo⟩ := complete name decl
    exact compiled.coherent.wellWritten (accounted.memo name type memo)
  · intro cache name type coherent completed
    obtain ⟨written, found, described⟩ := Declarations.describes_of_completed coherent completed
    obtain ⟨other, memo⟩ := complete name (Declarations.mem_keys_of_written? found)
    have otherCompleted := accounted.memo name other memo
    obtain ⟨same, foundSame, otherDescribed⟩ :=
      Declarations.describes_of_completed compiled.coherent otherCompleted
    obtain rfl : written = same := Option.some.inj (found.symm.trans foundSame)
    have isType := (compiled.coherent name other otherCompleted).isType
    exact otherDescribed.ownSound described (accounted.reflects.sound other
      (accounted.reflects.memo name other memo (Descriptor.mem_types_self isType)))

section
variable {entries : List Entry}

theorem Faultless.sound_of_completed (faultless : Faultless decls)
    (coherent : Coherent decls.specs cache) (completed : cache.get? name = some type) :
    type.Sound := by
  have settled := coherent name type completed
  constructor
  · have isType := settled.isType
    cases type with
    | struct | union => exact trivial
    | _ => cases isType
  · intro inner mem
    exact faultless.sound cache inner.typeName inner coherent (settled.drawn inner mem)

theorem Faultless.lookup (faultless : Faultless decls) (coherent : Coherent decls.specs cache)
    (decl : ∀ name, name? = some name -> name ∈ decls.specs.keys) :
    ∃ type? post, Yields (Resolution.lookup decls.specs name?) cache type? post /\
      Advances decls.specs [] cache post /\ Answers post name? type? := by
  have succeeds : ∃ type? post, Yields (Resolution.lookup decls.specs name?) cache type? post := by
    cases name? with
    | none => exact ⟨none, cache, yields_pure.mpr ⟨rfl, rfl⟩⟩
    | some name =>
      obtain ⟨type, post, yields, -, -⟩ :=
        descriptor_succeeds faultless.wellWritten (decl name rfl) cache coherent
      exact ⟨some type, post, yields_map.mpr ⟨type, yields, rfl⟩⟩
  obtain ⟨type?, post, yields⟩ := succeeds
  exact ⟨type?, post, yields, lookup_answers coherent yields⟩

structure Ready (decls : Declarations) (progress : Progress) : Prop where
  compiled : Compiled decls.specs progress
  unfrozen : progress.registry.frozen = false
  writable : progress.registry.table.frozen = false

section
variable (ready : Ready decls progress) (faultless : Faultless decls)

include ready faultless

/-- A call in order that passes completed types is accepted, and what it leaves behind can
still be written to. -/
theorem Ready.accepts (coherent : Coherent decls.specs cache) (inOrder : call.InOrder)
    (completed : ∀ type ∈ call.descriptors, cache.get? type.typeName = some type)
    (fresh : ∀ entry, call.reply? = some entry ->
      entry.key ∉ progress.registry.entries.map Entry.key) :
    ∃ sess, progress.registry.Accepts call sess /\ sess.table.frozen = false := by
  obtain ⟨sess, synthesized⟩ := Synthesis.ofDescriptors_succeeds
    (fun type mem => faultless.sound_of_completed coherent (completed type mem))
    progress.registry.session ready.writable
  exact ⟨sess, ⟨inOrder, ready.unfrozen, fresh, synthesized⟩,
    (frozen_of_ofDescriptors synthesized).trans ready.writable⟩

theorem Ready.addRoute (enters : route.Enters decls.specs entry)
    (free : entry.key ∉ progress.registry.entries.map Entry.key) :
    ∃ post, Yields (Compilation.addRoute decls route) progress () post /\ Ready decls post /\
      post.registry.entries = progress.registry.entries ++ [entry] := by
  obtain ⟨success?, one, ofSuccess, first, success⟩ :=
    faultless.lookup ready.compiled.coherent enters.successDeclared
  obtain ⟨error?, two, ofError, second, error⟩ :=
    faultless.lookup first.coherent enters.errorDeclared
  obtain ⟨body?, three, ofBody, third, body⟩ := faultless.lookup second.coherent enters.bodyDeclared
  have success := success.mono (second.trans third)
  have error := error.mono third
  obtain ⟨sameSuccess, successTyped⟩ := success.schemaName third.coherent
  obtain ⟨sameError, errorTyped⟩ := error.schemaName third.coherent
  obtain ⟨sameBody, bodyTyped⟩ := body.schemaName third.coherent
  have supported : Http.Method.ofName? (Http.capitalized
      (route.request success? error? body?).method) = some entry.method := enters.method
  have read : (route.request success? error? body?).doc.read = .ok entry.doc := enters.doc
  have inOrder : (Call.register (route.request success? error? body?)).InOrder := by
    refine .register supported read ?_
    rintro (- | - | -)
    · exact successTyped
    · exact errorTyped
    · exact bodyTyped
  have replies : (Call.register (route.request success? error? body?)).reply? = some entry := by
    rw [Call.reply?_register supported read, Request.entry, RouteDeclaration.request]
    simp only [sameSuccess, sameError, sameBody, <- enters.success, <- enters.error, <- enters.request,
      <- enters.path]
  obtain ⟨sess, accepts, writable⟩ := ready.accepts faultless third.coherent
    inOrder (completed_of_answers success error body) (by
      rw [replies]
      rintro _ ⟨⟩
      exact free)
  have performed := accepts.perform
  rw [replies] at performed
  obtain ⟨answer, left⟩ := perform_register_eq_ok.mp performed
  have yields : Yields (Compilation.addRoute decls route) progress () { progress with
      cache := three
      registry := (progress.registry.register (route.request success? error? body?)).registry
      notices := progress.notices ++
        (progress.registry.register (route.request success? error? body?)).notices } := by
    unfold Compilation.addRoute
    simp only [yields_bind, yields_resolve, yields_registering]
    exact ⟨success?, _, ⟨one, ofSuccess, rfl⟩, error?, _, ⟨two, ofError, rfl⟩, body?, _,
      ⟨three, ofBody, rfl⟩, entry, _, ⟨answer, rfl⟩, yields_pure.mpr ⟨rfl, rfl⟩⟩
  refine ⟨_, yields, ⟨ready.compiled.addRoute yields, ?_, ?_⟩, ?_⟩ <;> simp only [left]
  · exact ready.unfrozen
  · exact writable
  · rfl

theorem Ready.addRoutes (enters : List.Forall₂ (RouteDeclaration.Enters decls.specs) routes entries)
    (nodup : ((progress.registry.entries ++ entries).map Entry.key).Nodup) :
    ∃ post, Yields (routes.forM (Compilation.addRoute decls)) progress ⟨⟩ post /\ Ready decls post /\
      post.registry.entries = progress.registry.entries ++ entries := by
  induction enters generalizing progress with
  | nil => exact ⟨progress, yields_forM_nil.mpr rfl, ready, (append_nil _).symm⟩
  | @cons route entry _ entries here _ ih =>
    have free : entry.key ∉ progress.registry.entries.map Entry.key := by
      intro listed
      rw [map_append, map_cons] at nodup
      exact (nodup_append.mp nodup).2.2 _ listed _ (.head _) rfl
    obtain ⟨mid, first, stillReady, entered⟩ := ready.addRoute faultless here free
    have apart : ((mid.registry.entries ++ entries).map Entry.key).Nodup := by
      rw [entered, append_assoc]
      exact nodup
    obtain ⟨post, rest, last, all⟩ := ih stillReady apart
    refine ⟨post, yields_forM_cons.mpr ⟨mid, first, rest⟩, last, ?_⟩
    rw [all, entered, append_assoc]
    rfl

theorem Ready.addType (decl : name ∈ decls.specs.keys) :
    ∃ post, Yields (Compilation.addType decls name) progress () post /\
      Ready decls post /\ post.registry.entries = progress.registry.entries := by
  obtain ⟨type, cache, resolved, coherent, -⟩ := descriptor_succeeds
    faultless.wellWritten decl progress.cache ready.compiled.coherent
  have completed := (descriptor_completes ready.compiled.coherent resolved).2
  obtain rfl := (coherent name type completed).typeName
  obtain ⟨sess, accepts, writable⟩ := ready.accepts faultless coherent (.registerType type)
    (fun inner mem => mem_singleton.mp mem ▸ completed) nofun
  obtain ⟨-, answer, left⟩ := perform_registerType_eq_ok.mp accepts.perform
  have yields : Yields (Compilation.addType decls type.typeName) progress () { progress with
      cache
      registry := (progress.registry.registerType (.descriptor type)).registry
      notices := progress.notices ++
        (progress.registry.registerType (.descriptor type)).notices } :=
    yields_bind.mpr ⟨type, _, yields_resolve.mpr ⟨cache, resolved, rfl⟩,
      yields_registering.mpr ⟨answer, rfl⟩⟩
  refine ⟨_, yields, ⟨(ready.compiled.addType yields).1, ?_, ?_⟩, ?_⟩ <;> simp only [left]
  · exact ready.unfrozen
  · exact writable
  · exact append_nil _

theorem Ready.addTypes (decl : names ⊆ decls.specs.keys) :
    ∃ post, Yields (names.forM (Compilation.addType decls)) progress ⟨⟩ post /\
      post.registry.entries = progress.registry.entries := by
  induction names generalizing progress with
  | nil => exact ⟨progress, yields_forM_nil.mpr rfl, rfl⟩
  | cons name rest ih =>
    obtain ⟨mid, first, stillReady, same⟩ := ready.addType faultless (decl (.head _))
    obtain ⟨post, remaining, stillSame⟩ := ih stillReady fun other mem => decl (.tail _ mem)
    exact ⟨post, yields_forM_cons.mpr ⟨mid, first, remaining⟩, stillSame.trans same⟩
end

theorem Faultless.register (faultless : Faultless decls)
    (enters : List.Forall₂ (RouteDeclaration.Enters decls.specs)
      (decls.routes.filter (isSelected patterns)) entries) (nodup : (entries.map Entry.key).Nodup) :
    ∃ progress, Yields (register decls patterns) {} () progress /\
      progress.registry.entries = entries := by
  have start : Ready decls {} := ⟨compiled_start _, rfl, rfl⟩
  obtain ⟨mid, routes, ready, entered⟩ := start.addRoutes faultless enters nodup
  obtain ⟨post, types, same⟩ := ready.addTypes faultless fun name mem =>
    (keys_specs decls).symm ▸ mem
  exact ⟨post, yields_bind.mpr ⟨⟨⟩, mid, routes, types⟩, same.trans entered⟩
end
end Declaration
end RouteDocs
