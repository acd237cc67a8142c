import RouteDocs.Proofs.TableInvariants
import RouteDocs.Route.Registry

namespace RouteDocs
open List Http Route Schema Synthesis Candidate
open Schema.Synthesis (OnTable)

/-!
# Calls to a registry

The life of a registry is the list of calls made so far, successful or not. A call that succeeds
synthesizes the descriptors that are passed to it; what else decides whether it succeeds does not
depend on the types. The two parts are kept apart here: arguments about schemas need the synthesis
of a list of descriptors only, and arguments about routes need no synthesis.
-/

namespace Schema
def Candidate.descriptor? : Candidate -> Option Descriptor
  | .descriptor type => some type
  | .foreign _ => none

/-- The name of the schema of a route's type; other types cannot be a route's. -/
def Candidate.schemaName? : Candidate -> Option String
  | .descriptor (.named name) | .descriptor (.struct name ..) | .descriptor (.union name _) =>
    some name
  | _ => none
end Schema

namespace Route
inductive Role where
  | success
  | error
  | body
deriving DecidableEq

def Role.all : List Role := [success, error, body]

def Request.type? (req : Request) : Role -> Option Candidate
  | .success => req.success?
  | .error => req.error?
  | .body => req.body?

def Request.Typed (req : Request) : Prop :=
  ∀ role type, req.type? role = some type -> type.schemaName?.isSome = true

def Request.entry (req : Request) (method : Method) (doc : EndpointDoc) : Entry where
  method := method
  path := req.path
  doc := doc
  success? := req.success?.bind schemaName?
  error? := req.error?.bind schemaName?
  request? := req.body?.bind schemaName?
end Route

namespace Registry
inductive Call where
  | register (req : Request)
  | registerType (type : Candidate)
  | freeze

abbrev Reply := Except RegistrationError (Option Entry)

def perform (reg : Registry) : Call -> Reply × Registry
  | .register req => ((reg.register req).answer.map some, (reg.register req).registry)
  | .registerType type =>
    ((reg.registerType type).answer.map fun _ => none, (reg.registerType type).registry)
  | .freeze => (.ok none, reg.freeze)

def performAll (reg : Registry) : List Call -> List Reply × Registry
  | [] => ([], reg)
  | call :: rest =>
    let later := (reg.perform call).2.performAll rest
    ((reg.perform call).1 :: later.1, later.2)

theorem performAll_append (reg : Registry) (first second : List Call) :
    reg.performAll (first ++ second) =
      ((reg.performAll first).1 ++ ((reg.performAll first).2.performAll second).1,
        ((reg.performAll first).2.performAll second).2) := by
  induction first generalizing reg with
  | nil => rfl
  | cons call rest ih =>
    rw [cons_append, performAll, performAll, ih]
    rfl

theorem length_performAll (reg : Registry) (calls : List Call) :
    (reg.performAll calls).1.length = calls.length := by
  induction calls generalizing reg with
  | nil => rfl
  | cons call rest ih => rw [performAll, length_cons, length_cons, ih]

def Call.types : Call -> List Candidate
  | .register req => Role.all.flatMap fun role => (req.type? role).toList
  | .registerType type => [type]
  | .freeze => []

def Call.descriptors (call : Call) : List Descriptor := call.types.filterMap descriptor?

def Call.reply? : Call -> Option Entry
  | .register req =>
    (Method.ofName? (capitalized req.method)).bind fun method =>
      req.doc.read.toOption.map fun doc => req.entry method doc
  | .registerType _ | .freeze => none

/-- A call is right in itself, whatever was called before: its method, its documentation and
the names of its types. -/
inductive Call.InOrder : Call -> Prop where
  | register {req : Request} {method : Method} {doc : EndpointDoc}
      (supported : Method.ofName? (capitalized req.method) = some method)
      (read : req.doc.read = .ok doc) (typed : req.Typed) : Call.InOrder (.register req)
  | registerType (descriptor : Descriptor) : Call.InOrder (.registerType (.descriptor descriptor))

def session (reg : Registry) : Session where
  table := reg.table
  memo := reg.memo

variable {reg : Registry} {req : Request} {method : Method} {pre post : Session} {call : Call}

theorem Call.reply?_register (supported : Method.ofName? (capitalized req.method) = some method)
    (read : req.doc.read = .ok doc) :
    (Call.register req).reply? = some (req.entry method doc) := by
  rw [Call.reply?, supported, read]
  rfl

/-- A type of a route has to have a schema's name, and its descriptor is synthesized. A type
that is only named is not looked into, which is how a reference by name is synthesized. -/
theorem yields_schemaName : Yields (schemaName label type?) pre result post ↔
      (∀ type, type? = some type -> type.schemaName?.isSome = true) /\
        result = type?.bind schemaName? /\
        Yields (ofDescriptors (type?.toList.filterMap descriptor?)) pre ()
          post := by
  rcases type? with - | (type | shown)
  · simp [schemaName, ofDescriptors]
  · have listed : [descriptor type].filterMap descriptor? = [type] := rfl
    cases type <;>
      simp [schemaName, schemaName?, listed, yields_ofDescriptors_singleton,
        yields_inside, yields_fail, ofDescriptor, node,
        and_comm]
  · simp [schemaName, schemaName?, yields_fail]

theorem Call.descriptors_register (req : Request) : (Call.register req).descriptors =
      req.success?.toList.filterMap descriptor? ++ (req.error?.toList.filterMap descriptor? ++
          req.body?.toList.filterMap descriptor?) := by
  simp only [Call.descriptors, Call.types, Role.all, flatMap_cons, flatMap_nil,
    append_nil, filterMap_append, Request.type?]

theorem yields_entryOf : Yields (entryOf method doc req) pre entry post ↔
      req.Typed /\ entry = req.entry method doc /\
        Yields (ofDescriptors (Call.register req).descriptors) pre () post := by
  simp only [Call.descriptors_register, yields_ofDescriptors_append]
  unfold entryOf
  simp only [yields_bind, yields_pure, yields_schemaName]
  constructor
  · rintro ⟨_, one, ⟨first, rfl, successBuilt⟩, _, two, ⟨second, rfl, errorBuilt⟩, _, _,
      ⟨third, rfl, bodyBuilt⟩, rfl, rfl⟩
    refine ⟨?_, rfl, one, successBuilt, two, errorBuilt, bodyBuilt⟩
    rintro (- | - | -)
    · exact first
    · exact second
    · exact third
  · rintro ⟨typed, rfl, one, successBuilt, two, errorBuilt, bodyBuilt⟩
    exact ⟨_, one, ⟨typed .success, rfl, successBuilt⟩, _, two, ⟨typed .error, rfl, errorBuilt⟩, _,
      post, ⟨typed .body, rfl, bodyBuilt⟩, rfl, rfl⟩

theorem synthesize_eq {α : Type} (reg : Registry) (step : Synthesis Node α) :
    reg.synthesize step = match step.run.run reg.session with
      | (.ok value, session) =>
        ⟨.ok value, { reg with table := session.table, memo := session.memo }, session.notices⟩
      | (.error failure, session) => ⟨.error (.synthesis failure), reg, session.notices⟩ := by
  have opened : reg.synthesize step = let ran := (staged step).run.run reg.session
      { answer := ran.1.mapError .synthesis
        registry := { reg with table := ran.2.table, memo := ran.2.memo }
        notices := ran.2.notices } := rfl
  rw [opened, run_staged]
  cases (step.run.run reg.session : Except Failure α × Session) with
  | mk answer session => cases answer <;> rfl

theorem isTaken_iff (reg : Registry) (method : Method) (path : String) :
    reg.isTaken method path = true ↔ (method, segments path) ∈ reg.entries.map Entry.key := by
  unfold isTaken
  rw [any_eq_true, mem_map]
  simp only [decide_eq_true_eq]

theorem perform_register (supported : Method.ofName? (capitalized req.method) = some method)
    (read : req.doc.read = .ok doc) :
    reg.perform (.register req) = if reg.frozen then
        (.error (.frozenRoute (capitalized req.method) req.path), reg)
      else if reg.isTaken method req.path then
        (.error (.duplicate (capitalized req.method) req.path), reg)
      else
        match (entryOf method doc req).run.run reg.session with
        | (.ok entry, session) =>
          (.ok (some entry), { reg with
            entries := reg.entries ++ [entry]
            table := session.table
            memo := session.memo })
        | (.error failure, _) => (.error (.synthesis failure), reg) := by
  unfold perform register
  simp only [supported, read, synthesize_eq]
  split_ifs
  · rfl
  · rfl
  · cases ((entryOf method doc req).run.run reg.session : Except Failure Entry × Session) with
    | mk answer session => cases answer <;> rfl

theorem perform_registerType (unfrozen : reg.frozen = false) (type : Candidate) :
    reg.perform (.registerType type) =
      match (type.synthesize : Synthesis Node Node).run.run reg.session with
      | (.ok _, session) => (.ok none, { reg with table := session.table, memo := session.memo })
      | (.error failure, _) => (.error (.synthesis failure), reg) := by
  unfold perform registerType
  simp only [unfrozen, Bool.false_eq_true, if_false, synthesize_eq, run_bind]
  cases ((type.synthesize : Synthesis Node Node).run.run reg.session :
      Except Failure Node × Session) with
  | mk answer session => cases answer <;> rfl

/-- Nothing stands against a call: the call itself is in order, the registry is open, the key
of a route is free, and the descriptors that are passed are synthesized. -/
structure Accepts (reg : Registry) (call : Call) (session : Session) : Prop where
  inOrder : call.InOrder
  unfrozen : reg.frozen = false
  fresh : ∀ entry, call.reply? = some entry -> entry.key ∉ reg.entries.map Entry.key
  synthesized : Yields (ofDescriptors call.descriptors) reg.session () session

/-- A call that is accepted leaves the schemas of its types behind, and the entry of a route. -/
theorem Accepts.perform {session : Session} (accepts : reg.Accepts call session) :
    reg.perform call = (.ok call.reply?, { reg with
      entries := reg.entries ++ call.reply?.toList
      table := session.table
      memo := session.memo }) := by
  obtain ⟨inOrder, unfrozen, fresh, synthesized⟩ := accepts
  cases inOrder with
  | @register req method doc supported read typed =>
    rw [Call.reply?_register supported read] at fresh ⊢
    have free := mt (isTaken_iff reg method req.path).mp (fresh _ rfl)
    have built : (entryOf method doc req).run.run reg.session = _ :=
      yields_entryOf.mpr ⟨typed, rfl, synthesized⟩
    rw [perform_register supported read, if_neg (by simp [unfrozen]), if_neg free, built]
    rfl
  | registerType type =>
    obtain ⟨shape, built⟩ := yields_ofDescriptors_singleton.mp synthesized
    have ran : (descriptor type).synthesize.run.run reg.session = _ := built
    rw [perform_registerType unfrozen, ran, Call.reply?, Option.toList_none, append_nil]

theorem accepts_or_fails (reg : Registry) (registers : call ≠ .freeze) :
    (∃ session, reg.Accepts call session) \/
      ∃ failure, reg.perform call = (.error failure, reg) := by
  cases call with
  | freeze => exact absurd rfl registers
  | register req =>
    cases supported : Method.ofName? (capitalized req.method) with
    | none =>
      unfold perform register
      simp only [supported]
      exact .inr ⟨_, rfl⟩
    | some method =>
      cases read : req.doc.read with
      | error cause =>
        unfold perform register
        simp only [supported, read]
        exact .inr ⟨_, rfl⟩
      | ok doc =>
        rw [perform_register supported read]
        split_ifs with frozen taken
        · exact .inr ⟨_, rfl⟩
        · exact .inr ⟨_, rfl⟩
        · split
          · rename_i entry session built
            obtain ⟨typed, rfl, synthesized⟩ := yields_entryOf.mp built
            refine .inl ⟨session, .register supported read typed, eq_false_of_ne_true frozen, ?_,
              synthesized⟩
            rw [Call.reply?_register supported read]
            rintro _ ⟨⟩
            exact mt (isTaken_iff reg method req.path).mpr taken
          · exact .inr ⟨_, rfl⟩
  | registerType type =>
    cases frozen : reg.frozen with
    | true =>
      simp only [perform, registerType, frozen, if_true]
      exact .inr ⟨_, rfl⟩
    | false =>
      rw [perform_registerType frozen]
      split
      · rename_i session built
        cases type with
        | foreign shown => exact absurd built yields_throw.mp
        | descriptor type =>
          exact .inl ⟨session, .registerType type, frozen, nofun,
            yields_ofDescriptors_singleton.mpr ⟨_, built⟩⟩
      · exact .inr ⟨_, rfl⟩

theorem perform_cases (reg : Registry) (call : Call) :
    (∃ reply post, reg.perform call = (.ok reply, post)) \/
      ∃ failure, reg.perform call = (.error failure, reg) := by
  by_cases registers : call = .freeze
  · subst registers
    exact .inl ⟨_, _, rfl⟩
  · exact (reg.accepts_or_fails registers).imp_left fun ⟨_, accepts⟩ => ⟨_, _, accepts.perform⟩

theorem perform_eq_ok_iff {post : Registry} (registers : call ≠ .freeze) :
    reg.perform call = (.ok reply, post) ↔ call.InOrder /\ reply = call.reply? /\ reg.frozen = false /\
        (∀ entry, call.reply? = some entry -> entry.key ∉ reg.entries.map Entry.key) /\
        ∃ session, Yields (ofDescriptors call.descriptors) reg.session () session /\
          post = { reg with
            entries := reg.entries ++ call.reply?.toList
            table := session.table
            memo := session.memo } := by
  constructor
  · intro performed
    rcases reg.accepts_or_fails registers with ⟨session, accepts⟩ | ⟨failure, failed⟩
    · cases accepts.perform.symm.trans performed
      exact ⟨accepts.inOrder, rfl, accepts.unfrozen, accepts.fresh, session, accepts.synthesized, rfl⟩
    · cases failed.symm.trans performed
  · rintro ⟨inOrder, rfl, unfrozen, fresh, session, synthesized, rfl⟩
    exact Accepts.perform ⟨inOrder, unfrozen, fresh, synthesized⟩

theorem perform_register_eq_ok {post : Registry} :
    reg.perform (.register req) = (.ok (some entry), post) ↔ (reg.register req).answer = .ok entry /\
        (reg.register req).registry = post := by
  rw [perform]
  cases (reg.register req).answer <;> simp [Except.map]

theorem perform_registerType_eq_ok {post : Registry} :
    reg.perform (.registerType type) = (.ok reply, post) ↔
      reply = none /\ (reg.registerType type).answer = .ok () /\
        (reg.registerType type).registry = post := by
  rw [perform]
  cases (reg.registerType type).answer <;> simp [Except.map, eq_comm]

theorem registry_of_failed {failure : RegistrationError}
    (failed : (reg.perform call).1 = .error failure) : (reg.perform call).2 = reg := by
  rcases reg.perform_cases call with ⟨reply, post, performed⟩ | ⟨_, performed⟩
  · rw [performed] at failed
    cases failed
  · rw [performed]

section
variable {held : Table -> Prop} (closed : Table.Inductive held)

include closed

theorem maintains_ofDescriptor (type : Descriptor) :
    Maintains (OnTable held) Node.Flat (ofDescriptor type) :=
  maintains_node (inductive_onTable closed) type fun _ _ => trivial

theorem maintains_schemaName (label : String) (type? : Option Candidate) :
    Maintains (OnTable held) Anything (schemaName label type?) := by
  have built : ∀ (descriptor : Descriptor) (name : String), Maintains (OnTable held) Anything (do
      let _ <- inside label (.ofDescriptor descriptor)
      return some name : Synthesis Node (Option String)) := fun descriptor name =>
    (maintains_inside (maintains_ofDescriptor closed descriptor)).bind fun _ _ =>
      maintains_pure trivial
  rcases type? with - | (type | shown)
  · exact maintains_pure trivial
  · cases type with
    | named name => exact maintains_pure trivial
    | struct name fields about => exact built _ name
    | union name variants => exact built _ name
    | primitive | optional | sequence => exact maintains_throw _
  · exact maintains_throw _

theorem maintains_entryOf (method : Method) (doc : EndpointDoc) (req : Request) :
    Maintains (OnTable held) Anything (entryOf method doc req) :=
  (maintains_schemaName closed _ _).bind fun _ _ => (maintains_schemaName closed _ _).bind fun _ _ =>
    (maintains_schemaName closed _ _).bind fun _ _ => maintains_pure trivial

theorem maintains_synthesize (type : Candidate) :
    Maintains (OnTable held) Anything (type.synthesize : Synthesis Node Node) := by
  cases type with
  | foreign shown => exact maintains_throw _
  | descriptor type =>
    intro pre known
    exact ⟨(maintains_ofDescriptor closed type pre known).1, fun _ _ => trivial⟩

theorem held_perform (frozen : ∀ table, held table -> held table.freeze)
    (known : held reg.table) (call : Call) : held (reg.perform call).2.table := by
  by_cases registers : call = .freeze
  · subst registers
    exact frozen reg.table known
  · rcases reg.accepts_or_fails registers with ⟨session, accepts⟩ | ⟨failure, failed⟩
    · have start : OnTable held reg.session := known
      rw [accepts.perform]
      exact held_ofDescriptors (inductive_onTable closed)
        (fun _ _ _ _ => trivial) start accepts.synthesized
    · rw [failed]
      exact known

theorem held_performAll (frozen : ∀ table, held table -> held table.freeze)
    (known : held reg.table) (calls : List Call) :
    held (reg.performAll calls).2.table := by
  induction calls generalizing reg with
  | nil => exact known
  | cons call rest ih => exact ih (held_perform closed frozen known call)
end

theorem frozen_of_ofDescriptors (yields : Yields (ofDescriptors types) pre () post) :
    post.table.frozen = pre.table.frozen :=
  held_ofDescriptors
    (inductive_onTable (Table.inductive_frozen pre.table.frozen))
    (fun _ _ _ _ => trivial) rfl yields
end Registry
end RouteDocs
