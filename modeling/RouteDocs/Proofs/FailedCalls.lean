import RouteDocs.Proofs.InPlace

namespace RouteDocs
open Route Registry Schema

/-!
# Failed calls

A registry that works in place keeps the keys of its routes apart from the routes and the types
under way in a variable, and undoes what a failing call has done to the table. Every call on such a
`Workshop` answers as on the registry, and ends in the layout of the registry after the call.
-/

structure Workshop extends Registry where
  keys : List (Http.Method × List Segment) := []
  underway : List (String × Descriptor) := []

namespace Workshop
def ofRegistry (reg : Registry) : Workshop where
  toRegistry := reg
  keys := reg.entries.map Entry.key

def synthesize {α : Type} (workshop : Workshop) (work : Work α) :
    Except RegistrationError α × Workshop :=
  let (answer, bench) := work.staged.run.run
    ⟨{ table := workshop.table, memo := workshop.memo }, workshop.underway⟩
  (answer.mapError .synthesis, { workshop with
    table := bench.session.table
    memo := bench.session.memo
    underway := bench.underway })

def schemaName (label : String) : Option Candidate -> Work (Option String)
  | none => return none
  | some (.descriptor (.named name)) => return some name
  | some (.descriptor (.struct name fields about)) => do
    let _ <- Work.inside label (.node (.struct name fields about))
    return some name
  | some (.descriptor (.union name variants)) => do
    let _ <- Work.inside label (.node (.union name variants))
    return some name
  | some _ => .plain (.fail (.inside label .unnamedRouteType))

def entryOf (method : Http.Method) (doc : EndpointDoc) (req : Request) : Work Entry := do
  let label := method.name ++ " " ++ req.path
  let success? <- schemaName label req.success?
  let error? <- schemaName label req.error?
  let body? <- schemaName label req.body?
  return ⟨method, req.path, doc, success?, error?, body?⟩

def register (workshop : Workshop) (req : Request) : Except RegistrationError Entry × Workshop :=
  let capitals := Http.capitalized req.method
  match Http.Method.ofName? capitals with
  | none => (.error (.unsupportedMethod capitals), workshop)
  | some method =>
    match req.doc.read with
    | .error cause => (.error (.unread cause), workshop)
    | .ok doc =>
      let key := (method, segments req.path)
      if workshop.frozen then (.error (.frozenRoute capitals req.path), workshop)
      else if key ∈ workshop.keys then (.error (.duplicate capitals req.path), workshop)
      else
        match workshop.synthesize (entryOf method doc req) with
        | (.error cause, post) => (.error cause, post)
        | (.ok entry, post) =>
          (.ok entry, { post with
            keys := post.keys ++ [key]
            entries := post.entries ++ [entry] })

def candidate : Candidate -> Work Node
  | .descriptor type => .node type
  | .foreign shown => .plain (.fail (.notDescriptor shown))

def registerType (workshop : Workshop) (type : Candidate) :
    Except RegistrationError Unit × Workshop :=
  if workshop.frozen then
    let cause := match type with
      | .descriptor descriptor => match descriptor.name? with
        | some name => .frozenType name
        | none => .frozenUnnamed
      | .foreign _ => .frozenUnnamed
    (.error cause, workshop)
  else
    workshop.synthesize (do let _ <- candidate type)

def perform (workshop : Workshop) : Call -> Reply × Workshop
  | .register req => ((workshop.register req).1.map some, (workshop.register req).2)
  | .registerType type =>
    ((workshop.registerType type).1.map fun _ => none, (workshop.registerType type).2)
  | .freeze => (.ok none, { workshop with toRegistry := workshop.toRegistry.freeze })

def performAll (workshop : Workshop) : List Call -> List Reply × Workshop
  | [] => ([], workshop)
  | call :: rest =>
    let later := (workshop.perform call).2.performAll rest
    ((workshop.perform call).1 :: later.1, later.2)

theorem tracks_schemaName (label : String) (type? : Option Candidate) :
    Work.Tracks [] (Route.schemaName label type?) (schemaName label type?) := by
  have built : ∀ (descriptor : Descriptor) (name : String), Work.Tracks [] (do
      let _ <- Synthesis.inside label (.ofDescriptor descriptor)
      return some name : Synthesis Node (Option String)) (do
      let _ <- Work.inside label (.node descriptor)
      return some name) := fun descriptor name =>
    (Work.tracks_node descriptor).inside.bind fun _ => Work.tracks_pure _
  cases type? with
  | none => exact Work.tracks_pure _
  | some type =>
    cases type with
    | foreign shown => exact Work.tracks_plain _
    | descriptor type =>
      cases type with
      | named name => exact Work.tracks_pure _
      | struct name fields about => exact built _ name
      | union name variants => exact built _ name
      | primitive | optional | sequence => exact Work.tracks_plain _

theorem tracks_entryOf (method : Http.Method) (doc : EndpointDoc) (req : Request) :
    Work.Tracks [] (Registry.entryOf method doc req) (entryOf method doc req) :=
  (tracks_schemaName _ _).bind fun _ => (tracks_schemaName _ _).bind fun _ =>
    (tracks_schemaName _ _).bind fun _ => Work.tracks_pure _

theorem tracks_candidate (type : Candidate) : Work.Tracks [] type.synthesize (candidate type) := by
  cases type with
  | descriptor type => exact Work.tracks_node type
  | foreign shown => exact Work.tracks_plain _

/-- A staged synthesis in place answers as on the registry, and ends in the registry
after it, with the keys and the types under way as before. -/
theorem synthesize_ofRegistry {α : Type} {expected : α -> Prop} (reg : Registry)
    {step : Synthesis Node α} {work : Work α} (tracks : Work.Tracks [] step work)
    (kept : ∀ value, Maintains (Synthesis.OnTable fun table => table.frozen = value) expected step) :
    (ofRegistry reg).synthesize work = ((reg.synthesize step).answer,
        { ofRegistry reg with toRegistry := (reg.synthesize step).registry }) := by
  have ran := tracks.staged kept { table := reg.table, memo := reg.memo }
  unfold synthesize
  simp only [ofRegistry]
  rw [ran]
  rfl

theorem register_ofRegistry (reg : Registry) (req : Request) : (ofRegistry reg).register req =
      ((reg.register req).answer, ofRegistry (reg.register req).registry) := by
  unfold register Registry.register
  cases known : Http.Method.ofName? (Http.capitalized req.method) with
  | none => simp only [known]
  | some method =>
    cases req.doc.read with
    | error cause => simp only [known]
    | ok doc =>
      have sameFrozen : (ofRegistry reg).frozen = reg.frozen := rfl
      have sameTaken := isTaken_iff reg method req.path
      by_cases frozen : reg.frozen = true
      · simp only [known, sameFrozen, if_pos frozen]
      · by_cases taken : reg.isTaken method req.path = true
        · have listed : (method, segments req.path) ∈ (ofRegistry reg).keys :=
            sameTaken.mp taken
          simp only [known, sameFrozen, if_neg frozen, if_pos taken, if_pos listed]
        · have unlisted : (method, segments req.path) ∉ (ofRegistry reg).keys :=
            mt sameTaken.mpr taken
          have inPlace := synthesize_ofRegistry reg (tracks_entryOf method doc req)
            fun value => maintains_entryOf (Table.inductive_frozen value) method doc req
          simp only [known, sameFrozen, if_neg frozen, if_neg taken, if_neg unlisted, inPlace,
            synthesize_eq]
          cases ran : ((Registry.entryOf method doc req).run.run reg.session :
              Except Failure Entry × Session) with
          | mk answer sess =>
            cases answer with
            | error failure => rfl
            | ok entry =>
              obtain ⟨-, rfl, -⟩ := yields_entryOf.mp ran
              simp only [ofRegistry, List.map_append]
              rfl

theorem registerType_ofRegistry (reg : Registry) (type : Candidate) :
    (ofRegistry reg).registerType type =
      ((reg.registerType type).answer, ofRegistry (reg.registerType type).registry) := by
  have kept : ∀ value, Maintains (Synthesis.OnTable fun table => table.frozen = value) Anything
      (do let _ <- type.synthesize : Synthesis Node Unit) := fun value =>
    (maintains_synthesize (Table.inductive_frozen value) type).bind fun _ _ =>
      maintains_pure trivial
  have inPlace := synthesize_ofRegistry reg
    ((tracks_candidate type).bind fun _ => Work.tracks_pure ()) kept
  have sameFrozen : (ofRegistry reg).frozen = reg.frozen := rfl
  unfold registerType Registry.registerType
  by_cases frozen : reg.frozen = true
  · rewrite [sameFrozen, if_pos frozen, if_pos frozen]
    rfl
  · rewrite [sameFrozen, if_neg frozen, if_neg frozen]
    exact inPlace

theorem perform_ofRegistry (reg : Registry) (call : Call) : (ofRegistry reg).perform call =
      ((reg.perform call).1, ofRegistry (reg.perform call).2) := by
  cases call with
  | register req => rw [perform, register_ofRegistry, Registry.perform]
  | registerType type => rw [perform, registerType_ofRegistry, Registry.perform]
  | freeze => rfl

theorem performAll_ofRegistry (reg : Registry) (calls : List Call) :
    (ofRegistry reg).performAll calls =
      ((reg.performAll calls).1, ofRegistry (reg.performAll calls).2) := by
  induction calls generalizing reg with
  | nil => rfl
  | cons call rest ih => rw [performAll, perform_ofRegistry, ih, Registry.performAll]
end Workshop

namespace Registry

/-- After any calls, a call that fails leaves the registry as it was. Whatever is called
later, the answers are those that would have been given without it, and so is the
registry in the end. A registry that works in place gives the same answers
throughout; a failed call leaves it as it was, too, with its keys, and with
no type under way. -/
theorem failed_call_leaves_no_trace (earlier : List Call) (call : Call) {failure : RegistrationError}
    (failed : ((performAll {} earlier).2.perform call).1 = .error failure) :
    ((performAll {} earlier).2.perform call).2 = (performAll {} earlier).2 /\
      (∀ later, performAll {} (earlier ++ call :: later) =
        let without := performAll {} (earlier ++ later)
        (without.1.take earlier.length ++ .error failure :: without.1.drop earlier.length,
          without.2)) /\
      (∀ calls, (Workshop.performAll {} calls).1 = (performAll {} calls).1 /\
        (Workshop.performAll {} calls).2.toRegistry = (performAll {} calls).2) /\
      (Workshop.performAll {} earlier).2.perform call =
        (.error failure, (Workshop.performAll {} earlier).2) /\
      (Workshop.performAll {} earlier).2.underway = [] := by
  have unchanged := registry_of_failed failed
  have inPlace : ∀ calls, Workshop.performAll {} calls =
      ((performAll {} calls).1, .ofRegistry (performAll {} calls).2) :=
    Workshop.performAll_ofRegistry {}
  refine ⟨unchanged, fun later => ?_, fun calls => ?_, ?_, ?_⟩
  · have position := length_performAll {} earlier
    rw [performAll_append, performAll_append, performAll, failed, unchanged]
    simp only [<- position, List.take_left, List.drop_left]
  · rw [inPlace]
    exact ⟨rfl, rfl⟩
  · rw [inPlace, Workshop.perform_ofRegistry, failed, unchanged]
  · rw [inPlace]
    rfl

/-- An error with a second kind of item in one variant, and with a field of no known
type in the next. -/
def lateFault : Candidate := .descriptor (.union "OrderError"
    [⟨"Missing", [⟨"item", .struct "Item" [⟨"id", .primitive "str", false⟩] "", false⟩], ""⟩,
      ⟨"Broken", [⟨"reason", .primitive "word", false⟩], ""⟩])

/-- On its own, the synthesis of the error records a conflict and two warnings before it
fails; the call leaves neither behind. -/
theorem failed_call_leaves_no_trace_late :
    let item : Call := .registerType (.descriptor (.struct "Item" [⟨"id", .primitive "int", false⟩] ""))
    let before := (performAll {} [item]).2
    let alone := ((lateFault.synthesize : Synthesis Node Node).run.run
      { table := before.table, memo := before.memo }).2
    alone.table.conflicts = ["Item"] /\ alone.table.warnings.length = 2 /\
      (before.perform (.registerType lateFault)).2 = before := by
  intro item before alone
  refine ⟨by decide, by decide, ?_⟩
  exact (failed_call_leaves_no_trace [item] (.registerType lateFault) rfl).1
end Registry
end RouteDocs
