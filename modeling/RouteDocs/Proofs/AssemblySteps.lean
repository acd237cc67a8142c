import RouteDocs.Proofs.Targets

namespace RouteDocs
open List OrderedMap Doc Route
open OpenApi.Site (present?)

def Doc.Response.ownSchema? : Response -> Option String
  | .simple .. => none
  | .elaborate _ _ _ schemaName? _ => present? schemaName?

def Doc.Response.contentType? : Response -> Option String
  | .simple .. => none
  | .elaborate _ _ contentType _ _ => some contentType

def Doc.Response.examples : Response -> List Example
  | .simple .. => []
  | .elaborate _ _ _ _ examples => examples

namespace OpenApi
open Schema

/-!
# An operation stands on its own

One step of building an operation adds to the warnings, looks up some names, and stops at one that
is not registered or gives what it should. The warnings before it have no say in that, and of the
table it sees only which names are registered and the status maps.
-/

def Covers (table : Table) (names : List String) : Prop :=
  ∀ name ∈ names, table.contains name = true

theorem covers_nil (table : Table) : Covers table [] := nofun

structure TablesAlike (first second : Table) : Prop where
  contains : ∀ name, first.contains name = second.contains name
  statusMap? : ∀ name, first.statusMap? name = second.statusMap? name

def BodySchema.ofNames : List String -> BodySchema
  | [name] => .ref name
  | names => .oneOf names

theorem BodySchema.references_ofNames (names : List String) :
    (ofNames names).references = names := by
  unfold ofNames
  split <;> rfl

namespace Site

/-- Some names have been looked up: all are registered, and there is a value as expected, or one
of them is reported. -/
def Accepts {α : Type} (site : Site) (names : List String) (expected : α -> Prop) :
    Except AssemblyError α -> Prop
  | .ok value => Covers site.table names /\ expected value
  | .error failure => ∃ name ∈ names, site.table.contains name = false /\
      failure = .unresolved name ("Route " ++ site.entry.label)

/-- A step answers after looking up some names, and adds what it has to say to the warnings: no
other remarks than these. Another step does the same. -/
def Performs {α : Type} (site : Site) (names remarks : List String) (expected : α -> Prop)
    (step other : Assembly α) : Prop :=
  ∃ answer said, site.Accepts names expected answer /\ said ⊆ remarks /\
    ∀ pre, step.run.run pre = (answer, pre ++ said) /\ other.run.run pre = (answer, pre ++ said)

section
variable {α β : Type} {site : Site} {names more remarks further : List String}
  {expected : α -> Prop} {wanted : β -> Prop} {step other : Assembly α}
  {next afterOther : α -> Assembly β}

theorem performs_pure (asExpected : expected value) :
    site.Performs [] remarks expected (pure value) (pure value) := by
  refine ⟨.ok value, [], ⟨covers_nil _, asExpected⟩, nil_subset _, fun pre => ?_⟩
  rw [append_nil]
  exact ⟨rfl, rfl⟩

theorem Performs.bind (first : site.Performs names remarks expected step other)
    (second : ∀ value, expected value ->
      site.Performs more further wanted (next value) (afterOther value)) :
    site.Performs (names ++ more) (remarks ++ further) wanted (step >>= next)
      (other >>= afterOther) := by
  obtain ⟨answer, said, accepted, known, ran⟩ := first
  cases answer with
  | error failure =>
    obtain ⟨name, mem, unknown⟩ := accepted
    refine ⟨.error failure, said, ⟨name, mem_append_left _ mem, unknown⟩,
      subset_append_of_subset_left _ known, fun pre => ?_⟩
    rw [run_bind, run_bind, (ran pre).1, (ran pre).2]
    exact ⟨rfl, rfl⟩
  | ok value =>
    obtain ⟨result, others, finished, alsoKnown, alsoRan⟩ := second value accepted.2
    refine ⟨result, said ++ others, ?_, append_subset.mpr ⟨subset_append_of_subset_left _ known,
      subset_append_of_subset_right _ alsoKnown⟩, fun pre => ?_⟩
    · cases result with
      | ok result => exact ⟨forall_mem_append.mpr ⟨accepted.1, finished.1⟩, finished.2⟩
      | error failure =>
        obtain ⟨name, mem, unknown⟩ := finished
        exact ⟨name, mem_append_right _ mem, unknown⟩
    · rw [run_bind, run_bind, (ran pre).1, (ran pre).2, <- append_assoc]
      exact alsoRan _

theorem Performs.andThen (first : site.Performs names remarks expected step other)
    (second : ∀ value, expected value ->
      site.Performs [] further wanted (next value) (afterOther value)) :
    site.Performs names (remarks ++ further) wanted (step >>= next) (other >>= afterOther) := by
  have both := first.bind second
  rw [append_nil] at both
  exact both

theorem Performs.imp {wanted : α -> Prop} (performs : site.Performs names remarks expected step other)
    (implied : ∀ value, Covers site.table names -> expected value -> wanted value) :
    site.Performs names remarks wanted step other := by
  obtain ⟨answer, said, accepted, run⟩ := performs
  refine ⟨answer, said, ?_, run⟩
  cases answer with
  | ok value => exact ⟨accepted.1, implied value accepted.1 accepted.2⟩
  | error failure => exact accepted
end

section
variable (site : Site)

def bodyName? : Option String :=
  present? ((present? (site.entry.doc.requestBody?.bind (·.schema?))).or site.entry.request?)

def inferredNames (status : Int) : List String :=
  match (if Http.isSuccess status then present? site.entry.success? else none),
    site.errorMap.get? status with
  | some name, _ => [name]
  | none, some error => error.schemas
  | none, none => []

def documentedNames (status : Int) (resp : Doc.Response) : List String :=
  match resp.ownSchema? with
  | some name => [name]
  | none => site.inferredNames status

def successNames : List String :=
  if site.documentsSuccess then [] else (present? site.entry.success?).toList

def errorNames (errors : List (Int × ErrorResponse)) : List String :=
  errors.flatMap fun item =>
    if site.entry.doc.responses.contains item.1 then [] else item.2.schemas

def names : List String := site.bodyName?.toList ++
    ((site.entry.doc.responses.entries.flatMap fun item => site.documentedNames item.1 item.2) ++
      (site.successNames ++ site.errorNames site.errorMap.entries))

/-- What a documented status without a schema of its own has for one: the success type if the
status reports success, or else the alternatives of the error type. -/
def inferred? (status : Int) : Option BodySchema :=
  ((if Http.isSuccess status then present? site.entry.success? else none).map .ref).or
    ((site.errorMap.get? status).map fun error => .ofNames error.schemas)

def documentedAs (status : Int) (doc : Doc.Response) : Response where
  description := doc.description
  contentType := doc.contentType?.getD site.options.defaultContentType
  schema? := (doc.ownSchema?.map .ref).or (site.inferred? status)
  examples := doc.examples

def successAs (name : String) : Response :=
  ⟨s!"Successfully returned {name}", site.options.defaultContentType, some (.ref name), []⟩

def errorAs (error : ErrorResponse) : Response :=
  ⟨(site.entry.error?.getD "") ++ " error", site.options.defaultContentType,
    some (.ofNames error.schemas), []⟩

def documentedItems (documented : List (Int × Doc.Response)) : List (Int × Response) :=
  documented.map fun item => (item.1, site.documentedAs item.1 item.2)

def successItems : List (Int × Response) := if site.documentsSuccess then []
  else (present? site.entry.success?).toList.map fun name => ((Http.success : Int), site.successAs name)

def errorItems (errors : List (Int × ErrorResponse)) : List (Int × Response) :=
  (errors.filter fun item => !site.entry.doc.responses.contains item.1).map fun item =>
    (item.1, site.errorAs item.2)

def responseItems : List (Int × Response) :=
  site.documentedItems site.entry.doc.responses.entries ++
    (site.successItems ++ site.errorItems site.errorMap.entries)

theorem references_documentedAs (status : Int) (doc : Doc.Response) :
    (site.documentedAs status doc).references = site.documentedNames status doc := by
  simp only [Response.references, documentedAs, documentedNames, inferred?, inferredNames]
  cases doc.ownSchema? with
  | some name => rfl
  | none =>
    cases (if Http.isSuccess status then present? site.entry.success? else none) with
    | some name => rfl
    | none =>
      cases site.errorMap.get? status with
      | some error => exact BodySchema.references_ofNames error.schemas
      | none => rfl

theorem references_responseItems {site : Site} (mem : item ∈ site.responseItems) :
    item.2.references ⊆ site.names := by
  intro name referred
  unfold names
  rcases mem_append.mp mem with documented | added
  · obtain ⟨source, listed, rfl⟩ := mem_map.mp documented
    rw [references_documentedAs] at referred
    exact mem_append_right _ (mem_append_left _ (mem_flatMap.mpr ⟨_, listed, referred⟩))
  · refine mem_append_right _ (mem_append_right _ ?_)
    rcases mem_append.mp added with success | error
    · refine mem_append_left _ ?_
      unfold successItems at success
      unfold successNames
      split at success
      · cases success
      · rename_i undocumented
        obtain ⟨type, present, rfl⟩ := mem_map.mp success
        rw [mem_singleton.mp referred, if_neg undocumented]
        exact present
    · obtain ⟨source, kept, rfl⟩ := mem_map.mp error
      obtain ⟨listed, undocumented⟩ := mem_filter.mp kept
      rw [Response.references, errorAs, Option.map_some, BodySchema.references_ofNames] at referred
      refine mem_append_right _ (mem_flatMap.mpr ⟨source, listed, ?_⟩)
      rw [if_neg (by simpa using undocumented)]
      exact referred

def remark (message : String) : String := site.entry.label ++ ": " ++ message

def isMissing (parameter : Doc.Parameter) : Bool :=
  parameter.location = .path && !(Route.parameters site.entry.path).contains parameter.name

def isUndocumented (name : String) : Bool :=
  site.entry.doc.parameters.all fun parameter =>
    !(parameter.name = name && parameter.location = .path)

def keptParameters (documented : List Doc.Parameter) : List Parameter :=
  (documented.filter fun parameter => !site.isMissing parameter).map fun parameter =>
    ⟨parameter.name, parameter.location, parameter.description⟩

def addedParameters (names : List String) : List Parameter :=
  (names.filter site.isUndocumented).map fun name => ⟨name, .path, ""⟩

def missingRemarks (documented : List Doc.Parameter) : List String :=
  (documented.filter site.isMissing).map fun parameter =>
    site.remark s!"documented path parameter '{parameter.name}' is not in the path"

def addedRemarks (names : List String) : List String :=
  (names.filter site.isUndocumented).map fun name =>
    site.remark s!"path parameter '{name}' is not documented"

def parameterItems : List Parameter :=
  site.keptParameters site.entry.doc.parameters ++
    site.addedParameters (Route.parameters site.entry.path)

def parameterRemarks : List String := site.missingRemarks site.entry.doc.parameters ++
    site.addedRemarks (Route.parameters site.entry.path)

structure Describes (operation : Operation) : Prop where
  operationId : operation.operationId = operationId site.entry.method.name site.entry.path
  parameters : operation.parameters = site.parameterItems
  extensions : operation.extensions = site.extensions
  responses : operation.responses = ofList site.responseItems
  covered : Covers site.table operation.references

def described : Assembly Operation := do
  let doc := site.entry.doc
  let requestBody? <- site.requestBody?
  let responses <- site.responses
  return {
    operationId := operationId site.entry.method.name site.entry.path
    summary := if doc.summary.isEmpty then site.entry.label else doc.summary
    description := doc.description
    parameters := site.parameterItems
    requestBody?, responses
    extensions := site.extensions }

theorem run_documentedParameters (documented : List Doc.Parameter) (pre : List String) :
    (site.documentedParameters documented).run.run pre =
      (.ok (site.keptParameters documented), pre ++ site.missingRemarks documented) := by
  induction documented generalizing pre with
  | nil => exact congrArg _ (append_nil pre).symm
  | cons parameter rest ih =>
    simp only [documentedParameters, keptParameters, missingRemarks, filter_cons]
    rw [<- isMissing]
    cases site.isMissing parameter with
    | true =>
      refine (ih _).trans (congrArg _ ?_)
      rw [append_assoc]
      rfl
    | false =>
      simp only [Bool.false_eq_true, if_false]
      rw [run_bind, ih]
      rfl

theorem isUndocumented_eq (name : String) : site.isUndocumented name =
      (site.entry.doc.parameter? name (some Location.path.word)).isNone := by
  have word : ∀ location : Location,
      (location.word == Location.path.word) = decide (location = .path) := by
    intro location
    cases location <;> decide
  rw [isUndocumented, EndpointDoc.parameter?, <- Option.not_isSome, isSome_find?, not_any_eq_all_not]
  simp only [word, Bool.beq_eq_decide_eq]

theorem run_undocumentedParameters (names pre : List String) :
    (site.undocumentedParameters names).run.run pre =
      (.ok (site.addedParameters names), pre ++ site.addedRemarks names) := by
  induction names generalizing pre with
  | nil => exact congrArg _ (append_nil pre).symm
  | cons name rest ih =>
    simp only [undocumentedParameters, addedParameters, addedRemarks, filter_cons]
    rw [isUndocumented_eq]
    cases site.entry.doc.parameter? name (some Location.path.word) with
    | some parameter => exact ih pre
    | none =>
      refine (run_bind ..).trans ((run_bind ..).trans ?_)
      rw [ih, append_assoc]
      rfl

theorem run_parameters (pre : List String) :
    site.parameters.run.run pre = (.ok site.parameterItems, pre ++ site.parameterRemarks) := by
  rw [parameters, run_bind, run_documentedParameters]
  refine (run_bind ..).trans ?_
  rw [run_undocumentedParameters, append_assoc]
  rfl
end

section
variable {site : Site} {table : Table} (alike : TablesAlike site.table table)

theorem performs_warn (message : String) :
    site.Performs [] [site.remark message] Anything (site.warn message)
      (warn { site with table } message) :=
  ⟨.ok (), _, ⟨covers_nil _, trivial⟩, Subset.refl _, fun _ => ⟨rfl, rfl⟩⟩

include alike

theorem performs_require (name : String) :
    site.Performs [name] [] Anything (site.require name) (require { site with table } name) := by
  have same : require { site with table } name = site.require name := by
    simp only [require, <- alike.contains]
  rw [same, require]
  cases known : site.table.contains name with
  | true =>
    refine ⟨.ok (), [], ⟨forall_mem_singleton.mpr known, trivial⟩, nil_subset _, fun pre => ?_⟩
    rw [append_nil]
    exact ⟨rfl, rfl⟩
  | false =>
    refine ⟨.error _, [], ⟨name, .head _, known, rfl⟩, nil_subset _, fun pre => ?_⟩
    rw [append_nil]
    exact ⟨rfl, rfl⟩

theorem performs_reference (name : String) :
    site.Performs [name] [] (· = .ref name) (site.reference name)
      (reference { site with table } name) :=
  (performs_require alike name).andThen fun _ _ => performs_pure rfl

theorem performs_requestBody? : site.Performs site.bodyName?.toList []
      (fun body? => (body?.map fun body => body.schema.references).getD [] = site.bodyName?.toList)
      site.requestBody? (requestBody? { site with table }) := by
  simp only [requestBody?]
  split
  · rename_i absent
    rw [bodyName?, Option.isNone_iff_eq_none.mp (Bool.and_eq_true_iff.mp absent).2]
    exact performs_pure rfl
  · unfold bodyName?
    cases present? ((present? (site.entry.doc.requestBody?.bind (·.schema?))).or
        site.entry.request?) with
    | some name =>
      exact (performs_reference alike name).andThen fun _ same => performs_pure (by rw [same]; rfl)
    | none => exact performs_pure rfl

theorem performs_errorSchema (error : ErrorResponse) :
    site.Performs error.schemas [] (· = .ofNames error.schemas)
      (site.errorSchema error) (errorSchema { site with table } error) := by
  have looked : ∀ names : List String, site.Performs names [] Anything (names.forM site.require)
      (names.forM (require { site with table })) := by
    intro names
    induction names with
    | nil => exact performs_pure trivial
    | cons name rest ih => exact (performs_require alike name).bind fun _ _ => ih
  refine (looked error.schemas).andThen fun _ _ => ?_
  rcases error.schemas with _ | ⟨name, _ | ⟨other, rest⟩⟩ <;> exact performs_pure rfl

theorem errorMap_eq : errorMap { site with table } = site.errorMap := by
  simp only [errorMap, alike.statusMap?]

theorem performs_inferredSchema (status : Int) :
    site.Performs (site.inferredNames status) [] (· = site.inferred? status)
      (site.inferredSchema status) (inferredSchema { site with table } status) := by
  simp only [inferredSchema, inferredNames, inferred?, errorMap_eq alike]
  generalize (if Http.isSuccess status then present? site.entry.success? else none) = success?
  generalize site.errorMap.get? status = error?
  cases success? with
  | some name =>
    exact (performs_reference alike name).andThen fun _ same => performs_pure (congrArg some same)
  | none =>
    cases error? with
    | some error =>
      exact (performs_errorSchema alike error).andThen fun _ same => performs_pure (congrArg some same)
    | none => exact performs_pure rfl

theorem performs_documentedResponse (status : Int) (doc : Doc.Response) :
    site.Performs (site.documentedNames status doc) [] (· = site.documentedAs status doc)
      (site.documentedResponse status doc) (documentedResponse { site with table } status doc) := by
  have inferred := performs_inferredSchema alike status
  cases doc with
  | simple _ about => exact inferred.andThen fun _ same => performs_pure (by rw [same]; rfl)
  | elaborate _ about contentType schemaName? examples =>
    simp only [documentedResponse, documentedNames, documentedAs, Response.ownSchema?]
    cases present? schemaName? with
    | none => exact inferred.andThen fun _ same => performs_pure (by rw [same]; rfl)
    | some name =>
      simp only [map_eq_pure_bind, bind_assoc, pure_bind]
      exact (performs_reference alike name).andThen fun _ same => performs_pure (by rw [same]; rfl)

theorem performs_addDocumented (documented : List (Int × Doc.Response))
    (responses : OrderedMap Int Response) :
    site.Performs (documented.flatMap fun item => site.documentedNames item.1 item.2) []
      (· = responses.insertAll (site.documentedItems documented))
      (site.addDocumented responses documented)
      (addDocumented { site with table } responses documented) := by
  induction documented generalizing responses with
  | nil => exact performs_pure rfl
  | cons first rest ih =>
    refine (performs_documentedResponse alike first.1 first.2).bind fun _ same => ?_
    rw [same]
    exact ih _

theorem performs_addSuccess (responses : OrderedMap Int Response) :
    site.Performs site.successNames [] (· = responses.insertAll site.successItems)
      (site.addSuccess responses) (addSuccess { site with table } responses) := by
  simp only [addSuccess, successNames, successItems]
  cases present? site.entry.success? with
  | none =>
    rw [Option.toList_none, map_nil, ite_self, ite_self]
    exact performs_pure rfl
  | some name =>
    unfold documentsSuccess
    cases site.entry.doc.responses.keys.any Http.isSuccess with
    | true => exact performs_pure rfl
    | false =>
      exact (performs_reference alike name).andThen fun _ same => performs_pure (by rw [same]; rfl)

theorem performs_addErrors (errors : List (Int × ErrorResponse))
    (responses : OrderedMap Int Response) :
    site.Performs (site.errorNames errors) [] (· = responses.insertAll (site.errorItems errors))
      (site.addErrors responses errors) (addErrors { site with table } responses errors) := by
  induction errors generalizing responses with
  | nil => exact performs_pure rfl
  | cons first rest ih =>
    simp only [addErrors, errorNames, errorItems, flatMap_cons, filter_cons]
    cases site.entry.doc.responses.contains first.1 with
    | true => exact ih responses
    | false =>
      refine (performs_errorSchema alike first.2).bind fun _ same => ?_
      rw [same]
      exact ih _

theorem performs_responses : site.Performs
      ((site.entry.doc.responses.entries.flatMap fun item => site.documentedNames item.1 item.2) ++
        (site.successNames ++ site.errorNames site.errorMap.entries))
      [site.remark "no responses documented or inferred"] (· = ofList site.responseItems)
      site.responses (responses { site with table }) := by
  simp only [responses, errorMap_eq alike]
  refine (performs_addDocumented alike _ _).bind fun documented first => ?_
  refine (performs_addSuccess alike documented).bind fun successful second => ?_
  refine (performs_addErrors alike _ successful).andThen fun responses third => ?_
  have merged : responses = ofList site.responseItems := by
    rw [third, second, first, responseItems, ofList, foldl_append, foldl_append]
    rfl
  split
  · exact (performs_warn _).bind fun _ _ => performs_pure merged
  · exact performs_pure merged

theorem performs_described :
    site.Performs site.names [site.remark "no responses documented or inferred"] site.Describes
      site.described (described { site with table }) := by
  have complete : ∀ operation : Operation, Covers site.table site.names ->
      operation.operationId = operationId site.entry.method.name site.entry.path /\
        operation.parameters = site.parameterItems /\
        operation.extensions = site.extensions /\
        operation.responses = ofList site.responseItems /\
        (operation.requestBody?.map fun body => body.schema.references).getD [] =
          site.bodyName?.toList -> site.Describes operation := by
    rintro operation known ⟨operationId, parameters, extensions, merged, body⟩
    refine ⟨operationId, parameters, extensions, merged, fun name mem => known name ?_⟩
    rcases mem_append.mp mem with ofBody | ofResponse
    · exact mem_append_left _ (body ▸ ofBody)
    · obtain ⟨resp, listed, referred⟩ := mem_flatMap.mp ofResponse
      obtain ⟨item, found, rfl⟩ := mem_map.mp listed
      rw [merged] at found
      exact references_responseItems (entries_ofList_subset _ found) referred
  refine Performs.imp ?_ complete
  refine (performs_requestBody? alike).bind fun body? body => ?_
  exact (performs_responses alike).andThen fun responses merged =>
    performs_pure ⟨rfl, rfl, rfl, merged, body⟩
end

variable (site : Site)

def openingRemarks : List String :=
  (if site.entry.doc.summary.isEmpty then [site.remark "no summary documented"] else []) ++
    site.parameterRemarks

theorem run_operation_eq (pre : List String) :
    site.operation.run.run pre = site.described.run.run (pre ++ site.openingRemarks) := by
  simp only [operation, described, openingRemarks, <- append_assoc]
  cases site.entry.doc.summary.isEmpty with
  | true =>
    refine (run_bind ..).trans ((run_bind ..).trans ?_)
    rw [run_parameters]
    rfl
  | false =>
    refine (run_bind ..).trans ?_
    rw [run_parameters]
    simp only [Bool.false_eq_true, if_false, append_nil]

def alone : Except AssemblyError Operation := (site.operation.run.run []).1

/-- An operation is built as if it were alone. What is said about it is said at the end: remarks
on its summary and its parameters, and at most one on its responses. -/
theorem said_operation : site.Accepts site.names site.Describes site.alone /\
      ∃ said, said ⊆ [site.remark "no responses documented or inferred"] /\
        ∀ pre, site.operation.run.run pre = (site.alone, pre ++ (site.openingRemarks ++ said)) := by
  have itself : TablesAlike site.table site.table := ⟨fun _ => rfl, fun _ => rfl⟩
  obtain ⟨answer, said, accepted, known, ran⟩ := performs_described itself
  have same : site.alone = answer := by rw [alone, run_operation_eq, (ran _).1]
  refine ⟨same ▸ accepted, said, known, fun pre => ?_⟩
  rw [run_operation_eq, (ran _).1, same, append_assoc]

theorem run_operation : site.Accepts site.names site.Describes site.alone /\
      ∃ said, ∀ pre, site.operation.run.run pre = (site.alone, pre ++ said) := by
  obtain ⟨accepted, said, -, ran⟩ := site.said_operation
  exact ⟨accepted, _, ran⟩

theorem describes_of_alone {site : Site} {operation : Operation} (built : site.alone = .ok operation) :
    site.Describes operation := by
  have accepted := site.said_operation.1
  rw [built] at accepted
  exact accepted.2

theorem operation_congr (alike : TablesAlike first second) (entry : Route.Entry)
    (options : Options) :
    operation ⟨entry, first, options⟩ = operation ⟨entry, second, options⟩ := by
  obtain ⟨answer, said, -, -, ran⟩ := @performs_described ⟨entry, first, options⟩ second alike
  funext pre
  have one := run_operation_eq ⟨entry, first, options⟩ pre
  have other := run_operation_eq ⟨entry, second, options⟩ pre
  exact (one.trans (ran _).1).trans ((ran _).2.symm.trans other.symm)

theorem alone_congr (alike : TablesAlike first second) (entry : Route.Entry) (options : Options) :
    alone ⟨entry, first, options⟩ = alone ⟨entry, second, options⟩ := by
  unfold alone
  rw [operation_congr alike]
end Site

def enterAll (paths : Paths) (routes : List (Route.Entry × Operation)) : Paths :=
  routes.foldl (fun paths route =>
    paths.enter (documentPath route.1.path) route.1.method route.2) paths

variable {table : Table} {options : Options} {entries : List Route.Entry}
  {ops : List Operation}

theorem enterAll_of_yields
    (yields : Yields (addOperations table options paths entries) pre result post) :
    ∃ ops, Forall₂ (fun entry operation => Site.alone ⟨entry, table, options⟩ = .ok operation)
        entries ops /\ result = enterAll paths (entries.zip ops) := by
  induction entries generalizing paths pre with
  | nil =>
    obtain ⟨rfl, -⟩ := yields_pure.mp yields
    exact ⟨[], Forall₂.nil, rfl⟩
  | cons entry rest ih =>
    obtain ⟨operation, mid, first, remaining⟩ := yields_bind.mp yields
    obtain ⟨ops, built, entered⟩ := ih remaining
    obtain ⟨said, ran⟩ := (Site.run_operation ⟨entry, table, options⟩).2
    have here := congrArg Prod.fst ((ran pre).symm.trans first)
    exact ⟨operation :: ops, Forall₂.cons here built, entered⟩

/-- A document that is assembled has the operations of its entries, entered in order, and
all the schemas of the table, in which there is no conflict. -/
theorem paths_of_assembly
    (assembled : ((assembly info entries table options).run.run pre).1 = .ok page) :
    table.conflicts = [] /\ danglingReference? table = none /\ page.schemas = table.schemas /\ ∃ ops,
        Forall₂ (fun entry operation => Site.alone ⟨entry, table, options⟩ = .ok operation)
          entries ops /\ page.paths = enterAll ∅ (entries.zip ops) := by
  have yields : Yields (assembly info entries table options) pre page _ := Prod.ext assembled rfl
  unfold assembly at yields
  cases conflicts : table.conflicts with
  | cons name rest =>
    rw [conflicts] at yields
    exact absurd yields (by simp)
  | nil =>
    rw [conflicts] at yields
    cases dangling : danglingReference? table with
    | some found =>
      rw [dangling] at yields
      exact absurd yields (by simp)
    | none =>
      rw [dangling] at yields
      simp only [yields_bind, yields_pure, yields_get] at yields
      obtain ⟨paths, _, added, _, _, ⟨rfl, rfl⟩, rfl, rfl⟩ := yields
      exact ⟨rfl, rfl, rfl, enterAll_of_yields added⟩

theorem yields_addOperations (built : Forall₂ (fun entry operation =>
      Site.alone ⟨entry, table, options⟩ = .ok operation) entries ops) (paths : Paths)
    (pre : List String) : ∃ post, Yields (addOperations table options paths entries) pre
      (enterAll paths (entries.zip ops)) post := by
  induction built generalizing paths pre with
  | nil => exact ⟨pre, yields_pure.mpr ⟨rfl, rfl⟩⟩
  | @cons entry operation _ _ here _ ih =>
    obtain ⟨said, ran⟩ := (Site.run_operation ⟨entry, table, options⟩).2
    rw [here] at ran
    rcases ih (paths.enter (documentPath entry.path) entry.method operation)
      (pre ++ said) with ⟨post, rest⟩
    exact ⟨post, yields_bind.mpr ⟨operation, _, ran pre, rest⟩⟩

theorem yields_assembly (info : Info) (agreeing : table.conflicts = [])
    (complete : danglingReference? table = none) (built : Forall₂ (fun entry operation =>
      Site.alone ⟨entry, table, options⟩ = .ok operation) entries ops) :
    ∃ page post, Yields (assembly info entries table options) [] page post /\
      page.schemas = table.schemas /\ page.paths = enterAll ∅ (entries.zip ops) := by
  rcases yields_addOperations built ∅ [] with ⟨post, added⟩
  unfold assembly
  rw [agreeing, complete]
  simp only [yields_bind, yields_pure, yields_get]
  exact ⟨_, _, ⟨_, post, added, _, _, ⟨rfl, rfl⟩, rfl, rfl⟩, rfl, rfl⟩
end OpenApi
end RouteDocs
