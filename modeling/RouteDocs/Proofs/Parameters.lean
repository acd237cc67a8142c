import RouteDocs.Proofs.AssemblySteps
import RouteDocs.Proofs.PathTemplates

/-!
# The parameters of an operation

A parameter of the path is kept if the template has it, and one that the template has alone is
added, so that the parameters of the path are those in the braces of the key under which the
operation is published. Repetitions in one list are not looked for.
-/

namespace RouteDocs
open List
open Doc (Location)

namespace Route
def bracedName? : Chars -> Option String
  | '\x7b' :: rest => (beforeClosingBrace? rest).map String.ofList
  | _ => none

def bracedNames (path : String) : List String :=
  (Text.splitAt '/' path.toList).filterMap bracedName?

theorem bracedName?_chars (piece : Chars) :
    bracedName? (Segment.ofPiece piece).chars = (Segment.ofPiece piece).parameter? := by
  have braces : ∀ name : String, bracedName? (Segment.parameter name).chars = some name := by
    intro name
    rw [Segment.chars, bracedName?, beforeClosingBrace?_append, Option.map_some, String.ofList_toList]
  rcases ofPiece_cases piece with ⟨name, -, read⟩ | ⟨name, -, read⟩ | read
  · rw [read, braces, Segment.parameter?]
  · rw [read, braces, Segment.parameter?]
  · rw [read, Segment.chars, String.toList_ofList, Segment.parameter?]
    unfold bracedName?
    split
    · rename_i rest
      cases closed : beforeClosingBrace? rest with
      | none => rfl
      | some name =>
        rw [append_of_beforeClosingBrace? closed, ofPiece_braced] at read
        cases read
    · rfl

theorem bracedNames_documentPath (template : String) :
    bracedNames (documentPath template) = parameters template := by
  have nonempty : ∀ pieces : List Chars, pieces.filterMap bracedName? =
      (pieces.filter fun piece => !piece.isEmpty).filterMap bracedName? := by
    intro pieces
    rw [filterMap_filter]
    refine filterMap_congr fun piece _ => ?_
    cases piece <;> rfl
  rw [bracedNames, nonempty, splitAt_documentPath, filterMap_map, parameters]
  refine filterMap_congr fun segment mem => ?_
  obtain ⟨piece, -, -, rfl⟩ := exists_piece mem
  exact bracedName?_chars piece
end Route

namespace OpenApi
theorem Parameter.required_toJson (parameter : Parameter) :
    parameter.toJson.member? "required" = some (.bool (parameter.location = .path)) := by
  rw [toJson]
  cases parameter.description.isEmpty <;> rfl

def Parameter.key (parameter : Parameter) : String × Location :=
  (parameter.name, parameter.location)

namespace Site
variable {site : Site}

theorem isUndocumented_iff :
    site.isUndocumented name = true ↔ ∀ parameter ∈ site.entry.doc.parameters,
      parameter.location = .path -> parameter.name ≠ name := by
  rw [isUndocumented, all_eq_true]
  refine forall₂_congr fun parameter _ => ?_
  simp only [Bool.not_and, Bool.or_eq_true, Bool.not_eq_true', decide_eq_false_iff_not]
  tauto

theorem mem_parameterItems_path (name : String) :
    (∃ parameter ∈ site.parameterItems, parameter.location = .path /\ parameter.name = name) ↔
      name ∈ Route.parameters site.entry.path := by
  constructor
  · rintro ⟨parameter, listed, inPath, rfl⟩
    rcases mem_append.mp listed with documented | added
    · obtain ⟨source, kept, rfl⟩ := mem_map.mp documented
      have standing := (mem_filter.mp kept).2
      rw [isMissing, decide_eq_true inPath, Bool.true_and, Bool.not_not] at standing
      exact contains_iff_mem.mp standing
    · obtain ⟨source, kept, rfl⟩ := mem_map.mp added
      exact (mem_filter.mp kept).1
  · intro standing
    cases undocumented : site.isUndocumented name with
    | true =>
      exact ⟨⟨name, .path, ""⟩, mem_append_right _
        (mem_map_of_mem (mem_filter.mpr ⟨standing, undocumented⟩)), rfl, rfl⟩
    | false =>
      rw [<- Bool.not_eq_true, isUndocumented_iff] at undocumented
      push Not at undocumented
      obtain ⟨parameter, listed, inPath, rfl⟩ := undocumented
      refine ⟨_, mem_append_left _ (mem_map_of_mem (mem_filter.mpr ⟨listed, ?_⟩)), inPath, rfl⟩
      rw [isMissing, contains_iff_mem.mpr standing, Bool.not_true, Bool.and_false, Bool.not_false]

theorem filter_parameterItems : site.parameterItems.filter (·.location ≠ .path) =
      (site.entry.doc.parameters.filter (·.location ≠ .path)).map fun parameter =>
        ⟨parameter.name, parameter.location, parameter.description⟩ := by
  have none : (site.addedParameters (Route.parameters site.entry.path)).filter
      (·.location ≠ .path) = [] := by
    refine filter_eq_nil_iff.mpr fun parameter added => ?_
    obtain ⟨name, -, rfl⟩ := mem_map.mp added
    simp
  rw [parameterItems, filter_append, none, append_nil, keptParameters, filter_map, filter_filter]
  refine congrArg _ (filter_congr fun parameter _ => ?_)
  by_cases inPath : parameter.location = .path <;> simp [inPath, isMissing]

/-- The parameters of an operation, whatever its route. Those of the path are the names in braces
of the key under which it is published, and they are required; those elsewhere are the documented
ones, in order, and they are not. There is a remark for each parameter that is documented and
missing in the template, and for each one of the template that is not documented. -/
theorem path_parameters_match (site : Site) :
    Route.bracedNames (Route.documentPath site.entry.path) = Route.parameters site.entry.path /\
      (∃ rest, rest ⊆ [site.remark "no responses documented or inferred"] /\
        ∀ before, (site.operation.run.run before).2 = before ++ ((if site.entry.doc.summary.isEmpty
          then [site.remark "no summary documented"] else []) ++ site.parameterRemarks ++ rest)) /\
      ∀ operation, site.alone = .ok operation ->
        (∀ name, (∃ parameter ∈ operation.parameters, parameter.location = .path /\
          parameter.name = name) ↔ name ∈ Route.parameters site.entry.path) /\
        (∀ parameter ∈ operation.parameters, parameter.toJson.member? "required" =
          some (.bool (parameter.location = .path))) /\
        operation.parameters.filter (·.location ≠ .path) =
          (site.entry.doc.parameters.filter (·.location ≠ .path)).map fun parameter =>
            ⟨parameter.name, parameter.location, parameter.description⟩ := by
  obtain ⟨-, said, known, ran⟩ := site.said_operation
  refine ⟨Route.bracedNames_documentPath _, ⟨said, known, fun before => ?_⟩, ?_⟩
  · rw [ran]
    rfl
  · intro operation built
    rw [(describes_of_alone built).parameters]
    exact ⟨mem_parameterItems_path, fun parameter _ => parameter.required_toJson,
      filter_parameterItems⟩

def siteAt (path : String) : Site where
  entry := ⟨.get, path, { parameters := [⟨"id", .query, "The id"⟩, ⟨"link", .path, "The link"⟩] },
    none, none, none⟩
  table := {}
  options := {}

/-- A parameter that is documented elsewhere, one that is missing, and one that stands twice. -/
theorem path_parameters_match_links : ∃ operation,
    (siteAt "/nodes/:id/links/:id").alone = .ok operation /\
    (∃ parameter ∈ operation.parameters, parameter.location = .path /\ parameter.name = "id") /\
    (operation.parameters.filter (·.location ≠ .path)) = [⟨"id", .query, "The id"⟩] /\
    (siteAt "/nodes/:id/links/:id").parameterRemarks = [
      "GET /nodes/:id/links/:id: documented path parameter 'link' is not in the path",
      "GET /nodes/:id/links/:id: path parameter 'id' is not documented",
      "GET /nodes/:id/links/:id: path parameter 'id' is not documented"] := by
  obtain ⟨operation, built⟩ : ∃ operation, (siteAt "/nodes/:id/links/:id").alone = .ok operation :=
    exists_ok (by decide +kernel)
  obtain ⟨inPath, -, elsewhere⟩ := (path_parameters_match _).2.2 operation built
  exact ⟨operation, built, (inPath "id").mpr (by decide +kernel), elsewhere.trans (by decide +kernel),
    by decide +kernel⟩

/-- The parameters of an operation are different exactly if neither list repeats one: the
documented ones that are kept and the ones of the template that are not documented. -/
theorem parameters_distinct_iff {site : Site} {operation : Operation}
    (built : site.alone = .ok operation) : (operation.parameters.map Parameter.key).Nodup ↔
      ((site.entry.doc.parameters.filter fun parameter => !site.isMissing parameter).map
        fun parameter => (parameter.name, parameter.location)).Nodup /\
      ((Route.parameters site.entry.path).filter site.isUndocumented).Nodup := by
  have apart : ((site.keptParameters site.entry.doc.parameters).map Parameter.key).Disjoint
      ((site.addedParameters (Route.parameters site.entry.path)).map Parameter.key) := by
    intro key kept added
    obtain ⟨_, listed, rfl⟩ := mem_map.mp kept
    obtain ⟨parameter, documented, rfl⟩ := mem_map.mp listed
    obtain ⟨_, listed, same⟩ := mem_map.mp added
    obtain ⟨name, undocumented, rfl⟩ := mem_map.mp listed
    obtain ⟨sameName, inPath⟩ := Prod.mk.inj same
    exact isUndocumented_iff.mp (mem_filter.mp undocumented).2 parameter
      (mem_filter.mp documented).1 inPath.symm sameName.symm
  have injective : Function.Injective fun name : String => (name, Location.path) :=
    fun _ _ same => (Prod.mk.inj same).1
  rw [(describes_of_alone built).parameters, parameterItems, map_append, nodup_append',
    and_iff_left apart, keptParameters, addedParameters, map_map, map_map]
  exact and_congr_right fun _ => nodup_map_iff injective

theorem parameters_distinct_iff_query : ∃ operation, (siteAt "/nodes/:id").alone = .ok operation /\
    (operation.parameters.map Parameter.key).Nodup := by
  obtain ⟨operation, built⟩ : ∃ operation, (siteAt "/nodes/:id").alone = .ok operation :=
    exists_ok (by decide +kernel)
  exact ⟨operation, built, (parameters_distinct_iff built).mpr (by decide +kernel)⟩

theorem template_parameter_repeated : ∃ operation,
    (siteAt "/nodes/:id/links/:id").alone = .ok operation /\
    ¬ (operation.parameters.map Parameter.key).Nodup := by
  obtain ⟨operation, built⟩ : ∃ operation, (siteAt "/nodes/:id/links/:id").alone = .ok operation :=
    exists_ok (by decide +kernel)
  refine ⟨operation, built, ?_⟩
  rw [(describes_of_alone built).parameters]
  decide +kernel
end Site
end OpenApi
end RouteDocs
