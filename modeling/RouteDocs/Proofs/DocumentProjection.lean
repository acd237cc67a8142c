import RouteDocs.Proofs.ReferenceClosure
import RouteDocs.Proofs.RouteSelection

namespace RouteDocs
open List OpenApi Option Declaration Compilation
open Route (documentPath)
open Schema

/-!
# The document of a selection of routes

Whatever routes are selected, the table holds the same schemas up to the marks of unions, and the
same status maps. Neither renderings nor operations show the marks, so the document of a selection
is a projection of the whole document.
-/

namespace Declarations
variable {decls : Declarations}

theorem untagged_of_statuses {type : Descriptor} (mem : defn ∈ type.ownDefinitions)
    (stated : defn.statuses? = some codes) : tag? defn.node = none := by
  cases type with
  | struct name fields about =>
    rw [mem_singleton.mp mem] at stated
    cases stated
  | union name variants =>
    rcases ownDefinitions_union_cases mem with ⟨variant, -, rfl⟩ | rfl
    · cases stated
    · rfl
  | _ => cases mem

/-- The table of a compilation without conflicts, by the definitions of the declared
types. -/
structure Tabulated (decls : Declarations) (progress : Progress) : Prop where
  named : ∀ name node, progress.registry.table.get? name = some node ->
    ∃ owner ∈ decls.types.keys, ∃ defn ∈ remembered progress.registry owner,
      defn.name = name /\ defn.node = node
  defines : ∀ owner ∈ decls.types.keys, ∀ defn ∈ remembered progress.registry owner,
      progress.registry.table.get? defn.name = some defn.node
  stated : ∀ name codes, progress.registry.table.statusMap? name = some codes ->
    ∃ owner ∈ decls.types.keys, ∃ defn ∈ remembered progress.registry owner,
      defn.name = name /\ defn.statuses? = some codes
  states : ∀ owner ∈ decls.types.keys, ∀ defn ∈ remembered progress.registry owner, ∀ codes,
      defn.statuses? = some codes -> progress.registry.table.statusMap? defn.name = some codes

section
variable {patterns others : List String} {progress first second : Progress} {name : String}

/-- The table of a compilation has a conflict exactly if names of schemas coincide. -/
theorem agreeing_iff (yields : Yields (register decls patterns) {} () progress) :
    progress.registry.table.conflicts = [] ↔ ¬ decls.NamesCoincide := by
  obtain ⟨compiled, complete⟩ := compiled_of_register yields
  obtain ⟨defns, holds, defined⟩ := exists_defined compiled complete
  rw [<- defined.conflicting_iff, <- exists_congr holds.conflicts, eq_nil_iff_forall_not_mem,
    not_exists]

theorem tabulated (yields : Yields (register decls patterns) {} () progress)
    (agreeing : progress.registry.table.conflicts = []) : decls.Tabulated progress := by
  obtain ⟨compiled, complete⟩ := compiled_of_register yields
  obtain ⟨defns, holds, defined⟩ := exists_defined compiled complete
  have apart : ∀ name, ¬ Conflicting defns name := by
    intro name conflicting
    have recorded := (holds.conflicts name).mpr conflicting
    rw [agreeing] at recorded
    exact not_mem_nil recorded
  -- What states statuses is the definition of the owner itself, and there is only one.
  have owner_of_stated : ∀ owner ∈ decls.types.keys,
      ∀ defn ∈ remembered progress.registry owner, ∀ codes, defn.statuses? = some codes ->
          tag? defn.node = none /\ defn.name = owner := by
    intro owner decl defn mem codes stated
    obtain ⟨written, -, reads⟩ := defined.reads owner decl
    obtain ⟨type, memo⟩ := complete owner decl
    have untagged : tag? defn.node = none := by
      rw [remembered_eq memo] at mem
      exact untagged_of_statuses mem stated
    refine ⟨untagged, ?_⟩
    have named := reads.named defn mem
    rw [untagged] at named
    exact named
  constructor
  · intro name node found
    rw [holds.schemas] at found
    obtain ⟨defn, listed, named, same⟩ := exists_of_firstNode? found
    obtain ⟨owner, decl, mem⟩ := (defined.members defn).mp listed
    exact ⟨owner, decl, defn, mem, named, same⟩
  · intro owner decl defn mem
    rw [holds.schemas]
    exact firstNode?_of_mem ((defined.members defn).mpr ⟨owner, decl, mem⟩) (apart _)
  · intro name codes found
    rw [holds.statuses] at found
    obtain ⟨defn, listed, named, same⟩ := exists_of_firstPart? found
    obtain ⟨owner, decl, mem⟩ := (defined.members defn).mp listed
    exact ⟨owner, decl, defn, mem, named, same⟩
  · intro owner decl defn mem codes stated
    have listed := (defined.members defn).mpr ⟨owner, decl, mem⟩
    obtain ⟨known, found⟩ := firstStatuses?_isSome_of_mem listed stated
    obtain ⟨other, otherListed, sameName, otherStated⟩ := exists_of_firstPart? found
    obtain ⟨holder, holderDeclared, otherMember⟩ := (defined.members other).mp otherListed
    obtain ⟨untagged, named⟩ := owner_of_stated owner decl defn mem codes stated
    obtain ⟨otherUntagged, otherNamed⟩ :=
      owner_of_stated holder holderDeclared other otherMember known otherStated
    obtain rfl : holder = owner := by rw [<- otherNamed, sameName, named]
    obtain rfl := defined.unique decl otherMember mem (otherUntagged.trans untagged.symm)
    rw [holds.statuses, found, <- otherStated, stated]

section
variable (one : Yields (register decls patterns) {} () first)
  (other : Yields (register decls others) {} () second)

include one other

theorem counterpart
    (decl : owner ∈ decls.types.keys) (mem : defn ∈ remembered first.registry owner) :
    ∃ same ∈ remembered second.registry owner, same.name = defn.name /\
      same.node.plain = defn.node.plain /\ same.statuses? = defn.statuses? := by
  obtain ⟨compiled, complete⟩ := compiled_of_register one
  obtain ⟨otherCompiled, otherComplete⟩ := compiled_of_register other
  obtain ⟨built, accounted⟩ := compiled.accounted
  obtain ⟨otherBuilt, otherAccounted⟩ := otherCompiled.accounted
  obtain ⟨type, memo⟩ := complete owner decl
  obtain ⟨otherType, otherMemo⟩ := otherComplete owner decl
  obtain ⟨written, found, described⟩ :=
    describes_of_completed compiled.coherent (accounted.memo owner type memo)
  obtain ⟨otherWritten, otherFound, otherDescribed⟩ :=
    describes_of_completed otherCompiled.coherent (otherAccounted.memo owner otherType otherMemo)
  obtain rfl : written = otherWritten := some.inj (found.symm.trans otherFound)
  rw [remembered_eq memo] at mem
  rw [remembered_eq otherMemo]
  have listed := mem_map_of_mem (f := Definition.plain) mem
  rw [described.plain_ownDefinitions_eq otherDescribed] at listed
  obtain ⟨same, sameListed, plain⟩ := mem_map.mp listed
  exact ⟨same, sameListed, Definition.mk.inj plain⟩

theorem get?_counterpart
    (agreeing : ¬ decls.NamesCoincide) (found : first.registry.table.get? name = some node) :
    ∃ same, second.registry.table.get? name = some same /\ same.plain = node.plain := by
  obtain ⟨owner, decl, defn, mem, rfl, rfl⟩ :=
    (tabulated one ((agreeing_iff one).mpr agreeing)).named name node found
  obtain ⟨same, sameMember, sameName, plain, -⟩ := counterpart one other decl mem
  have defined := (tabulated other ((agreeing_iff other).mpr agreeing)).defines owner decl same
    sameMember
  refine ⟨same.node, ?_, plain⟩
  rw [<- sameName]
  exact defined

theorem statusMap?_counterpart
    (agreeing : ¬ decls.NamesCoincide) (found : first.registry.table.statusMap? name = some codes) :
    second.registry.table.statusMap? name = some codes := by
  obtain ⟨owner, decl, defn, mem, rfl, stated⟩ :=
    (tabulated one ((agreeing_iff one).mpr agreeing)).stated name codes found
  obtain ⟨same, sameMember, sameName, -, sameStatuses⟩ := counterpart one other decl mem
  rw [<- sameName]
  exact (tabulated other ((agreeing_iff other).mpr agreeing)).states owner decl same sameMember
    codes (sameStatuses.trans stated)

/-- The tables of two compilations hold the same schemas, but for the marks of unions, and
the same status maps. -/
theorem tables_alike (agreeing : ¬ decls.NamesCoincide) :
    (∀ name, (first.registry.table.get? name).map Node.plain =
      (second.registry.table.get? name).map Node.plain) /\
      TablesAlike first.registry.table second.registry.table := by
  have plain : ∀ name, (first.registry.table.get? name).map Node.plain =
      (second.registry.table.get? name).map Node.plain := by
    intro name
    cases found : first.registry.table.get? name with
    | some node =>
      obtain ⟨same, known, alike⟩ := get?_counterpart one other agreeing found
      rw [known, map_some, map_some, alike]
    | none =>
      cases known : second.registry.table.get? name with
      | none => rfl
      | some node =>
        obtain ⟨same, impossible, -⟩ := get?_counterpart other one agreeing known
        rw [found] at impossible
        cases impossible
  refine ⟨plain, fun name => ?_, fun name => ?_⟩
  · have isSome := congrArg isSome (plain name)
    rw [isSome_map, isSome_map] at isSome
    exact isSome
  · apply ext
    intro codes
    exact ⟨statusMap?_counterpart one other agreeing, statusMap?_counterpart other one agreeing⟩
end
end
end Declarations

namespace OpenApi
theorem danglingReference?_of_alike
    (plain : ∀ name, (first.get? name).map Node.plain = (second.get? name).map Node.plain)
    (alike : TablesAlike first second) (complete : danglingReference? first = none) :
    danglingReference? second = none := by
  refine findSome?_eq_none_iff.mpr ?_
  rintro ⟨name, node⟩ mem
  rw [map_eq_none_iff, find?_eq_none]
  intro target referred
  have present : second.get? name = some node := (OrderedMap.mem_entries_iff _ _ _).mp mem
  have known := plain name
  rw [present, map_some] at known
  obtain ⟨same, found, sameNode⟩ := map_eq_some_iff.mp known
  rw [<- Node.references_plain, <- sameNode, Node.references_plain] at referred
  have listed := (OrderedMap.mem_entries_iff first.schemas name same).mpr found
  have covered := covers_references complete listed target referred
  rw [<- alike.contains, covered]
  decide
end OpenApi

namespace Declarations
variable {decls : Declarations}

def fittingEntries (decls : Declarations) (patterns : List String)
    (entries : List Route.Entry) : List Route.Entry :=
  ((decls.routes.zip entries).filter fun pair =>
    matchesSome pair.1.method pair.1.path patterns).map Prod.snd

theorem fittingEntries_sublist (sameLength : decls.routes.length = entries.length) :
    (decls.fittingEntries patterns entries).Sublist entries := by
  have kept := (filter_sublist (p := fun pair : RouteDeclaration × Route.Entry =>
    matchesSome pair.1.method pair.1.path patterns)
    (l := decls.routes.zip entries)).map Prod.snd
  rw [map_snd_zip (Nat.le_of_eq sameLength.symm)] at kept
  exact kept

section
variable {patterns : List String} {full : Progress}

theorem enters_of_register (compiled : Yields (register decls []) {} () full) :
    Forall₂ (RouteDeclaration.Enters decls.specs) decls.routes full.registry.entries := by
  have enters := entries_of_register compiled
  have all : decls.routes.filter (isSelected []) = decls.routes := filter_eq_self.mpr fun _ _ => rfl
  rw [all] at enters
  exact enters

theorem exists_selection (given : patterns ≠ [])
    (compiled : Yields (register decls []) {} () full) :
    ∃ selected, Yields (register decls patterns) {} () selected /\
      selected.registry.entries = decls.fittingEntries patterns full.registry.entries := by
  have enters := enters_of_register compiled
  have fits : isSelected patterns = fun route => matchesSome route.method route.path patterns := by
    funext route
    rw [isSelected, isEmpty_eq_false_iff.mpr given, Bool.false_or]
  have kept := forall₂_filter enters (isSelected patterns)
  rw [fits] at kept
  apply (faultless_of_register compiled).register
  · rw [fits]
    exact kept
  · exact (routesDistinct_of_register compiled).sublist
      ((fittingEntries_sublist enters.length_eq).map Route.Entry.key)

/-- Patterns project the document of all routes. If it exists, then so does the document
of the routes that fit some pattern; it has their entries, in order, with the same
operations and no others, and its schemas are rendered the same. -/
theorem selection_projects_document (declarations : Declarations) (patterns : List String)
    (given : patterns ≠ []) (full : Progress) (title version : String) (options : Options)
    (document : Document) (compiled : Yields (register declarations []) {} () full)
    (assembled : (full.registry.assemble title version options).1 = .ok document) :
    ∃ selected projection, Yields (register declarations patterns) {} () selected /\
      (selected.registry.assemble title version options).1 = .ok projection /\
      Forall₂ (RouteDeclaration.Enters declarations.specs) declarations.routes
        full.registry.entries /\
      selected.registry.entries = declarations.fittingEntries patterns full.registry.entries /\
      (∀ entry ∈ selected.registry.entries, ∃ operation,
        projection.operation? (documentPath entry.path) entry.method = some operation /\
        document.operation? (documentPath entry.path) entry.method = some operation) /\
      (∀ path method operation, projection.operation? path method = some operation ->
        ∃ entry ∈ selected.registry.entries,
          documentPath entry.path = path /\ entry.method = method) /\
      ∀ name, (projection.schemas.get? name).map Node.toJson =
        (document.schemas.get? name).map Node.toJson := by
  have enters := enters_of_register compiled
  have distinct := routesDistinct_of_register compiled
  obtain ⟨selected, selects, entries⟩ := exists_selection given compiled
  obtain ⟨agreeing, complete, schemas, operations, built, filed⟩ := paths_of_assembly assembled
  have apart := (agreeing_iff compiled).mp agreeing
  obtain ⟨plain, alike⟩ := tables_alike compiled selects apart
  have listed : ∀ entry ∈ selected.registry.entries, entry ∈ full.registry.entries := by
    rw [entries]
    exact (fittingEntries_sublist enters.length_eq).subset
  have same : ∀ entry, Site.alone ⟨entry, selected.registry.table, options⟩ =
      Site.alone ⟨entry, full.registry.table, options⟩ := fun entry =>
    (Site.alone_congr alike entry options).symm
  -- Each entry has the operation that it has among all entries.
  have each : ∀ entry ∈ selected.registry.entries, ∃ operation,
      Site.alone ⟨entry, selected.registry.table, options⟩ = .ok operation := by
    intro entry mem
    obtain ⟨operation, partners⟩ := exists_mem_zip_of_mem_left built.length_eq (listed entry mem)
    exact ⟨operation, (same entry).trans ((forall₂_iff_zip.mp built).2 partners)⟩
  obtain ⟨selectedOperations, selectedBuilt⟩ := exists_forall₂ each
  obtain ⟨projection, _, assembles, selectedSchemas, selectedFiled⟩ :=
    yields_assembly ⟨title, version, options.description?⟩
      ((agreeing_iff selects).mpr apart) (danglingReference?_of_alike plain alike complete)
      selectedBuilt
  have projected := Document.operation?_iff (routesDistinct_of_register selects) selectedBuilt
    selectedFiled
  have documented := Document.operation?_iff distinct built filed
  refine ⟨selected, projection, selects, congrArg Prod.fst assembles, enters, entries, ?_, ?_, ?_⟩
  · intro entry mem
    obtain ⟨operation, alone⟩ := each entry mem
    refine ⟨operation, (projected _ _ _).mpr ⟨entry, mem, rfl, rfl, alone⟩, ?_⟩
    exact (documented _ _ _).mpr ⟨entry, listed entry mem, rfl, rfl, (same entry) ▸ alone⟩
  · intro path method operation found
    obtain ⟨entry, mem, samePath, sameMethod, -⟩ := (projected path method operation).mp found
    exact ⟨entry, mem, samePath, sameMethod⟩
  · intro name
    rw [selectedSchemas, schemas]
    have rendered := congrArg (Option.map Node.toJson) (plain name)
    simp only [Option.map_map, Function.comp_def, Node.toJson_plain] at rendered
    exact rendered.symm

/-- Folders and their entries refer to each other. One route starts at the entries and
the other at the folders, so that the cycle is cut in two ways. -/
def crossingFolders : Declarations where
  types := .ofList [ ("Folder", [(.text "fields", .map [(.text "entries", .text "list[Entry]")])]),
    ("Entry", [(.text "variants", .map [ (.text "Nested", .map [(.text "status", .int 409),
        (.text "fields", .map [(.text "inner", .text "Folder")])]),
      (.text "Gone", .text "410")])])]
  routes := [
    { method := "get", path := "/folders/:id", error? := some "Entry" },
    { method := "POST", path := "folders", body? := some "Folder", error? := some "Entry" }]

/-- Only the second route is selected, so that folders are met first. -/
theorem selection_projects_document_crossingFolders : ∃ full selected document projection,
      Yields (register crossingFolders []) {} () full /\
      Yields (register crossingFolders ["POST *"]) {} () selected /\
      (full.registry.assemble "Folders" "1").1 = .ok document /\
      (selected.registry.assemble "Folders" "1").1 = .ok projection /\
      full.registry.entries.length = 2 /\ selected.registry.entries.map (·.path) = ["folders"] /\
      (∀ entry ∈ selected.registry.entries, ∃ operation,
        projection.operation? (documentPath entry.path) entry.method = some operation /\
        document.operation? (documentPath entry.path) entry.method = some operation) /\
      ∀ name, (projection.schemas.get? name).map Node.toJson =
        (document.schemas.get? name).map Node.toJson := by
  let full := ((register crossingFolders []).run.run {}).2
  have compiled : Yields (register crossingFolders []) {} () full :=
    Prod.ext (by decide +kernel) rfl
  have succeeds : (full.registry.assemble "Folders" "1").1.toOption.isSome = true := by
    decide +kernel
  have two : full.registry.entries.length = 2 := by decide +kernel
  have one : (crossingFolders.fittingEntries ["POST *"] full.registry.entries).map (·.path) =
      ["folders"] := by
    decide +kernel
  cases assembled : (full.registry.assemble "Folders" "1").1 with
  | error failure =>
    rw [assembled] at succeeds
    cases succeeds
  | ok document =>
    obtain ⟨selected, projection, selects, projects, -, entries, operations, -, schemas⟩ :=
      selection_projects_document crossingFolders ["POST *"] (cons_ne_nil _ _) full
        "Folders" "1" {} document compiled assembled
    exact ⟨full, selected, document, projection, compiled, selects, assembled, projects, two,
      (congrArg _ entries).trans one, operations, schemas⟩
end
end Declarations
end RouteDocs
