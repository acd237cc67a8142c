import RouteDocs.Proofs.AssemblySteps
import RouteDocs.Proofs.FailedCalls
import RouteDocs.Proofs.PathTemplates

namespace RouteDocs
open List OrderedMap OpenApi Http
open Route (Entry documentPath segments)

/-!
# Every route has its operation

A registry refuses a route whose method and segments it has already, and a document files operations
by the text of the path and by the method. Since the text of a path tells its segments, no route is
lost or overwritten, and paths and methods stand in the order of registration.
-/

namespace Http.Method
theorem name_injective : Function.Injective name := by
  intro first second same
  cases first <;> cases second <;> simp_all [name]

theorem key_injective : Function.Injective key := by
  intro first second same
  cases first <;> cases second <;> simp_all [key]

theorem key_eq_lower (method : Method) :
    method.key = String.ofList (Text.lower method.name.toList) := by
  cases method <;> decide +kernel

theorem name_of_ofName? {name : String} (known : ofName? name = some method) :
    method.name = name := by
  have found := find?_some known
  exact beq_iff_eq.mp found
end Http.Method

namespace Registry
open Route

variable {reg : Registry} {req : Request} {method : Method} {doc : EndpointDoc}

theorem duplicate_iff_isTaken (unfrozen : reg.frozen = false)
    (supported : Method.ofName? (capitalized req.method) = some method)
    (read : req.doc.read = .ok doc) :
    (∃ name path, (reg.register req).answer = .error (.duplicate name path)) ↔
      reg.isTaken method req.path = true := by
  have refused (failure : RegistrationError) : (reg.register req).answer = .error failure ↔
      (reg.perform (.register req)).1 = .error failure := by
    rw [perform]
    cases (reg.register req).answer <;> simp [Except.map]
  simp only [refused, perform_register supported read, unfrozen, Bool.false_eq_true, if_false]
  by_cases taken : reg.isTaken method req.path = true
  · simp [taken]
  · simp only [if_neg taken]
    refine iff_of_false ?_ taken
    rintro ⟨name, path, refused⟩
    split at refused <;> cases refused

def RoutesDistinct (reg : Registry) : Prop := (reg.entries.map Entry.key).Nodup

theorem RoutesDistinct.perform (distinct : reg.RoutesDistinct) (call : Call) :
    (reg.perform call).2.RoutesDistinct := by
  by_cases registers : call = .freeze
  · subst registers
    exact distinct
  · rcases reg.accepts_or_fails registers with ⟨sess, accepts⟩ | ⟨failure, failed⟩
    · rw [accepts.perform, RoutesDistinct, map_append]
      refine nodup_append.mpr ⟨distinct, ?_, fun key mem other single same => ?_⟩
      · cases call.reply? <;> simp
      · obtain ⟨entry, replied, rfl⟩ := mem_map.mp single
        exact accepts.fresh entry (Option.mem_toList.mp replied) (same ▸ mem)
    · rw [failed]
      exact distinct

theorem RoutesDistinct.performAll (distinct : reg.RoutesDistinct) (calls : List Call) :
    (reg.performAll calls).2.RoutesDistinct := by
  induction calls generalizing reg with
  | nil => exact distinct
  | cons call rest ih => exact ih (distinct.perform call)
end Registry

namespace OrderedMap
variable {κ κ' υ υ' : Type} [DecidableEq κ] [DecidableEq κ']

theorem find?_map_entries {rename : κ -> κ'} (apart : Function.Injective rename) (change : υ -> υ')
    (key : κ) (entries : List (κ × υ)) :
    find? (rename key) (entries.map fun entry => (rename entry.1, change entry.2)) =
      (find? key entries).map change := by
  induction entries with
  | nil => rfl
  | cons entry rest ih =>
    simp only [map_cons, find?, ih, apart.eq_iff]
    split
    · rfl
    · rfl
end OrderedMap

namespace OpenApi
def place (route : Entry × Operation) : String × Method :=
  (documentPath route.1.path, route.1.method)

def underPath (path : String) (routes : List (Entry × Operation)) : List (Method × Operation) :=
  (routes.filter fun route => documentPath route.1.path = path).map fun route =>
    (route.1.method, route.2)

theorem enterAll_append_singleton (paths : Paths) (routes : List (Entry × Operation))
    (route : Entry × Operation) : enterAll paths (routes ++ [route]) =
      (enterAll paths routes).enter (documentPath route.1.path) route.1.method route.2 :=
  foldl_append

theorem keys_enterAll (routes : List (Entry × Operation)) :
    (enterAll ∅ routes).keys = (routes.map fun route => documentPath route.1.path).eraseDups := by
  induction routes using reverseRecOn with
  | nil => rfl
  | append_singleton routes route ih =>
    rw [enterAll_append_singleton, Paths.enter, keys_insert, ih, map_append, eraseDups_append]
    simp only [mem_eraseDups, map_cons, map_nil, removeAll]
    by_cases known : documentPath route.1.path ∈ routes.map fun route => documentPath route.1.path
    · simp [known]
    · simp [known, eraseDups_cons]

theorem entries_enterAll (apart : (routes.map place).Nodup) (path : String) :
    (((enterAll ∅ routes).get? path).getD ∅).entries = underPath path routes := by
  induction routes using reverseRecOn with
  | nil => rfl
  | append_singleton routes route ih =>
    rw [map_append, map_singleton] at apart
    have pre := ih (nodup_append.mp apart).1
    rw [enterAll_append_singleton, Paths.enter, get?_insert, underPath, filter_append, map_append]
    by_cases here : documentPath route.1.path = path
    · subst here
      have absent : (((enterAll ∅ routes).get? (documentPath route.1.path)).getD ∅).get?
          route.1.method = none := by
        rw [get?_eq_none_iff, OrderedMap.keys, pre, underPath, map_map]
        intro mem
        rcases mem_map.mp mem with ⟨other, listed, sameMethod⟩
        rcases mem_filter.mp listed with ⟨present, samePath⟩
        have samePlace : place other = place route :=
          Prod.ext (of_decide_eq_true samePath) sameMethod
        exact (nodup_append.mp apart).2.2 _ (mem_map_of_mem present) _ (.head _) samePlace
      rw [if_pos rfl, Option.getD_some, entries_insert_of_absent _ _ absent, pre, underPath]
      simp
    · rw [if_neg here, pre, underPath]
      simp [here]

theorem entries_paths_enterAll (apart : (routes.map place).Nodup) :
    (enterAll ∅ routes).entries.map (fun filed => (filed.1, filed.2.entries)) =
      (routes.map fun route => documentPath route.1.path).eraseDups.map fun path =>
        (path, underPath path routes) := by
  rw [<- keys_enterAll, OrderedMap.keys, map_map]
  refine map_congr_left fun filed mem => ?_
  have found := ((enterAll ∅ routes).mem_entries_iff filed.1 filed.2).mp mem
  have listed := entries_enterAll apart filed.1
  rw [found, Option.getD_some] at listed
  rw [Function.comp_apply, listed]

theorem get?_enterAll_iff (apart : (routes.map place).Nodup) (path : String) (method : Method)
    (op : Operation) : ((enterAll ∅ routes).get? path).bind (·.get? method) = some op ↔
      ∃ entry, (entry, op) ∈ routes /\ documentPath entry.path = path /\ entry.method = method := by
  have opened : ((enterAll ∅ routes).get? path).bind (·.get? method) =
      (((enterAll ∅ routes).get? path).getD ∅).get? method := by
    cases (enterAll ∅ routes).get? path <;> rfl
  rw [opened, <- mem_entries_iff, entries_enterAll apart, underPath, mem_map]
  constructor
  · rintro ⟨⟨entry, filed⟩, listed, same⟩
    rcases mem_filter.mp listed with ⟨mem, samePath⟩
    rcases Prod.mk.inj same with ⟨sameMethod, rfl⟩
    exact ⟨entry, mem, of_decide_eq_true samePath, sameMethod⟩
  · rintro ⟨entry, mem, samePath, sameMethod⟩
    exact ⟨(entry, op), mem_filter.mpr ⟨mem, decide_eq_true samePath⟩, Prod.ext sameMethod rfl⟩

/-- Routes with keys of their own are filed apart: the text of a path tells its segments. -/
theorem nodup_place {entries : List Entry} (sameLength : entries.length = operations.length)
    (distinct : (entries.map Entry.key).Nodup) : ((entries.zip operations).map place).Nodup := by
  have firsts : (entries.zip operations).map Prod.fst = entries :=
    map_fst_zip (Nat.le_of_eq sameLength)
  have keys : (entries.zip operations).map (Entry.key ∘ Prod.fst) = entries.map Entry.key := by
    rw [<- map_map, firsts]
  refine Nodup.of_map (fun filed => (filed.2, segments filed.1)) ?_
  rw [<- keys] at distinct
  rw [map_map]
  refine (map_congr_left ?_) ▸ distinct
  intro route _
  simp only [Function.comp_apply, place, Route.segments_documentPath]
  rfl
end OpenApi

def Json.operation? (document : Json) (path method : String) : Option Json :=
  ((document.member? "paths").bind (Json.member? path)).bind (Json.member? method)

namespace Document
def operation? (document : Document) (path : String) (method : Method) : Option Operation :=
  (document.paths.get? path).bind (·.get? method)

def operationsJson (operations : List (Method × Operation)) : Json :=
  .object (operations.map fun filed => (filed.1.key, filed.2.toJson))

theorem paths_toJson (document : Document) :
    document.toJson.member? "paths" = some (.object (document.paths.entries.map fun filed =>
      (filed.1, operationsJson filed.2.entries))) :=
  rfl

variable {document : Document}

theorem paths_toJson_of_filed (apart : (routes.map place).Nodup)
    (filed : document.paths = enterAll ∅ routes) : document.toJson.member? "paths" = some (.object
      ((routes.map fun route => documentPath route.1.path).eraseDups.map fun path =>
        (path, operationsJson (underPath path routes)))) := by
  have listed := congrArg (map fun filed : String × List (Method × Operation) =>
    (filed.1, operationsJson filed.2)) (entries_paths_enterAll apart)
  rw [map_map, map_map] at listed
  rw [paths_toJson, filed]
  exact congrArg (fun members => some (Json.object members)) listed

theorem operation?_toJson (document : Document) {path : String}
    (filed : document.operation? path method = some op) :
    document.toJson.operation? path method.key = some op.toJson := by
  rcases Option.bind_eq_some_iff.mp filed with ⟨operations, known, found⟩
  have atPath := find?_map_entries Function.injective_id
    (fun operations : OrderedMap Method Operation => operationsJson operations.entries)
    path document.paths.entries
  have atMethod := find?_map_entries Method.key_injective Operation.toJson method operations.entries
  rw [show find? path document.paths.entries = some operations from known] at atPath
  rw [show find? method operations.entries = some op from found] at atMethod
  rw [Json.operation?, paths_toJson, Option.bind_some]
  change (find? (id path) _).bind _ = _
  simp only [id] at atPath ⊢
  rw [atPath]
  exact atMethod

theorem operation?_iff {entries : List Entry} (distinct : (entries.map Entry.key).Nodup)
    (built : Forall₂ (fun entry op =>
      Site.alone ⟨entry, table, options⟩ = .ok op) entries operations)
    (filed : document.paths = enterAll ∅ (entries.zip operations)) (path : String)
    (method : Method) (op : Operation) : document.operation? path method = some op ↔
      ∃ entry ∈ entries, documentPath entry.path = path /\ entry.method = method /\
        Site.alone ⟨entry, table, options⟩ = .ok op := by
  have apart := nodup_place built.length_eq distinct
  rw [operation?, filed, get?_enterAll_iff apart]
  constructor
  · rintro ⟨entry, mem, samePath, sameMethod⟩
    exact ⟨entry, (of_mem_zip mem).1, samePath, sameMethod, (forall₂_iff_zip.mp built).2 mem⟩
  · rintro ⟨entry, listed, samePath, sameMethod, alone⟩
    rcases exists_mem_zip_of_mem_left built.length_eq listed with ⟨other, mem⟩
    have same := (forall₂_iff_zip.mp built).2 mem
    obtain rfl : other = op := Except.ok.inj (same.symm.trans alone)
    exact ⟨entry, mem, samePath, sameMethod⟩
end Document

namespace Registry
open Route

/-- Two templates are written as one path exactly if they have the same segments, and the
text of a path has the segments of its template. After any calls, a registry that
takes routes refuses a route as a duplicate exactly if it has an entry of the same
method whose path a document would write alike. If a document is assembled, it has
one operation for every entry, built from that entry alone, and it has it under the
entry's path and method; paths stand in the order of first registration, and methods
within a path in the order of registration. -/
theorem routes_kept_apart (table : Schema.Table) (calls : List Call) :
    (∀ first second, documentPath first = documentPath second ↔ segments first = segments second) /\
      (∀ template, segments (documentPath template) = segments template) /\
      (∀ (request : Request) (method : Method) (doc : EndpointDoc),
        (performAll { table } calls).2.frozen = false ->
        Method.ofName? (capitalized request.method) = some method -> request.doc.read = .ok doc ->
        ((∃ name path, ((performAll { table } calls).2.register request).answer =
            .error (.duplicate name path)) ↔ ∃ entry ∈ (performAll { table } calls).2.entries,
            entry.method.name = capitalized request.method /\
              documentPath entry.path = documentPath request.path)) /\
      ∀ (title version : String) (options : Options) (document : Document),
        ((performAll { table } calls).2.assemble title version options).1 = .ok document ->
        let entries := (performAll { table } calls).2.entries
        ∃ operations : List Operation, Forall₂ (fun entry operation =>
            Site.alone ⟨entry, (performAll { table } calls).2.table, options⟩ = .ok operation)
            entries operations /\
          document.toJson.member? "paths" = some (.object
            ((entries.map fun entry => documentPath entry.path).eraseDups.map fun path =>
              (path, .object (((entries.zip operations).filter fun route =>
                  documentPath route.1.path = path).map fun route =>
                (String.ofList (Text.lower route.1.method.name.toList), route.2.toJson))))) /\
          ∀ route ∈ entries.zip operations, document.toJson.operation? (documentPath route.1.path)
              (String.ofList (Text.lower route.1.method.name.toList)) = some route.2.toJson := by
  refine ⟨documentPath_eq_iff, segments_documentPath, ?_, ?_⟩
  · intro request method doc unfrozen supported read
    rw [duplicate_iff_isTaken unfrozen supported read, <- Method.name_of_ofName? supported]
    simp only [isTaken, any_eq_true, decide_eq_true_eq, Entry.key, Prod.mk.injEq,
      Method.name_injective.eq_iff, documentPath_eq_iff]
  · intro title version options document assembled entries
    have start : ({ table } : Registry).RoutesDistinct := nodup_nil
    have distinct := start.performAll calls
    rcases paths_of_assembly assembled with ⟨-, -, -, operations, built, filed⟩
    have apart := nodup_place built.length_eq distinct
    refine ⟨operations, built, ?_, ?_⟩
    · have firsts : (entries.zip operations).map (fun route => documentPath route.1.path) =
          entries.map fun entry => documentPath entry.path := by
        have zipped := congrArg (map fun entry => documentPath entry.path)
          (map_fst_zip (Nat.le_of_eq built.length_eq))
        rw [map_map] at zipped
        exact zipped
      rw [Document.paths_toJson_of_filed apart filed, firsts]
      simp only [Document.operationsJson, underPath, map_map, Function.comp_def,
        Method.key_eq_lower]
      rfl
    · intro route mem
      have found := (get?_enterAll_iff apart _ _ route.2).mpr ⟨route.1, mem, rfl, rfl⟩
      rw [<- filed] at found
      rw [<- Method.key_eq_lower]
      exact document.operation?_toJson found

def itemCalls : List Call :=
  [.register { method := "get", path := "/items/:id", doc := .parsed { summary := "Read" } },
    .register { method := "post", path := "/items", doc := .parsed { summary := "Add" } },
    .register { method := "Put", path := "items//\x7bid\x7d/", doc := .parsed { summary := "Change" } }]

/-- A third spelling of a known path is refused for a method that it has. The document
has three operations on two paths. -/
theorem routes_kept_apart_items : let registry := (performAll {} itemCalls).2
    (∃ name path, (registry.register
      { method := "GET", path := "//items/\x7bid\x7d", doc := .parsed {} }).answer =
        .error (.duplicate name path)) /\
      ∃ document, (registry.assemble "Items" "1").1 = .ok document /\
        ∃ operations : List Operation, operations.length = 3 /\
          document.toJson.member? "paths" = some (.object
            (["/items/\x7bid\x7d", "/items"].map fun path =>
              (path, .object (((registry.entries.zip operations).filter fun route =>
                  documentPath route.1.path = path).map fun route =>
                (String.ofList (Text.lower route.1.method.name.toList), route.2.toJson))))) := by
  intro registry
  obtain ⟨-, -, refuses, documents⟩ := routes_kept_apart {} itemCalls
  have taken : ∃ entry ∈ registry.entries, entry.method.name = capitalized "GET" /\
      documentPath entry.path = documentPath "//items/\x7bid\x7d" := by
    decide +kernel
  have refused := (refuses { method := "GET", path := "//items/\x7bid\x7d", doc := .parsed {} }
    .get {} (by decide +kernel) (by decide +kernel) rfl).mpr taken
  have succeeds : ((registry.assemble "Items" "1").1.toOption).isSome = true := by decide +kernel
  have paths : (registry.entries.map fun entry => documentPath entry.path).eraseDups =
      ["/items/\x7bid\x7d", "/items"] := by
    decide +kernel
  have three : registry.entries.length = 3 := by decide +kernel
  refine ⟨refused, ?_⟩
  cases assembled : (registry.assemble "Items" "1").1 with
  | error failure =>
    rw [assembled] at succeeds
    cases succeeds
  | ok document =>
    obtain ⟨operations, built, listed, -⟩ := documents "Items" "1" {} document assembled
    rw [paths] at listed
    exact ⟨document, rfl, operations, built.length_eq.symm.trans three, listed⟩
end Registry
end RouteDocs
