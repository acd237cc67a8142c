import RouteDocs.Proofs.Completion

namespace RouteDocs.Declaration
open List Schema Resolution
open Yaml (Value)

/-!
# Calls of a resolver

The resolution hands the names that are being built down to the types inside. A resolver keeps
them in a variable, beside the completed types: a name is entered before its type is built, and it
is taken out again whatever comes of it. Nothing bounds how deep its calls go. `Tracks` says that
a piece of its work comes to an end, that it does what a step of the resolution does, and that it
leaves the names being built as it found them.
-/

def Resolution.lookupAll (types : OrderedMap String Value) : List (Option String) -> Cache ->
    List (Except TypeFault (Option Descriptor)) × Cache
  | [], cache => ([], cache)
  | call :: rest, cache =>
    let (answer, cache) := (lookup types call).run.run cache
    let (answers, cache) := lookupAll types rest cache
    (answer :: answers, cache)

structure Resolver where
  cache : Cache := ∅
  building : List String := []

/-- A piece of work of a resolver; it has no outcome if it runs out of fuel. -/
abbrev Resolver.Work := ExceptT TypeFault (StateT Resolver Option)

namespace Resolver
variable {α β : Type} (types : OrderedMap String Value)

def whileBuilding (name : String) (work : Work α) : Work α := ExceptT.mk do
  modify fun resolver => { resolver with building := name :: resolver.building }
  let answer <- work.run
  modify fun resolver => { resolver with building := resolver.building.filter (· ≠ name) }
  return answer

def orNamed (build : String -> Work Descriptor) (name : String) : Work Descriptor := do
  if name ∈ (<- get).building then return .named name else build name

def descriptor : Nat -> (name : String) -> Work Descriptor
  | 0, _ => ExceptT.mk fun _ => none
  | fuel + 1, name => do
    match (<- get).cache.get? name with
    | some type => return type
    | none =>
      match types.get? name with
      | none | some .null => throw (.unknownType name)
      | some spec =>
        let type <- whileBuilding name (build (orNamed (descriptor fuel)) name spec)
        modify fun resolver => { resolver with cache := resolver.cache.insert name type }
        return type

def lookup (fuel : Nat) : Option String -> Work (Option Descriptor)
  | none => return none
  | some name => some <$> descriptor types fuel name

def performAll (fuel : Nat) : List (Option String) -> Resolver ->
    Option (List (Except TypeFault (Option Descriptor)) × Resolver)
  | [], resolver => some ([], resolver)
  | call :: rest, resolver => do
    let (answer, resolver) <- (lookup types fuel call).run.run resolver
    let (answers, resolver) <- performAll fuel rest resolver
    return (answer :: answers, resolver)

section

/-- With some names being built, and as long as the caches are as they should be, work does what a
step does. -/
def Tracks (orderly : Cache -> Prop) (building : List String) (work : Work α)
    (step : Resolution α) : Prop :=
  ∀ cache, orderly cache -> orderly (step.run.run cache).2 /\ work.run.run ⟨cache, building⟩ =
      some ((step.run.run cache).1, ⟨(step.run.run cache).2, building⟩)

variable {orderly : Cache -> Prop} {building : List String}

theorem tracks_pure (value : α) : Tracks orderly building (pure value) (pure value) :=
  fun _ held => ⟨held, rfl⟩

theorem tracks_throw (fault : TypeFault) :
    Tracks orderly building (throw fault : Work α) (throw fault) :=
  fun _ held => ⟨held, rfl⟩

theorem Tracks.bind {next : α -> Work β} {further : α -> Resolution β} (first : Tracks orderly building work step)
    (second : ∀ value, Tracks orderly building (next value) (further value)) :
    Tracks orderly building (work >>= next) (step >>= further) := by
  intro cache held
  obtain ⟨kept, ran⟩ := first cache held
  rw [run_bind]
  change _ /\ (work.run.run ⟨cache, building⟩ >>= fun (answer, resolver) =>
    (ExceptT.bindCont next answer).run resolver) = _
  rw [ran]
  cases ended : (step.run.run cache : Except TypeFault α × Cache) with
  | mk answer mid =>
    rw [ended] at kept
    cases answer with
    | error fault => exact ⟨kept, rfl⟩
    | ok value => exact second value mid kept

theorem tracks_checked (reading : Record.Checked α) :
    Tracks orderly building (checked reading) (checked reading) := by
  cases reading with
  | valid value => exact tracks_pure value
  | faulty faults => exact tracks_throw _

theorem tracks_wordsOf (value : Value) :
    Tracks orderly building (wordsOf value) (wordsOf value) := by
  unfold wordsOf
  cases value.words with
  | ok words => exact tracks_pure words
  | error cause => exact tracks_throw _

variable {resolve : String -> Work Descriptor} {other : String -> Resolution Descriptor}
  (same : ∀ name, Tracks orderly building (resolve name) (other name))

include same

theorem tracks_expr : (expr : TypeExpr) -> Tracks orderly building
    (expr.descriptor (fun fault => throw (.expression fault)) resolve)
    (expr.descriptor (fun fault => throw (.expression fault)) other)
  | .primitive _ => tracks_pure _
  | .reference name => same name
  | .optional expr => (tracks_expr expr).bind fun _ => tracks_pure _
  | .wrapped wrapper _ expr => by
    refine (tracks_expr expr).bind fun type => ?_
    cases wrap? wrapper with
    | none => exact tracks_throw _
    | some wrap => exact tracks_pure _
  | .malformed _ => tracks_throw _

theorem tracks_fieldList (owner : String) (entries : List (Value × Value)) :
    Tracks orderly building (fieldList resolve owner entries) (fieldList other owner entries) := by
  induction entries with
  | nil => exact tracks_pure _
  | cons entry rest ih =>
    obtain ⟨key, spec⟩ := entry
    unfold fieldList
    rcases fieldParts spec with ⟨_ | type, optional⟩
    · exact (tracks_wordsOf key).bind fun _ => tracks_throw _
    · have typed : Tracks orderly building (typeOf resolve type) (typeOf other type) := by
        unfold typeOf
        split
        · exact tracks_throw _
        · exact (tracks_wordsOf type).bind fun _ => tracks_expr same _
      exact typed.bind fun _ => (tracks_checked _).bind fun _ => ih.bind fun _ => tracks_pure _

theorem tracks_fields (owner : String) (written? : Option Value) :
    Tracks orderly building (fields resolve owner written?) (fields other owner written?) := by
  unfold fields
  split
  · exact tracks_pure _
  · exact tracks_pure _
  · exact tracks_fieldList same owner _
  · exact tracks_throw _

theorem tracks_variantList (owner : String) (entries : List (Value × Value)) :
    Tracks orderly building (variantList resolve owner entries)
      (variantList other owner entries) := by
  induction entries with
  | nil => exact tracks_pure _
  | cons entry rest ih =>
    obtain ⟨key, spec⟩ := entry
    have parts : Tracks orderly building (variantParts spec) (variantParts spec) := by
      unfold variantParts
      split
      · exact tracks_pure _
      · exact tracks_pure _
      · exact tracks_pure _
      · dsimp only
        split
        · exact (tracks_pure _).bind fun _ => tracks_pure _
        · exact (tracks_wordsOf _).bind fun _ => (tracks_pure _).bind fun _ => tracks_pure _
        · exact (tracks_pure _).bind fun _ => tracks_pure _
      · exact tracks_throw _
    exact parts.bind fun _ => (tracks_wordsOf key).bind fun _ => (tracks_fields same _ _).bind
      fun _ => (tracks_checked _).bind fun _ => ih.bind fun _ => tracks_pure _

theorem tracks_build (name : String) (spec : Value) : Tracks orderly building
    (build resolve name spec) (build other name spec) := by
  have members : Tracks orderly building (membersOf spec) (membersOf spec) := by
    unfold membersOf
    split
    · exact tracks_pure _
    all_goals exact tracks_throw _
  refine members.bind fun written => ?_
  split
  · refine Tracks.bind ?_ fun _ => tracks_pure _
    unfold variants
    split
    · exact tracks_variantList same name _
    · exact tracks_throw _
  · exact (tracks_fields same name _).bind fun _ => (tracks_checked _).bind fun _ => tracks_pure _
end

variable {types} {building : List String} {name : String}

theorem run_get_bind (next : Resolver -> Work α) (resolver : Resolver) :
    (get >>= next : Work α).run.run resolver = (next resolver).run.run resolver :=
  rfl

theorem run_get (next : Cache -> Resolution α) (cache : Cache) :
    (get >>= next : Resolution α).run.run cache = (next cache).run.run cache :=
  rfl

theorem run_whileBuilding (free : name ∉ building) {cache mid : Cache}
    (ran : work.run.run ⟨cache, name :: building⟩ = some (answer, ⟨mid, name :: building⟩)) :
    (whileBuilding name work).run.run ⟨cache, building⟩ = some (answer, ⟨mid, building⟩) := by
  have left : (name :: building).filter (· ≠ name) = building := by
    rw [filter_cons_of_neg (by simp), filter_eq_self]
    intro other mem
    exact decide_eq_true fun same => free (same ▸ mem)
  change (work.run.run ⟨cache, name :: building⟩ >>= _) = _
  rw [ran]
  exact congrArg (fun names => some (answer, Resolver.mk mid names)) left

theorem run_descriptorWithin {cache : Cache} (absent : cache.get? name = none)
    (found : types.get? name = some value) (shown : value ≠ .null) :
    (descriptorWithin types (depth + 1) building name).run.run cache =
      (build (lookUp types depth (name :: building)) name value >>= fun type => do
        modify (·.insert name type) return type : Resolution Descriptor).run.run cache := by
  rw [descriptorWithin, run_get, absent, found]
  cases value with
  | null => exact absurd rfl shown
  | _ => rfl

theorem run_descriptor {cache : Cache} (absent : cache.get? name = none)
    (found : types.get? name = some value) (shown : value ≠ .null) :
    (descriptor types (fuel + 1) name).run.run ⟨cache, building⟩ =
      (whileBuilding name (build (orNamed (descriptor types fuel)) name value) >>= fun type => do
        modify fun resolver => { resolver with cache := resolver.cache.insert name type }
        return type : Work Descriptor).run.run ⟨cache, building⟩ := by
  rw [descriptor, run_get_bind, absent, found]
  cases value with
  | null => exact absurd rfl shown
  | _ => rfl

/-- A type is built inside others that are declared and all different, so there are never more of
them than declared types. Whether or not it can be completed, the cache stays coherent. -/
theorem tracks_descriptor (nodup : building.Nodup) (around : building ⊆ types.keys)
    (bound : types.size <= depth + building.length) (enough : depth < fuel)
    (free : name ∉ building) (start : Cache) :
    Tracks (Advances types building start) building (descriptor types fuel name)
      (descriptorWithin types depth building name) := by
  induction depth generalizing fuel building name start with
  | zero =>
    obtain ⟨fuel, rfl⟩ := Nat.exists_eq_succ_of_ne_zero (Nat.ne_of_gt enough)
    intro cache advances
    -- The types around are all there are, so that the name is not declared.
    have undeclared : name ∉ types.keys := by
      intro declared
      have longer := (subperm_of_subset (nodup_cons.mpr ⟨free, nodup⟩)
        (cons_subset.mpr ⟨declared, around⟩)).length_le
      have sizes : types.keys.length = types.size := length_map _
      rw [length_cons] at longer
      omega
    have unknown : types.get? name = none := (types.get?_eq_none_iff name).mpr undeclared
    have absent : cache.get? name = none := by
      cases known : cache.get? name with
      | none => rfl
      | some type => exact absurd (advances.coherent.declared known) undeclared
    refine ⟨advances, ?_⟩
    rw [descriptor, run_get_bind, absent, unknown]
    rfl
  | succ depth ih =>
    obtain ⟨fuel, rfl⟩ := Nat.exists_eq_succ_of_ne_zero (Nat.ne_of_gt (Nat.zero_lt_of_lt enough))
    intro cache advances
    cases known : cache.get? name with
    | some type =>
      rw [descriptorWithin, run_get, descriptor, run_get_bind, known]
      exact ⟨advances, rfl⟩
    | none =>
      cases found : types.get? name with
      | none =>
        rw [descriptorWithin, run_get, descriptor, run_get_bind, known, found]
        exact ⟨advances, rfl⟩
      | some value =>
        by_cases shown : value = .null
        · rw [descriptorWithin, run_get, descriptor, run_get_bind, known, found, shown]
          exact ⟨advances, rfl⟩
        have declared := (types.mem_keys_iff name).mpr ⟨value, found⟩
        have inner (other : String) : Tracks (Advances types (name :: building) cache)
            (name :: building) (orNamed (descriptor types fuel) other)
            (lookUp types depth (name :: building) other) := by
          intro later moved
          rw [orNamed, run_get_bind, lookUp]
          split
          · exact ⟨moved, rfl⟩
          · rename_i outside
            refine ih (nodup_cons.mpr ⟨free, nodup⟩) (cons_subset.mpr ⟨declared, around⟩) ?_
              (Nat.lt_of_succ_lt_succ enough) outside cache later moved
            rw [length_cons]
            omega
        obtain ⟨moved, ran⟩ := tracks_build inner name value cache (.refl advances.coherent)
        have completes {type : Descriptor} {post : Cache} (yields : Yields
            (descriptorWithin types (depth + 1) building name) cache type post) :=
          (descriptorWithin_completes around free advances.coherent yields).1
        unfold Yields at completes
        rw [run_descriptorWithin known found shown, run_bind] at completes ⊢
        rw [run_descriptor known found shown]
        cases ended : ((build (lookUp types depth (name :: building)) name
            value).run.run cache : Except TypeFault Descriptor × Cache) with
        | mk answer mid =>
          rw [ended] at moved ran completes
          change _ /\ ((whileBuilding name _).run.run ⟨cache, building⟩ >>= _) = _
          rw [run_whileBuilding free ran]
          cases answer with
          | error fault => exact ⟨advances.trans (moved.mono (subset_cons_self _ _)), rfl⟩
          | ok type => exact ⟨advances.trans (completes rfl), rfl⟩

theorem tracks_lookup (more : Nat) (call : Option String) (start : Cache) :
    Tracks (Advances types [] start) [] (lookup types (types.size + more + 1) call)
      (Resolution.lookup types call) := by
  cases call with
  | none => exact tracks_pure none
  | some name =>
    rw [lookup, Resolution.lookup, <- bind_pure_comp, <- bind_pure_comp]
    exact (tracks_descriptor nodup_nil (nil_subset _) (Nat.le_refl _)
      (Nat.lt_succ_of_le (Nat.le_add_right _ _)) not_mem_nil start).bind fun _ => tracks_pure _

theorem performAll_tracks (more : Nat) (calls : List (Option String)) {cache : Cache}
    (coherent : Coherent types cache) : performAll types (types.size + more + 1) calls ⟨cache, []⟩ =
        some ((lookupAll types calls cache).1, ⟨(lookupAll types calls cache).2, []⟩) /\
      Advances types [] cache (lookupAll types calls cache).2 /\
      ∀ type, .ok (some type) ∈ (lookupAll types calls cache).1 ->
        ∃ name, (lookupAll types calls cache).2.get? name = some type := by
  induction calls generalizing cache with
  | nil => exact ⟨rfl, .refl coherent, fun _ mem => absurd mem not_mem_nil⟩
  | cons call rest ih =>
    obtain ⟨first, ran⟩ := tracks_lookup more call cache cache (.refl coherent)
    obtain ⟨performed, later, answered⟩ := ih first.coherent
    rw [Resolution.lookupAll]
    refine ⟨?_, first.trans later, fun type mem => ?_⟩
    · rw [performAll, ran]
      change (performAll types _ rest _ >>= _) = _
      rw [performed]
      rfl
    · rcases mem_cons.mp mem with here | there
      · have yields : Yields (Resolution.lookup types call) cache (some type) _ := Prod.ext here.symm rfl
        cases call with
        | none => cases (yields_pure.mp yields).1
        | some name =>
          obtain ⟨_, found, same⟩ := yields_map.mp yields
          cases same
          exact ⟨name, later.kept name type (descriptor_completes coherent found).2⟩
      · exact answered type there

/-- Whatever is asked, and whether or not it is answered: every call comes to an end, without more
calls inside each other than declared types, and with no name left as being built. Types in answers
and in the cache are those of the cache, none stands in one of its own name, and what is only named
in them is declared. -/
theorem calls_keep_cache_coherent (types : OrderedMap String Value) (more : Nat)
    (calls : List (Option String)) :
    ∃ answers cache, performAll types (types.size + more + 1) calls {} = some (answers, ⟨cache, []⟩) /\
      lookupAll types calls ∅ = (answers, cache) /\
      (∀ type, ((∃ name, cache.get? name = some type) \/ .ok (some type) ∈ answers) ->
        type.Unnested /\ ∀ inner ∈ type.types, cache.get? inner.typeName = some inner) /\
      ∀ name type, cache.get? name = some type -> ∀ inner ∈ type.namedTypes, inner ∈ types.keys := by
  have fresh : Coherent types ∅ := nofun
  obtain ⟨performed, advances, answered⟩ := performAll_tracks more calls fresh
  refine ⟨_, _, performed, rfl, fun type occurs => ?_,
    fun name type found => (advances.coherent name type found).named⟩
  obtain ⟨name, found⟩ := occurs.elim id (answered type)
  have drawn := (advances.coherent name type found).drawn
  exact ⟨fun inner mem => (advances.coherent _ inner (drawn inner mem)).unnested, drawn⟩
end Resolver

/-! ## What the cache hides

A type that is completed inside another one may leave the other one as a name. If the other one is
completed in the end, all names in completed types are those of completed types; if it is not, the
cache has a type that could not be completed again. -/

namespace Resolution
variable {types : OrderedMap String Value} {building : List String} {name : String}
  {type : Descriptor}

/-- All names in completed types are completed or being built. -/
def Reaching (types : OrderedMap String Value) (building : List String) (cache : Cache) : Prop :=
  ∀ name ∈ cache.keys, WrittenWithin types (fun inner => inner ∈ building \/ inner ∈ cache.keys) name

theorem WrittenWithin.mono (written : WrittenWithin types wanted name)
    (more : ∀ inner, wanted inner -> further inner) : WrittenWithin types further name := by
  obtain ⟨value, spec, found, type, listed, opened, read, described⟩ := written
  exact ⟨value, spec, found, type, listed, opened, read, described.mono fun inner _ => more inner⟩

theorem descriptorWithin_reaches (declared : building ⊆ types.keys) (free : name ∉ building)
    (coherent : Coherent types pre)
    (yields : Yields (descriptorWithin types depth building name) pre type post)
    (reaching : Reaching types building pre) : Reaching types building post := by
  induction depth generalizing building name pre post type with
  | zero => exact absurd yields yields_throw.mp
  | succ depth ih =>
    rcases yields_descriptorWithin.mp yields with
      ⟨-, rfl⟩ | ⟨unknown, value, mid, found, -, built, rfl⟩
    · exact reaching
    · have around : name :: building ⊆ types.keys :=
        cons_subset.mpr ⟨(types.mem_keys_iff name).mpr ⟨value, found⟩, declared⟩
      have keysOf {cache : Cache} {inner : String} {type : Descriptor}
          (known : cache.get? inner = some type) : inner ∈ cache.keys :=
        (cache.mem_keys_iff inner).mpr ⟨type, known⟩
      have course : Course types
          (fun first second => Advances types (name :: building) first second /\
            (Reaching types (name :: building) first -> Reaching types (name :: building) second))
          fun cache inner _ => inner ∈ name :: building \/ inner ∈ cache.keys := {
        coherent := fun moved => moved.1.coherent
        refl := fun coherent => ⟨.refl coherent, id⟩
        trans := fun first second => ⟨first.1.trans second.1, second.2 ∘ first.2⟩
        kept := fun moved inner _ => Or.imp_right fun listed => by
          obtain ⟨type, known⟩ := (OrderedMap.mem_keys_iff _ inner).mp listed
          exact keysOf (moved.1.kept inner type known) }
      obtain ⟨spec, written, opened, read, walked⟩ := yields_build.mp built
      obtain ⟨⟨advances, moved⟩, described⟩ := written_describes course (fun inner first answer second
          held answered => by
        unfold lookUp at answered
        split at answered
        · rename_i under
          obtain ⟨rfl, rfl⟩ := yields_pure.mp answered
          exact ⟨course.refl held, .inl under⟩
        · rename_i outside
          obtain ⟨advances, completed⟩ := descriptorWithin_completes around outside held answered
          exact ⟨⟨advances, ih around outside held answered⟩, .inr (keysOf completed)⟩)
        coherent walked
      have listed (inner : String) : inner ∈ (mid.insert name type).keys ↔
          inner = name \/ inner ∈ mid.keys := by
        rw [OrderedMap.keys_insert]
        split
        · rename_i known
          exact ⟨.inr, fun either => either.elim (fun same => same ▸ known) id⟩
        · rw [mem_append, mem_singleton, or_comm]
      -- The name is no longer being built, but completed.
      have ended (inner : String) (reached : inner ∈ name :: building \/ inner ∈ mid.keys) :
          inner ∈ building \/ inner ∈ (mid.insert name type).keys := by
        rwa [mem_cons, or_comm (a := inner = name), or_assoc, <- listed] at reached
      have begun : Reaching types (name :: building) pre := fun inner known =>
        WrittenWithin.mono (reaching inner known) fun _ => Or.imp_left (mem_cons_of_mem name)
      intro inner known
      rcases (listed inner).mp known with rfl | earlier
      · exact WrittenWithin.mono ⟨value, spec, written, type, found, opened, read, described⟩ ended
      · exact WrittenWithin.mono (moved begun inner earlier) ended

def Completes (types : OrderedMap String Value) (cache : Cache) (name : String) : Prop :=
  ∃ type post, Yields (descriptor types name) cache type post

theorem coherent_lookupAll (types : OrderedMap String Value) (calls : List (Option String)) :
    Coherent types (lookupAll types calls ∅).2 :=
  (Resolver.performAll_tracks 0 calls fun _ _ found => by cases found).2.1.coherent

/-- A type whose names lead to completed types only can be completed from any cache. -/
theorem completes_of_reaching (coherent : Coherent types cache)
    (reaching : Reaching types [] post) (known : name ∈ post.keys) : Completes types cache name := by
  have closed (inner : String) (listed : inner ∈ post.keys) :
      WrittenWithin types (· ∈ post.keys) inner :=
    WrittenWithin.mono (reaching inner listed) fun _ either => either.elim nofun id
  obtain ⟨type, last, yields, -⟩ := descriptor_succeeds closed known cache coherent
  exact ⟨type, last, yields⟩

theorem lookupAll_reaches (coherent : Coherent types cache) (reaching : Reaching types [] cache)
    (answered : ∀ answer ∈ (lookupAll types calls cache).1, ∃ found, answer = .ok found) :
    Reaching types [] (lookupAll types calls cache).2 := by
  induction calls generalizing cache with
  | nil => exact reaching
  | cons call rest ih =>
    rw [lookupAll] at answered ⊢
    obtain ⟨found, ok⟩ := answered _ (.head _)
    have yields : Yields (lookup types call) cache found _ := Prod.ext ok rfl
    refine ih ?_ ?_ (forall_mem_cons.mp answered).2
    · exact (Resolver.tracks_lookup 0 call cache cache (.refl coherent)).1.coherent
    · cases call with
      | none => exact reaching
      | some name =>
        obtain ⟨type, completed, -⟩ := yields_map.mp yields
        exact descriptorWithin_reaches (nil_subset _) not_mem_nil coherent completed reaching

/-- What can be completed from the start can be completed after any calls. The converse holds as
long as no call has failed. -/
theorem completes_after_calls (types : OrderedMap String Value) (calls : List (Option String))
    (name : String) : (Completes types ∅ name -> Completes types (lookupAll types calls ∅).2 name) /\
      ((∀ answer ∈ (lookupAll types calls ∅).1, ∃ found, answer = .ok found) ->
        (Completes types (lookupAll types calls ∅).2 name ↔ Completes types ∅ name)) := by
  have fresh : Coherent types ∅ := nofun
  have empty : Reaching types [] ∅ := fun _ mem => by cases mem
  have lasting {first second : Cache} (coherent : Coherent types first)
      (reaching : Reaching types [] first) (other : Coherent types second) :
      Completes types first name -> Completes types second name := by
    rintro ⟨type, after, yields⟩
    refine completes_of_reaching other
      (descriptorWithin_reaches (nil_subset _) not_mem_nil coherent yields reaching) ?_
    exact (after.mem_keys_iff name).mpr ⟨type, (descriptor_completes coherent yields).2⟩
  have later := coherent_lookupAll types calls
  exact ⟨lasting fresh empty later, fun answered =>
    ⟨lasting later (lookupAll_reaches fresh empty answered) fresh, lasting fresh empty later⟩⟩

theorem completes_after_calls_owner :
    let fields (entries : List (String × String)) : Value := .map [(.text "fields",
      .map (entries.map fun (name, type) => (.text name, .text type)))]
    let types : OrderedMap String Value := .ofList [
      ("Account", fields [("owner", "Owner")]), ("Owner", fields [("account", "Account")])]
    Completes types ∅ "Owner" /\ Completes types (lookupAll types [some "Account", none] ∅).2 "Owner" /\
      (Completes types (lookupAll types [some "Account", none] ∅).2 "Entry" ↔
        Completes types ∅ "Entry") := by
  intro fields types
  have answered : ∀ answer ∈ (lookupAll types [some "Account", none] ∅).1,
      ∃ found, answer = .ok found := by
    have all : ∀ answer ∈ (lookupAll types [some "Account", none] ∅).1,
      answer.toOption.isSome = true := by decide +kernel
    exact fun answer mem => exists_ok (all answer mem)
  obtain ⟨type, completed⟩ : ∃ type, ((descriptor types "Owner").run.run ∅).1 = .ok type :=
    exists_ok (by decide +kernel)
  have fresh : Completes types ∅ "Owner" := ⟨type, _, Prod.ext completed rfl⟩
  exact ⟨fresh, ((completes_after_calls types _ "Owner").2 answered).mpr fresh,
    (completes_after_calls types _ "Entry").2 answered⟩

/-- An account has an owner and an entry of a type that is not declared. The owner is completed
before this is noticed, and only a fresh resolver refuses it. -/
theorem failed_call_hides_error :
    let fields (entries : List (String × String)) : Value := .map [(.text "fields",
      .map (entries.map fun (name, type) => (.text name, .text type)))]
    let types : OrderedMap String Value := .ofList [
      ("Account", fields [("owner", "Owner"), ("last", "Entry")]), ("Owner", fields [("account", "Account")])]
    (lookupAll types [some "Account", some "Owner"] ∅).1.map (·.toOption.isSome) = [false, true] /\
      (lookupAll types [some "Owner"] ∅).1.map (·.toOption.isSome) = [false] := by
  decide +kernel
end Resolution
end RouteDocs.Declaration
