import RouteDocs.Proofs.ConflictDetection

namespace RouteDocs.Schema
open List Option Table Descriptor

/-!
# Nested types

A type inside a type of the same name is only referred to, and everything inside it is left out; a
descriptor that is remembered is not looked into again. `Session.Rests` says what can be relied on
while some types are under construction: what is remembered is registered, with the types in it that
are not left out, and a registered node refers only to registered nodes, to types under
construction, and to types that are declared elsewhere.
-/

/-- A struct or a union in a descriptor, with the types around it, the outermost first. -/
structure Place where
  around : List Descriptor
  type : Descriptor

namespace Place
def within (outer : Descriptor) (place : Place) : Place where
  around := outer :: place.around
  type := place.type

def Shadowed (place : Place) : Prop := place.type.typeName ∈ place.around.map typeName

def Open (cut : Descriptor -> Prop) (place : Place) : Prop := ∀ outer ∈ place.around, ¬ cut outer

theorem Open.of_within {place : Place} (isOpen : (place.within outer).Open cut) :
    ¬ cut outer /\ place.Open cut :=
  forall_mem_cons.mp isOpen
end Place

mutual
def Descriptor.places : Descriptor -> List Place
  | .optional inner | .sequence inner => inner.places
  | .struct name fields about =>
    ⟨[], .struct name fields about⟩ ::
      (fieldPlaces fields).map (Place.within (.struct name fields about))
  | .union name variants =>
    ⟨[], .union name variants⟩ :: (variantPlaces variants).map (Place.within (.union name variants))
  | .primitive _ | .named _ => []

def fieldPlaces : List Field -> List Place
  | [] => []
  | ⟨_, type, _⟩ :: rest => type.places ++ fieldPlaces rest

def variantPlaces : List Variant -> List Place
  | [] => []
  | ⟨_, fields, _⟩ :: rest => fieldPlaces fields ++ variantPlaces rest
end

def Descriptor.innerPlaces : Descriptor -> List Place
  | .struct _ fields _ => fieldPlaces fields
  | .union _ variants => variantPlaces variants
  | _ => []

variable {type : Descriptor}

theorem Descriptor.places_of_isType (isType : type.isType = true) :
    type.places = ⟨[], type⟩ :: type.innerPlaces.map (Place.within type) := by
  cases type with
  | struct => rfl
  | union => rfl
  | _ => cases isType

theorem Descriptor.forall_mem_places (isType : type.isType = true) {holds : Place -> Prop} :
    (∀ place ∈ type.places, holds place) ↔
      holds ⟨[], type⟩ /\ ∀ place ∈ type.innerPlaces, holds (place.within type) := by
  rw [places_of_isType isType, forall_mem_cons, List.forall_mem_map]

def Descriptor.body : Descriptor -> Node
  | .struct _ fields about => .object (fields.map Field.member) about none
  | .union name variants => unionNode name (variants.map Variant.error)
  | other => other.shape

theorem Descriptor.exists_own_body (isType : type.isType = true) : ∃ defn ∈ type.ownDefinitions,
      defn.name = type.typeName /\ defn.node = type.body := by
  cases type with
  | struct => exact ⟨_, .head _, rfl, rfl⟩
  | union => exact ⟨_, mem_append_right _ (.head _), rfl, rfl⟩
  | _ => cases isType

structure Table.Grows (pre post : Table) : Prop where
  schemas : ∀ name node, pre.get? name = some node -> post.get? name = some node
  conflicts : pre.conflicts ⊆ post.conflicts

theorem Table.contains_iff_exists {table : Table} :
    table.contains name = true ↔ ∃ node, table.get? name = some node :=
  isSome_iff_exists

namespace Table.Grows
variable {first second third : Table}

theorem refl (table : Table) : table.Grows table where
  schemas := fun _ _ found => found
  conflicts := Subset.refl _

theorem trans (earlier : first.Grows second) (later : second.Grows third) : first.Grows third where
  schemas := fun name node found => later.schemas name node (earlier.schemas name node found)
  conflicts := fun _ recorded => later.conflicts (earlier.conflicts recorded)

theorem contains {name : String} (grows : first.Grows second)
    (registered : first.contains name = true) : second.contains name = true := by
  rcases contains_iff_exists.mp registered with ⟨node, found⟩
  exact contains_iff_exists.mpr ⟨node, grows.schemas name node found⟩

theorem recordConflict (table : Table) (name : String) : table.Grows (table.recordConflict name) where
  schemas := by
    intro other node found
    rw [get?, schemas_recordConflict]
    exact found
  conflicts := fun other recorded => (table.mem_conflicts_recordConflict name other).mpr (.inl recorded)

theorem enter (table : Table) (defn : Definition) : table.Grows (table.enter defn) where
  schemas := by
    intro other known found
    rw [get?_enter, found, some_or]
  conflicts := fun other recorded => (table.mem_conflicts_enter defn other).mpr (.inl recorded)

theorem enterAll (table : Table) (defns : List Definition) :
    table.Grows (defns.foldl Table.enter table) := by
  induction defns generalizing table with
  | nil => exact refl table
  | cons defn rest ih => exact (enter table defn).trans (ih (table.enter defn))
end Table.Grows

theorem Synthesis.Runs.grows (runs : Runs active part pre post) : pre.table.Grows post.table := by
  induction runs with
  | primitive | named | noFields | noVariants | remembered => exact .refl _
  | optional _ ih | sequence _ ih => exact ih
  | inside =>
    split
    · exact .refl _
    · exact .recordConflict _ _
  | built _ _ _ _ _ table _ ih =>
    rw [table]
    exact ih.trans (.enterAll _ _)
  | field _ _ here later => exact here.trans later
  | variant _ _ here later =>
    refine Grows.trans ?_ (here.trans later)
    unfold Session.noted
    split
    · exact .refl _
    · exact ⟨fun _ _ => id, fun _ => id⟩

namespace Table
variable {table : Table} {defns : List Definition} {name : String} {type : Descriptor}

theorem foldl_enter {α : Type} (look? : Table -> Option α) (part : Definition -> Option α)
    (step : ∀ table defn, look? (table.enter defn) =
      (look? table).or (if defn.name = name then part defn else none)) :
    look? (defns.foldl Table.enter table) = (look? table).or (firstPart? part defns name) := by
  induction defns generalizing table with
  | nil => exact (or_none).symm
  | cons defn rest ih =>
    rw [foldl_cons, ih, step, <- singleton_append, firstPart?_append, Option.or_assoc]
    simp only [firstPart?, findSome?_singleton]

theorem get?_enterAll_cases (found : (defns.foldl Table.enter table).get? name = some node) :
    table.get? name = some node \/ ∃ defn ∈ defns, defn.name = name /\ defn.node = node := by
  rw [foldl_enter (·.get? name) (some ·.node) fun table defn => table.get?_enter defn name,
    <- firstNode?_eq] at found
  exact (or_eq_some_iff.mp found).imp_right fun new => exists_of_firstNode? new.2

theorem statusMap?_enterAll_cases
    (found : (defns.foldl Table.enter table).statusMap? name = some codes) :
    table.statusMap? name = some codes \/
      ∃ defn ∈ defns, defn.name = name /\ defn.statuses? = some codes := by
  rw [foldl_enter (·.statusMap? name) _ fun table defn => table.statusMap?_enter defn name] at found
  exact (or_eq_some_iff.mp found).imp_right fun new => exists_of_firstPart? new.2

/-- After a definition its name has a node: the definition's, or another one and a recorded
conflict. -/
theorem get?_enterAll_of_mem (table : Table) (mem : defn ∈ defns) :
    ∃ node, (defns.foldl Table.enter table).get? defn.name = some node /\
      (node = defn.node \/ node.same defn.node = true \/
        defn.name ∈ (defns.foldl Table.enter table).conflicts) := by
  induction defns generalizing table with
  | nil => cases mem
  | cons first rest ih =>
    rcases mem_cons.mp mem with rfl | later
    · have grown := Grows.enterAll (table.enter defn) rest
      have entered := get?_enter table defn defn.name
      rw [if_pos rfl] at entered
      cases known : table.get? defn.name with
      | none =>
        rw [known, none_or] at entered
        exact ⟨_, grown.schemas _ _ entered, .inl rfl⟩
      | some node =>
        rw [known, some_or] at entered
        refine ⟨node, grown.schemas _ _ entered, ?_⟩
        cases same : node.same defn.node with
        | true => exact .inr (.inl rfl)
        | false =>
          have recorded := (mem_conflicts_enter table defn defn.name).mpr
            (.inr ⟨rfl, .inl ⟨node, known, same⟩⟩)
          exact .inr (.inr (grown.conflicts recorded))
    · exact ih (table.enter first) later

/-- A definition is made: its name has its node, or has another one and is recorded as a
conflict. -/
def Offers (table : Table) (defn : Definition) : Prop :=
  ∃ node, table.get? defn.name = some node /\ (node = defn.node \/ defn.name ∈ table.conflicts)

def Completed (table : Table) (type : Descriptor) : Prop :=
  type.OwnSound /\ ∀ defn ∈ type.ownDefinitions, table.Offers defn

theorem Offers.grow (offers : table.Offers defn) (grows : table.Grows later) :
    later.Offers defn := by
  rcases offers with ⟨node, found, agrees⟩
  exact ⟨node, grows.schemas _ _ found, agrees.imp_right (grows.conflicts ·)⟩

theorem Completed.grow (completed : table.Completed type) (grows : table.Grows later) :
    later.Completed type :=
  ⟨completed.1, fun defn mem => (completed.2 defn mem).grow grows⟩

def Registers (table : Table) (type : Descriptor) : Prop :=
  ∃ node, table.get? type.typeName = some node /\
    (node = type.body \/ type.typeName ∈ table.conflicts)

theorem Registers.grow (registers : table.Registers type) (grows : table.Grows later) :
    later.Registers type :=
  (show table.Offers ⟨type.typeName, type.body, none⟩ from registers).grow grows

def StatusesKnown (table : Table) : Prop := ∀ name codes, table.statusMap? name = some codes ->
    table.contains name = true /\ ∀ status resp, codes.get? status = some resp ->
        ∀ schema ∈ resp.schemas, table.contains schema = true

theorem Registers.contains (registers : table.Registers type) :
    table.contains type.typeName = true := by
  rcases registers with ⟨node, found, -⟩
  exact contains_iff_exists.mpr ⟨node, found⟩
end Table

namespace Session
variable {sess post : Session} {active : List (String × Descriptor)} {named : String -> Prop}
  {cut : Descriptor -> Prop} {target : String} {type : Descriptor}

/-- A name leads somewhere: to a registered node, to a type under construction, or to a type
that is declared elsewhere. -/
def Leads (sess : Session) (active : List (String × Descriptor)) (named : String -> Prop)
    (target : String) : Prop :=
  sess.table.contains target = true \/ target ∈ active.map Prod.fst \/ named target

/-- A type is registered, or it will be once the types under construction are completed. -/
def Knows (sess : Session) (active : List (String × Descriptor)) (type : Descriptor) : Prop :=
  sess.table.Registers type \/ (type.typeName, type) ∈ active \/
    (type.typeName ∈ active.map Prod.fst /\ type.typeName ∈ sess.table.conflicts)

/-- What can be relied on while some types are under construction. The types that are left
out are among those of `cut`, and the types declared elsewhere are among `named`. -/
structure Rests (sess : Session) (active : List (String × Descriptor)) (named : String -> Prop)
    (cut : Descriptor -> Prop) : Prop where
  memo : ∀ name desc, sess.memo.get? name = some desc -> sess.table.contains name = true /\
      ∀ place ∈ desc.places, place.Open cut -> sess.Knows active place.type
  owned : ∀ name node, sess.table.get? name = some node ->
    ∃ type, sess.table.Completed type /\ ∃ defn ∈ type.ownDefinitions,
      defn.name = name /\ defn.node = node
  references : ∀ name node, sess.table.get? name = some node ->
    ∀ target ∈ node.references, sess.Leads active named target
  statuses : ∀ name codes, sess.table.statusMap? name = some codes ->
    ∃ type, sess.table.Completed type /\ ∃ defn ∈ type.ownDefinitions,
      defn.name = name /\ defn.statuses? = some codes

theorem Leads.grow (leads : sess.Leads active named target)
    (grows : sess.table.Grows post.table) : post.Leads active named target := by
  rcases leads with registered | elsewhere
  · exact .inl (grows.contains registered)
  · exact .inr elsewhere

theorem Knows.grow (knows : sess.Knows active type) (grows : sess.table.Grows post.table) :
    post.Knows active type := by
  rcases knows with registers | here | ⟨sameName, recorded⟩
  · exact .inl (registers.grow grows)
  · exact .inr (.inl here)
  · exact .inr (.inr ⟨sameName, grows.conflicts recorded⟩)

theorem Knows.registers (knows : sess.Knows [] type) : sess.table.Registers type := by
  rcases knows with registers | here | ⟨here, -⟩
  · exact registers
  · cases here
  · cases here

namespace Rests
theorem start : ({} : Session).Rests [] named cut where
  memo := nofun
  owned := nofun
  references := nofun
  statuses := nofun

/-- Nothing is registered or remembered, and what was known or led somewhere still is and does. -/
theorem carry {inside : List (String × Descriptor)} (rests : sess.Rests active named cut)
    (grows : sess.table.Grows post.table) (memo : post.memo = sess.memo)
    (schemas : post.table.schemas = sess.table.schemas)
    (statusMaps : post.table.statusMaps = sess.table.statusMaps)
    (cuts : ∀ type, cut type -> wideCut type)
    (knows : ∀ type, sess.Knows active type -> post.Knows inside type)
    (leads : ∀ target, sess.Leads active named target -> post.Leads inside wider target) :
    post.Rests inside wider wideCut where
  memo := by
    intro name desc found
    rw [memo] at found
    rcases rests.memo name desc found with ⟨registered, known⟩
    refine ⟨grows.contains registered, fun place mem isOpen => ?_⟩
    exact knows _ (known place mem fun outer around isCut => isOpen outer around (cuts outer isCut))
  owned := by
    intro name node found
    rw [get?, schemas] at found
    exact (rests.owned name node found).imp fun _ => And.imp_left (·.grow grows)
  references := by
    intro name node found target referred
    rw [get?, schemas] at found
    exact leads _ (rests.references name node found target referred)
  statuses := by
    intro name codes found
    rw [statusMap?, statusMaps] at found
    exact (rests.statuses name codes found).imp fun _ => And.imp_left (·.grow grows)

theorem mono (rests : sess.Rests active named cut) (names : ∀ name, named name -> wider name)
    (cuts : ∀ type, cut type -> wideCut type) : sess.Rests active wider wideCut :=
  rests.carry (.refl _) rfl rfl rfl cuts (fun _ => id)
    fun target leads => leads.imp_right (Or.imp_right (names target))

theorem enter (rests : sess.Rests active named cut) (around : String × Descriptor) :
    sess.Rests (around :: active) named cut :=
  rests.carry (.refl _) rfl rfl rfl (fun _ => id)
    (fun _ knows => knows.imp_right (Or.imp (.tail _) (And.imp_left (.tail _))))
    fun _ leads => leads.imp_right (Or.imp_left (.tail _))

theorem conflicted (rests : sess.Rests active named cut) (name : String) (clash : Clash) :
    (sess.conflicted name clash).Rests active named cut := by
  have grows : sess.table.Grows (sess.conflicted name clash).table :=
    Grows.recordConflict sess.table name
  exact rests.carry grows rfl (schemas_recordConflict _ _) (statusMaps_recordConflict _ _)
    (fun _ => id) (fun _ knows => knows.grow grows) fun _ leads => leads.grow grows

theorem noted (rests : sess.Rests active named cut) (union : String) (variant : Variant) :
    (sess.noted union variant).Rests active named cut := by
  unfold Session.noted
  split
  · exact rests
  · exact ⟨rests.memo, rests.owned, rests.references, rests.statuses⟩
end Rests

/-- A name that led somewhere while a type was under construction still does once the type
is registered. -/
theorem Leads.complete (leads : sess.Leads ((type.typeName, type) :: active) named target)
    (grows : sess.table.Grows post.table)
    (registered : post.table.contains type.typeName = true) : post.Leads active named target := by
  rcases leads with known | here | elsewhere
  · exact .inl (grows.contains known)
  · rcases mem_cons.mp here with rfl | outside
    · exact .inl registered
    · exact .inr (.inl outside)
  · exact .inr (.inr elsewhere)

theorem Knows.complete {inner : Descriptor} (knows : sess.Knows ((type.typeName, type) :: active) inner)
    (grows : sess.table.Grows post.table) (registers : post.table.Registers type) :
    post.Knows active inner := by
  rcases knows with known | here | ⟨sameName, recorded⟩
  · exact .inl (known.grow grows)
  · rcases mem_cons.mp here with same | outside
    · rw [(Prod.mk.inj same).2]
      exact .inl registers
    · exact .inr (.inl outside)
  · rcases mem_cons.mp sameName with same | outside
    · rcases registers with ⟨node, found, -⟩
      have here : inner.typeName = type.typeName := same
      rw [<- here] at found
      exact .inl ⟨node, found, .inr (grows.conflicts recorded)⟩
    · exact .inr (.inr ⟨outside, grows.conflicts recorded⟩)

/-- What a step leaves behind: a session at rest, in which the types at some places are known
and some names lead somewhere. -/
structure Settles (sess : Session) (active : List (String × Descriptor)) (named : String -> Prop)
    (cut : Descriptor -> Prop) (places : List Place) (targets : List String) : Prop where
  rests : sess.Rests active named cut
  known : ∀ place ∈ places, place.Open cut -> sess.Knows active place.type
  led : ∀ target ∈ targets, sess.Leads active named target

theorem schemas_subset_ownDefinitions (mem : defn ∈ type.ownDefinitions)
    (stated : defn.statuses? = some codes) (answers : codes.get? status = some resp) :
    resp.schemas ⊆ type.ownDefinitions.map Definition.name := by
  rcases ownDefinitions_cases mem with ⟨plain, -⟩ | ⟨name, variants, rfl, rfl⟩
  · rw [plain] at stated
    cases stated
  · rcases some.inj stated
    rw [StatusMap.get?_ofVariants] at answers
    rw [groupResponse_schemas answers]
    intro schema listed
    rcases mem_map.mp listed with ⟨error, kept, rfl⟩
    have ofVariant : error.definition name ∈
        (variants.map Variant.error).map (ErrorVariant.definition name) :=
      mem_map_of_mem (mem_filter.mp kept).1
    exact mem_map.mpr ⟨_, mem_append_left _ ofVariant, rfl⟩

theorem Rests.statusesKnown (rests : sess.Rests active named cut) : sess.table.StatusesKnown := by
  intro name codes found
  rcases rests.statuses name codes found with ⟨type, completed, defn, mem, rfl, stated⟩
  have own : ∀ name ∈ type.ownDefinitions.map Definition.name, sess.table.contains name = true := by
    intro name listed
    rcases mem_map.mp listed with ⟨other, own, rfl⟩
    rcases completed.2 other own with ⟨node, found, -⟩
    exact contains_iff_exists.mpr ⟨node, found⟩
  exact ⟨own _ (mem_map_of_mem mem), fun status resp answers schema inResponse =>
    own schema (schemas_subset_ownDefinitions mem stated answers inResponse)⟩

theorem Rests.offers_enterAll (rests : sess.Rests active named cut)
    (mem : defn ∈ type.ownDefinitions) :
    (type.ownDefinitions.foldl Table.enter sess.table).Offers defn := by
  rcases get?_enterAll_of_mem sess.table mem with
    ⟨node, found, itself | same | recorded⟩
  · exact ⟨node, found, .inl itself⟩
  · have source : ∃ other, ∃ known ∈ ownDefinitions other,
        known.name = defn.name /\ known.node = node := by
      rcases get?_enterAll_cases found with old | new
      · rcases rests.owned _ _ old with ⟨other, -, source⟩
        exact ⟨other, source⟩
      · exact ⟨type, new⟩
    rcases source with ⟨other, known, own, atName, rfl⟩
    exact ⟨_, found, .inl ((same_iff_eq_of_ownDefinitions own mem atName).mp same)⟩
  · exact ⟨node, found, .inr recorded⟩

theorem Rests.complete (rests : sess.Rests ((type.typeName, type) :: active) named cut)
    (isType : type.isType = true) (sound : type.OwnSound)
    (known : ∀ place ∈ type.innerPlaces, place.Open cut ->
      sess.Knows ((type.typeName, type) :: active) place.type)
    (led : ∀ defn ∈ type.ownDefinitions, ∀ target ∈ defn.node.references,
      target ∈ type.ownDefinitions.map Definition.name \/
        sess.Leads ((type.typeName, type) :: active) named target)
    (table : post.table = type.ownDefinitions.foldl Table.enter sess.table)
    (memo : post.memo = (sess.remember type.typeName type).memo) :
    post.Settles active named cut type.places [type.typeName] := by
  have grows : sess.table.Grows post.table := by
    rw [table]
    exact Grows.enterAll sess.table type.ownDefinitions
  have completed : post.table.Completed type := by
    rw [table]
    exact ⟨sound, fun defn mem => rests.offers_enterAll mem⟩
  have registers : post.table.Registers type := by
    rcases exists_own_body isType with ⟨defn, mem, itsName, itsNode⟩
    have offers := completed.2 defn mem
    rwa [Offers, itsName, itsNode] at offers
  have places : ∀ place ∈ type.places, place.Open cut -> post.Knows active place.type := by
    refine (forall_mem_places isType).mpr ⟨?_, ?_⟩
    · intro _
      exact .inl registers
    · intro place mem isOpen
      exact (known place mem isOpen.of_within.2).complete grows registers
  refine ⟨⟨?memo, ?owned, ?references, ?codes⟩, places, ?led⟩
  case memo =>
    intro name desc found
    rw [memo, Session.get?_memo_remember] at found
    rcases or_eq_some_iff.mp found with old | ⟨-, new⟩
    · rcases rests.memo name desc old with ⟨registered, inner⟩
      exact ⟨grows.contains registered, fun place mem isOpen =>
        (inner place mem isOpen).complete grows registers⟩
    · by_cases sameName : type.typeName = name
      · rw [if_pos sameName, some.injEq] at new
        rw [<- sameName, <- new]
        exact ⟨registers.contains, places⟩
      · rw [if_neg sameName] at new
        cases new
  case owned =>
    intro name node found
    rw [table] at found
    rcases get?_enterAll_cases found with old | ⟨defn, mem, same⟩
    · exact (rests.owned name node old).imp fun _ => And.imp_left (·.grow grows)
    · exact ⟨type, completed, defn, mem, same⟩
  case references =>
    intro name node found target referred
    rw [table] at found
    rcases get?_enterAll_cases found with old | ⟨defn, mem, -, rfl⟩
    · exact (rests.references name node old target referred).complete grows registers.contains
    · rcases led defn mem target referred with ofType | leads
      · rcases mem_map.mp ofType with ⟨other, own, rfl⟩
        rcases completed.2 other own with ⟨node, found, -⟩
        exact .inl (contains_iff_exists.mpr ⟨node, found⟩)
      · exact leads.complete grows registers.contains
  case codes =>
    intro name codes found
    rw [table] at found
    rcases statusMap?_enterAll_cases found with old | ⟨defn, mem, same⟩
    · exact (rests.statuses name codes old).imp fun _ => And.imp_left (·.grow grows)
    · exact ⟨type, completed, defn, mem, same⟩
  case led => exact forall_mem_singleton.mpr (.inl registers.contains)
end Session

namespace Session
variable {sess post : Session} {active : List (String × Descriptor)} {named : String -> Prop}
  {cut : Descriptor -> Prop}

theorem Settles.append {places others : List Place}
    (settled : sess.Settles active named cut places targets) (grows : sess.table.Grows post.table)
    (next : post.Settles active named cut others more) :
    post.Settles active named cut (places ++ others) (targets ++ more) where
  rests := next.rests
  known := by
    intro place mem isOpen
    rcases mem_append.mp mem with earlier | later
    · exact (settled.known place earlier isOpen).grow grows
    · exact next.known place later isOpen
  led := by
    intro target mem
    rcases mem_append.mp mem with earlier | later
    · exact (settled.led target earlier).grow grows
    · exact next.led target later

theorem Rests.settles_nothing (rests : sess.Rests active named cut) :
    sess.Settles active named cut [] [] where
  rests := rests
  known := nofun
  led := nofun
end Session

namespace Synthesis.Part
def places : Part -> List Place
  | .type desc => desc.places
  | .fields listed => fieldPlaces listed
  | .variants _ listed => variantPlaces listed

def namedTypes : Part -> List String
  | .type desc => desc.namedTypes
  | .fields listed => fieldNamedTypes listed
  | .variants _ listed => variantNamedTypes listed

def references : Part -> List String
  | .type desc => desc.shape.references
  | .fields listed => Node.fieldReferences (listed.map Field.member)
  | .variants _ listed =>
    (listed.map Variant.error).flatMap fun error => Node.fieldReferences error.fields

theorem places_content (type : Descriptor) : (content type).places = type.innerPlaces := by
  cases type <;> rfl

theorem namedTypes_content (isType : type.isType = true) :
    (content type).namedTypes = type.namedTypes := by
  cases type with
  | struct => rfl
  | union => rfl
  | _ => cases isType

theorem references_of_own {type : Descriptor} {defn : Definition}
    (mem : defn ∈ type.ownDefinitions) {target : String} (referred : target ∈ defn.node.references) :
    target ∈ type.ownDefinitions.map Definition.name \/ target ∈ (content type).references := by
  cases type with
  | struct name fields about =>
    rw [mem_singleton.mp mem] at referred
    exact .inr referred
  | union name variants =>
    rcases mem_append.mp mem with ofVariant | itself
    · rcases mem_map.mp ofVariant with ⟨error, listed, rfl⟩
      exact .inr (mem_flatMap.mpr ⟨error, listed, referred⟩)
    · rw [mem_singleton.mp itself] at referred
      rcases mem_map.mp referred with ⟨error, listed, rfl⟩
      have own := mem_append_left [unionDefinition name (variants.map Variant.error)]
        (mem_map_of_mem (f := ErrorVariant.definition name) listed)
      exact .inl (mem_map.mpr ⟨_, own, rfl⟩)
  | _ => cases mem

theorem references_of_isType (isType : type.isType = true) :
    (Part.type type).references = [type.typeName] := by
  cases type with
  | struct => rfl
  | union => rfl
  | _ => cases isType
end Synthesis.Part

theorem Node.references_stripOptional (node : Node) :
    node.stripOptional.references = node.references := by
  cases node <;> rfl

section
variable {cut : Descriptor -> Prop} {active : List (String × Descriptor)} {places others : List Place}

/-- A type that has the name of a type around it, in its descriptor or under construction, is
among those that are left out. -/
def Guarded (cut : Descriptor -> Prop) (active : List (String × Descriptor)) (places : List Place) :
    Prop :=
  ∀ place ∈ places, place.type.typeName ∈ active.map Prod.fst ++ place.around.map typeName ->
      cut place.type

theorem Guarded.inner {type : Descriptor} (isType : type.isType = true) (guarded : Guarded cut active type.places) :
    Guarded cut ((type.typeName, type) :: active) type.innerPlaces := by
  intro place mem sameName
  refine ((forall_mem_places isType).mp guarded).2 place mem ?_
  rw [map_cons, cons_append] at sameName
  rw [Place.within, map_cons]
  rcases mem_cons.mp sameName with ofType | other
  · exact mem_append_right _ (mem_cons.mpr (.inl ofType))
  · rcases mem_append.mp other with underConstruction | around
    · exact mem_append_left _ underConstruction
    · exact mem_append_right _ (.tail _ around)

theorem Guarded.left (guarded : Guarded cut active (places ++ others)) : Guarded cut active places :=
  fun place mem => guarded place (mem_append_left _ mem)

theorem Guarded.right (guarded : Guarded cut active (places ++ others)) : Guarded cut active others :=
  fun place mem => guarded place (mem_append_right _ mem)
end

namespace Synthesis
variable {pre post : Session} {active : List (String × Descriptor)} {named : String -> Prop}
  {cut : Descriptor -> Prop}

/-- Inside a type of the same name a type is left out, with everything inside it; its name
leads to the type around it. -/
theorem settles_inside {type outer : Descriptor} (rests : pre.Rests active named cut)
    (isType : type.isType = true) (guarded : Guarded cut active type.places)
    (around : active.lookup type.typeName = some outer)
    (last : post = if outer = type then pre else pre.conflicted type.typeName .nestedShape) :
    post.Settles active named cut type.places [type.typeName] := by
  have present : (type.typeName, outer) ∈ active := by
    rcases lookup_eq_some_iff.mp around with ⟨closer, farther, split, -⟩
    rw [split]
    exact mem_append_right _ (.head _)
  have sameName := mem_map_of_mem (f := Prod.fst) present
  have leftOut : cut type := ((forall_mem_places isType).mp guarded).1 (mem_append_left _ sameName)
  refine ⟨?rests, (forall_mem_places isType).mpr ⟨fun _ => ?itself, ?inner⟩, ?led⟩
  case rests =>
    rw [last]
    split
    · exact rests
    · exact rests.conflicted _ _
  case itself =>
    by_cases same : outer = type
    · rw [same] at present
      exact .inr (.inl present)
    · rw [last, if_neg same]
      refine .inr (.inr ⟨sameName, ?_⟩)
      exact (pre.table.mem_conflicts_recordConflict type.typeName _).mpr (.inr rfl)
  case inner =>
    intro place mem isOpen
    exact absurd leftOut isOpen.of_within.1
  case led => exact forall_mem_singleton.mpr (.inr (.inl sameName))

theorem settles_remembered (type : Descriptor) (rests : pre.Rests active named cut)
    (found : pre.memo.get? type.typeName = some type) :
    pre.Settles active named cut type.places [type.typeName] where
  rests := rests
  known := (rests.memo _ _ found).2
  led := forall_mem_singleton.mpr (.inl (rests.memo _ _ found).1)

theorem Runs.settles (runs : Runs active part pre post) (rests : pre.Rests active named cut)
    (guarded : Guarded cut active part.places) (elsewhere : ∀ name ∈ part.namedTypes, named name) :
    post.Settles active named cut part.places part.references := by
  induction runs with
  | primitive | noFields | noVariants => exact rests.settles_nothing
  | named => exact ⟨rests, nofun, fun target referred => .inr (.inr (elsewhere target referred))⟩
  | @optional _ inner _ _ _ ih | @sequence _ inner _ _ _ ih =>
    have settled := ih rests guarded elsewhere
    rw [Part.references, <- Node.references_stripOptional inner.shape] at settled
    exact settled
  | inside isType around =>
    rw [Part.references_of_isType isType]
    exact settles_inside rests isType guarded around rfl
  | remembered isType found =>
    rw [Part.references_of_isType isType]
    exact settles_remembered _ rests found
  | built isType _ _ sound _ table memo ih =>
    rw [Part.places_content, Part.namedTypes_content isType] at ih
    have inner := ih (rests.enter _) (guarded.inner isType) elsewhere
    rw [Part.references_of_isType isType]
    refine inner.rests.complete isType sound inner.known ?_ table memo
    exact fun defn mem target referred =>
      (Part.references_of_own mem referred).imp_right (inner.led target)
  | @field _ _ type optional _ _ _ _ _ remaining here later =>
    have first := here rests guarded.left (forall_mem_append.mp elsewhere).1
    have both := first.append remaining.grows
      (later first.rests guarded.right (forall_mem_append.mp elsewhere).2)
    have marked : (if optional && !type.shape.isOptional then Node.optional type.shape
        else type.shape).references = type.shape.references := by
      split <;> rfl
    rw [Part.references, <- marked] at both
    exact both
  | variant _ remaining here later =>
    have first := here (rests.noted _ _) guarded.left (forall_mem_append.mp elsewhere).1
    exact first.append remaining.grows
      (later first.rests guarded.right (forall_mem_append.mp elsewhere).2)
end Synthesis
end RouteDocs.Schema
