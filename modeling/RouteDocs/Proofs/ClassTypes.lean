import RouteDocs.Class.Description
import RouteDocs.Proofs.Definitions
import RouteDocs.Proofs.Steps

namespace RouteDocs.Class
open Schema

/-!
# The types of a class

The type of a hint is one primitive or class in wrappers, so what a class defines depends on the
classes in its hints by their shapes alone. `Depicts` says that a descriptor is put together from
the hints of a class and from some descriptors of the classes in them.
-/

inductive Subject where
  | builtin (class_ : Builtin)
  | declared (number : Nat)
deriving DecidableEq

inductive Leaf where
  | primitive (name : String)
  | subject (class_ : Subject)
deriving DecidableEq

inductive Wrapper where
  | optional
  | sequence
deriving DecidableEq

namespace Wrapper
def wrap : Wrapper -> Descriptor -> Descriptor
  | optional, inner => .optional inner
  | sequence, inner => .sequence inner

def wrapAll (wrappers : List Wrapper) (inner : Descriptor) : Descriptor := wrappers.foldr wrap inner

theorem types_wrapAll (wrappers : List Wrapper) (inner : Descriptor) :
    (wrapAll wrappers inner).types = inner.types := by
  induction wrappers with
  | nil => rfl
  | cons wrapper rest ih =>
    rw [<- ih]
    cases wrapper <;> rfl

theorem shape_wrapAll_congr (wrappers : List Wrapper) (same : first.shape = second.shape) :
    (wrapAll wrappers first).shape = (wrapAll wrappers second).shape := by
  induction wrappers with
  | nil => exact same
  | cons wrapper rest ih =>
    cases wrapper with
    | optional => exact congrArg (fun node => Node.optional node.stripOptional) ih
    | sequence => exact congrArg (fun node => Node.array node.stripOptional) ih

/-- Up to a mark on the outside, wrappers show the shape of what is in them. -/
theorem stripOptional_shape_of_wrapAll (wrappers : List Wrapper)
    (same : (wrapAll wrappers first).shape.stripOptional =
      (wrapAll wrappers second).shape.stripOptional) :
    first.shape.stripOptional = second.shape.stripOptional := by
  induction wrappers with
  | nil => exact same
  | cons wrapper rest ih =>
    apply ih
    cases wrapper with
    | optional => exact same
    | sequence => exact Node.array.inj same
end Wrapper

/-- The wrappers of a hint and what is in them; nothing for what is no type. -/
def Hint.reading? : Hint -> Option (List Wrapper × Leaf)
  | .builtin class_ =>
    match class_.primitive? with
    | some name => some ([], .primitive name)
    | none => some ([], .subject (.builtin class_))
  | .declared number _ => some ([], .subject (.declared number))
  | .generic _ (item :: _) | .formOf _ (item :: _) =>
    item.reading?.map fun (wrappers, leaf) => (.sequence :: wrappers, leaf)
  | .union [first, second] | .bars [first, second] =>
    (if first.isNone then second.reading? else first.reading?).map fun (wrappers, leaf) =>
      (.optional :: wrappers, leaf)
  | _ => none

/-- What is described in the place of a leaf, given how classes can be described. -/
def Leaf.Stands (describes : Subject -> Descriptor -> Prop) : Leaf -> Descriptor -> Prop
  | .primitive name, type => type = .primitive name
  | .subject class_, type => describes class_ type

def Hint.Denotes (describes : Subject -> Descriptor -> Prop) (hint : Hint) (type : Descriptor) : Prop :=
  ∃ wrappers leaf inner, hint.reading? = some (wrappers, leaf) /\ leaf.Stands describes inner /\
    type = Wrapper.wrapAll wrappers inner

section
variable {kept : Memory -> Prop} {describe : Nat -> Describing Descriptor} {hint : Hint}
  {type : Descriptor} {pre post : Memory}

/-- The descriptors that classes are given in states of memory that are kept to. -/
def Given (kept : Memory -> Prop) (describe : Nat -> Describing Descriptor) :
    Subject -> Descriptor -> Prop
  | .builtin class_, type => builtinDescriptor class_ = .ok type
  | .declared number, type => ∃ pre post, kept pre /\ Yields (describe number) pre type post

structure Hint.Wraps (wrapper : Wrapper) (inner outer : Hint) : Prop where
  smaller : sizeOf inner < sizeOf outer
  reads : outer.reading? = inner.reading?.map fun (wrappers, leaf) => (wrapper :: wrappers, leaf)

theorem Hint.Denotes.wrap {inner : Hint} (denotes : inner.Denotes describes type)
    (wraps : Wraps wrapper inner outer) : outer.Denotes describes (wrapper.wrap type) := by
  rcases denotes with ⟨wrappers, leaf, desc, found, stands, rfl⟩
  refine ⟨wrapper :: wrappers, leaf, desc, ?_, stands, rfl⟩
  rw [wraps.reads, found]
  rfl

theorem unionType_cases (yields : Yields (unionType describe owner shown members) pre type post) :
    ∃ first second inner, members = [first, second] /\ type = .optional inner /\
      Yields (typeOf describe owner (if first.isNone then second else first)) pre inner post := by
  match members with
  | [first, second] =>
    rw [unionType] at yields
    by_cases none : first.isNone = true
    · rw [if_pos none] at yields
      obtain ⟨inner, found, rfl⟩ := yields_map.mp yields
      refine ⟨first, second, inner, rfl, rfl, ?_⟩
      rw [if_pos none]
      exact found
    · rw [if_neg none] at yields
      split at yields
      · obtain ⟨inner, found, rfl⟩ := yields_map.mp yields
        refine ⟨first, second, inner, rfl, rfl, ?_⟩
        rw [if_neg none]
        exact found
      · exact absurd yields yields_throw.mp
  | [] | [_] | _ :: _ :: _ :: _ =>
    rw [unionType] at yields
    · exact absurd yields yields_throw.mp
    all_goals simp

theorem typeOf_cases (yields : Yields (typeOf describe owner hint) pre type post) :
    (∃ name, hint.reading? = some ([], .primitive name) /\ type = .primitive name /\ post = pre) \/
      (∃ class_, hint.reading? = some ([], .subject (.builtin class_)) /\
        builtinDescriptor class_ = .ok type /\ post = pre) \/
      (∃ number, hint.reading? = some ([], .subject (.declared number)) /\
        Yields (describe number) pre type post) \/
      ∃ wrapper inner content, Hint.Wraps wrapper inner hint /\ type = wrapper.wrap content /\
        Yields (typeOf describe owner inner) pre content post := by
  cases hint with
  | builtin class_ =>
    rw [typeOf] at yields
    cases known : class_.primitive? with
    | some name =>
      simp only [known, yields_pure] at yields
      exact .inl ⟨name, by rw [Hint.reading?, known], yields⟩
    | none =>
      simp only [known] at yields
      split at yields
      · exact absurd yields yields_throw.mp
      · cases described : builtinDescriptor class_ with
        | error fault =>
          rw [described] at yields
          exact absurd yields yields_throw.mp
        | ok desc =>
          rw [described] at yields
          obtain ⟨rfl, rfl⟩ := yields_pure.mp yields
          exact .inr (.inl ⟨class_, by rw [Hint.reading?, known], described, rfl⟩)
  | declared number name =>
    rw [typeOf] at yields
    exact .inr (.inr (.inl ⟨number, by rw [Hint.reading?], yields⟩))
  | generic class_ arguments | formOf class_ arguments =>
    unfold typeOf at yields
    split at yields
    · exact absurd yields yields_throw.mp
    split at yields
    · cases arguments with
      | nil => exact absurd yields yields_throw.mp
      | cons item rest =>
        obtain ⟨content, found, rfl⟩ := yields_map.mp yields
        refine .inr (.inr (.inr ⟨.sequence, item, content, ⟨?_, ?_⟩, rfl, found⟩))
        · simp +arith
        · rw [Hint.reading?]
    · exact absurd yields yields_throw.mp
  | union members =>
    unfold typeOf at yields
    obtain ⟨first, second, content, rfl, rfl, found⟩ := unionType_cases yields
    refine .inr (.inr (.inr ⟨.optional, _, content, ⟨?_, ?_⟩, rfl, found⟩))
    · split <;> simp +arith
    · rw [Hint.reading?, apply_ite Hint.reading?]
  | bars members =>
    unfold typeOf at yields
    split at yields
    · exact absurd yields yields_throw.mp
    · obtain ⟨first, second, content, rfl, rfl, found⟩ := unionType_cases yields
      refine .inr (.inr (.inr ⟨.optional, _, content, ⟨?_, ?_⟩, rfl, found⟩))
      · split <;> simp +arith
      · rw [Hint.reading?, apply_ite Hint.reading?]
  | _ =>
    -- Everything else is refused, for one reason or another.
    unfold typeOf at yields
    repeat' split at yields
    all_goals exact absurd yields yields_throw.mp

/-- The type that is found for a hint is put together from it, and memory is as it is kept
afterwards, if it is after the class in the hint has been described. -/
theorem typeOf_denotes
    (keeps : ∀ wrappers number, hint.reading? = some (wrappers, .subject (.declared number)) ->
      ∀ pre desc post, kept pre -> Yields (describe number) pre desc post ->
        kept post) (held : kept pre) (yields : Yields (typeOf describe owner hint) pre type post) :
    kept post /\ hint.Denotes (Given kept describe) type := by
  induction size : sizeOf hint using Nat.strongRecOn generalizing hint type with
  | _ size ih =>
    rcases typeOf_cases yields with ⟨name, reads, rfl, rfl⟩ | ⟨class_, reads, described, rfl⟩ |
      ⟨number, reads, described⟩ | ⟨wrapper, inner, content, wraps, rfl, found⟩
    · exact ⟨held, [], .primitive name, _, reads, rfl, rfl⟩
    · exact ⟨held, [], .subject (.builtin class_), type, reads, described, rfl⟩
    · exact ⟨keeps [] number reads pre type post held described, [], .subject (.declared number),
        type, reads, ⟨pre, post, held, described⟩, rfl⟩
    · have keepsInside : ∀ wrappers number,
          inner.reading? = some (wrappers, .subject (.declared number)) ->
            ∀ pre desc post, kept pre -> Yields (describe number) pre desc post -> kept post := by
        intro wrappers number reads
        apply keeps (wrapper :: wrappers) number
        rw [wraps.reads, reads]
        rfl
      obtain ⟨stillHeld, denotes⟩ := ih _ (size ▸ wraps.smaller) keepsInside found rfl
      exact ⟨stillHeld, denotes.wrap wraps⟩
end

namespace Catalog
def declared? (cat : Catalog) (number : Nat) : Option Profile :=
  if number < madeBase then cat.profiles[number]? else none

variable {cat : Catalog}

theorem get?_of_declared {number : Nat} {profile : Profile}
    (declared : cat.declared? number = some profile) (memory : Memory) :
    cat.get? memory number = some profile := by
  unfold declared? at declared
  unfold get?
  split
  · rw [if_pos ‹_›] at declared
    exact declared
  · rw [if_neg ‹_›] at declared
    cases declared

/-- The hints of declared classes are resolved to the same every time, as long as memory is
as it is kept; and it is kept. -/
def Resolves (cat : Catalog) (kept : Memory -> Prop) (hints : Nat -> List FieldHint) : Prop :=
  ∀ number profile memory found post, cat.declared? number = some profile -> kept memory ->
    Yields profile.fields memory found post -> found = hints number /\ kept post

def hintsOf (cat : Catalog) (hints : Nat -> List FieldHint) (number : Nat) : List FieldHint :=
  match cat.declared? number with
  | none => []
  | some profile =>
    if profile.isErrorUnion then
      profile.variants.flatMap fun
        | .declared variant => hints variant
        | .object => []
    else hints number

def Mentions (cat : Catalog) (hints : Nat -> List FieldHint) (number : Nat)
    (subject : Subject) : Prop :=
  ∃ field ∈ cat.hintsOf hints number, ∃ wrappers,
    field.hint.reading? = some (wrappers, .subject subject)

def mentioned (cat : Catalog) (hints : Nat -> List FieldHint) (number : Nat) : List Subject :=
  (cat.hintsOf hints number).filterMap fun field =>
    match field.hint.reading? with
    | some (_, .subject subject) => some subject
    | _ => none

theorem mentions_iff {number : Nat} :
    cat.Mentions hints number subject ↔ subject ∈ cat.mentioned hints number := by
  unfold Mentions mentioned
  rw [List.mem_filterMap]
  refine exists_congr fun field => and_congr_right fun _ => ?_
  cases field.hint.reading? with
  | none => simp
  | some reading =>
    obtain ⟨wrappers, primitive | given⟩ := reading
    · simp
    · simp
end Catalog

section
variable {cat : Catalog} {hints : Nat -> List FieldHint}

structure FieldHint.Depicts (describes : Subject -> Descriptor -> Prop) (hint : FieldHint)
    (field : Field) : Prop where
  name : field.name = hint.name
  optional : field.optional = hint.isOptional
  type : hint.hint.Denotes describes field.type

def VariantClass.Depicts (cat : Catalog) (hints : Nat -> List FieldHint)
    (describes : Subject -> Descriptor -> Prop) : VariantClass -> Variant -> Prop
  | .object, variant => variant = ⟨Builtin.object.name, [], objectDoc⟩
  | .declared number, variant =>
    ∃ profile, cat.declared? number = some profile /\ variant.name = profile.name /\
      profile.doc? = some variant.doc /\
      List.Forall₂ (FieldHint.Depicts describes) (hints number) variant.fields

inductive Catalog.Depicts (cat : Catalog) (hints : Nat -> List FieldHint)
    (describes : Subject -> Descriptor -> Prop) (number : Nat) : Descriptor -> Prop where
  | struct {profile : Profile} {fields : List Field} {doc : String}
      (declared : cat.declared? number = some profile) (isStruct : profile.isErrorUnion = false)
      (documented : profile.doc? = some doc)
      (depicted : List.Forall₂ (FieldHint.Depicts describes) (hints number) fields) :
      Depicts cat hints describes number
        (.struct profile.name fields (String.ofList (firstParagraph doc.toList)))
  | union {profile : Profile} {variants : List Variant}
      (declared : cat.declared? number = some profile) (isUnion : profile.isErrorUnion = true)
      (depicted : List.Forall₂ (VariantClass.Depicts cat hints describes)
        profile.variants variants) :
      Depicts cat hints describes number (.union profile.name variants)

variable {kept : Memory -> Prop} {describe : Nat -> Describing Descriptor} {profile : Profile}
  {pre post : Memory}

def Keeps (kept : Memory -> Prop) (describe : Nat -> Describing Descriptor) (number : Nat) : Prop :=
  ∀ pre type post, kept pre -> Yields (describe number) pre type post -> kept post

theorem fieldsOf_depicts (resolves : cat.Resolves kept hints) {number : Nat}
    (declared : cat.declared? number = some profile)
    (keeps : ∀ field ∈ hints number, ∀ wrappers other,
      field.hint.reading? = some (wrappers, .subject (.declared other)) -> Keeps kept describe other)
    (held : kept pre) (yields : Yields (fieldsOf describe profile) pre fields post) :
    kept post /\ List.Forall₂ (FieldHint.Depicts (Given kept describe)) (hints number) fields := by
  obtain ⟨found, mid, resolved, yields⟩ := yields_bind.mp yields
  obtain ⟨rfl, stillHeld⟩ := resolves number profile pre found mid declared held resolved
  refine forall₂_of_mapM (fun field mem state value next stateHeld step => ?_) stillHeld yields
  obtain ⟨type, typed, rfl⟩ := yields_bind_pure.mp step
  obtain ⟨nextHeld, denotes⟩ := typeOf_denotes (keeps field mem) stateHeld typed
  exact ⟨nextHeld, rfl, rfl, denotes⟩

theorem docOf_of_yields (yields : Yields (docOf profile) pre doc post) :
    profile.doc? = some doc /\ post = pre := by
  unfold docOf at yields
  cases said : profile.doc? with
  | none =>
    rw [said] at yields
    exact absurd yields yields_throw.mp
  | some text =>
    rw [said] at yields
    obtain ⟨rfl, rfl⟩ := yields_pure.mp yields
    exact ⟨rfl, rfl⟩

theorem variantOf_depicts (resolves : cat.Resolves kept hints)
    (declared : ∀ number, variantClass = .declared number ->
      ∃ profile, cat.declared? number = some profile)
    (keeps : ∀ number, variantClass = .declared number -> ∀ field ∈ hints number,
      ∀ wrappers other, field.hint.reading? = some (wrappers, .subject (.declared other)) ->
        Keeps kept describe other) (held : kept pre)
    (yields : Yields (variantOf cat describe variantClass) pre variant post) :
    kept post /\ variantClass.Depicts cat hints (Given kept describe) variant := by
  cases variantClass with
  | object =>
    obtain ⟨rfl, rfl⟩ := yields_pure.mp yields
    exact ⟨held, rfl⟩
  | declared number =>
    obtain ⟨profile, known⟩ := declared number rfl
    unfold variantOf at yields
    rw [yields_get_bind, Catalog.get?_of_declared known] at yields
    obtain ⟨fields, mid, described, yields⟩ := yields_bind.mp yields
    obtain ⟨doc, documented, rfl⟩ := yields_bind_pure.mp yields
    obtain ⟨said, rfl⟩ := docOf_of_yields documented
    obtain ⟨stillHeld, depicted⟩ := fieldsOf_depicts resolves known (keeps number rfl) held described
    exact ⟨stillHeld, profile, known, rfl, said, depicted⟩

theorem describeWith_depicts (resolves : cat.Resolves kept hints) {number : Nat}
    (declared : cat.declared? number = some profile)
    (variants : ∀ variant, .declared variant ∈ profile.variants ->
      ∃ profile, cat.declared? variant = some profile)
    (keeps : ∀ other, cat.Mentions hints number (.declared other) -> Keeps kept describe other)
    (held : kept pre) (yields : Yields (describeWith cat describe profile) pre type post) :
    kept post /\ cat.Depicts hints (Given kept describe) number type := by
  unfold describeWith at yields
  cases isUnion : profile.isErrorUnion with
  | true =>
    have mentions : ∀ variant, .declared variant ∈ profile.variants -> ∀ field ∈ hints variant,
        field ∈ cat.hintsOf hints number := by
      intro variant listed field mem
      unfold Catalog.hintsOf
      rw [declared]
      simp only [isUnion, if_true]
      exact List.mem_flatMap.mpr ⟨.declared variant, listed, mem⟩
    rw [if_pos isUnion] at yields
    obtain ⟨found, described, rfl⟩ := yields_bind_pure.mp yields
    obtain ⟨stillHeld, depicted⟩ := forall₂_of_mapM (fun variantClass listed state value next
        stateHeld step => variantOf_depicts resolves
          (fun variant same => variants variant (same ▸ listed))
          (fun variant same field mem wrappers other reads =>
            keeps other ⟨field, mentions variant (same ▸ listed) field mem, wrappers, reads⟩)
          stateHeld step) held described
    exact ⟨stillHeld, .union declared isUnion depicted⟩
  | false =>
    have mentions : cat.hintsOf hints number = hints number := by
      unfold Catalog.hintsOf
      rw [declared]
      simp only [isUnion, Bool.false_eq_true, if_false]
    rw [isUnion, if_neg Bool.false_ne_true] at yields
    obtain ⟨fields, mid, described, yields⟩ := yields_bind.mp yields
    obtain ⟨doc, documented, rfl⟩ := yields_bind_pure.mp yields
    obtain ⟨said, rfl⟩ := docOf_of_yields documented
    obtain ⟨stillHeld, depicted⟩ := fieldsOf_depicts resolves declared
      (fun field mem wrappers other reads =>
        keeps other ⟨field, mentions ▸ mem, wrappers, reads⟩) held described
    exact ⟨stillHeld, .struct declared isUnion said depicted⟩
end
end RouteDocs.Class
