import Mathlib.Logic.Relation
import RouteDocs.Proofs.ClassOutlines

namespace RouteDocs.Class
open List Schema

/-!
# Classes that stand inside each other

A class in a hint is described where it stands, and only named inside itself. A union is referred
to as a union if it is described, and as something with a name if it stands around. `Stated` says
what a class defines with certain classes around it, and `describeClass_described` finds such a
statement for every type in a description.
-/

namespace Catalog
variable (cat : Catalog) (hints : Nat -> List FieldHint)

def Leads (number other : Nat) : Prop := cat.Mentions hints number (.declared other) /\
    ∃ profile, cat.declared? other = some profile /\ profile.isEnum = false

/-- A class is found from another one by steps that never come back to a class before them or
to one of those around. -/
inductive Finds : List Nat -> Nat -> Nat -> Prop where
  | here {around : List Nat} {number : Nat} (free : number ∉ around) : Finds around number number
  | step {around : List Nat} {number next target : Nat} (free : number ∉ around)
      (leads : cat.Leads hints number next) (later : Finds (number :: around) next target) :
      Finds around number target

variable {cat hints} {around : List Nat} {number target : Nat}

theorem Finds.free (finds : cat.Finds hints around number target) : number ∉ around := by
  cases finds with
  | here free => exact free
  | step free => exact free

theorem Finds.mono (finds : cat.Finds hints around number target) (sub : fewer ⊆ around) :
    cat.Finds hints fewer number target := by
  induction finds generalizing fewer with
  | here free => exact .here fun mem => free (sub mem)
  | step free leads _ ih =>
    exact .step (fun mem => free (sub mem)) leads (ih (cons_subset_cons _ sub))

theorem Finds.insert (finds : cat.Finds hints around number target) (free : other ∉ around) :
    cat.Finds hints (other :: around) number target \/ cat.Finds hints around other target := by
  induction finds with
  | @here around number here =>
    by_cases same : number = other
    · rw [same]
      exact .inr (.here free)
    · exact .inl (.here (not_mem_cons_of_ne_of_not_mem same here))
  | @step around number next target here leads later ih =>
    by_cases same : number = other
    · rw [<- same]
      exact .inr (.step here leads later)
    · have freeInside : other ∉ number :: around :=
        not_mem_cons_of_ne_of_not_mem (fun equal => same equal.symm) free
      rcases ih freeInside with without | anew
      · refine .inl (.step (not_mem_cons_of_ne_of_not_mem same here) leads (without.mono ?_))
        intro class_ mem
        rcases mem_cons.mp mem with rfl | rest
        · exact .tail _ (.head _)
        · rcases mem_cons.mp rest with rfl | old
          · exact .head _
          · exact .tail _ (.tail _ old)
      · exact .inr (anew.mono (subset_cons_self _ _))

theorem finds_of_reaches (reaches : Relation.ReflTransGen (cat.Leads hints) number target) :
    cat.Finds hints [] number target := by
  induction reaches using Relation.ReflTransGen.head_induction_on with
  | refl => exact .here not_mem_nil
  | head leads _ ih =>
    rcases ih.insert not_mem_nil with without | anew
    · exact .step not_mem_nil leads without
    · exact anew
end Catalog

namespace Catalog

/-- What a class is described as inside of others, as far as its shape goes: a union that
stands around is only named. -/
def standIn (cat : Catalog) (around : List Nat) : Subject -> Descriptor
  | .builtin class_ => .named class_.name
  | .declared number =>
    match cat.declared? number with
    | none => .named ""
    | some profile =>
      if profile.isEnum then .primitive "str"
      else if profile.isErrorUnion && number ∉ around then .union profile.name []
      else .named profile.name

def nameOf (cat : Catalog) : Subject -> String
  | .builtin class_ => class_.name
  | .declared number => ((cat.declared? number).map Profile.name).getD ""

def statement (cat : Catalog) (hints : Nat -> List FieldHint) (around : List Nat) :
    Subject -> Descriptor
  | .builtin class_ => .struct class_.name [] (class_.description?.getD "")
  | .declared number => cat.outline hints (cat.standIn (number :: around)) number

structure Stated (cat : Catalog) (hints : Nat -> List FieldHint) (around : List Nat)
    (subject : Subject) (type : Descriptor) : Prop where
  isType : type.isType = true
  named : type.typeName = cat.nameOf subject
  defines : type.ownDefinitions = (cat.statement hints around subject).ownDefinitions

/-- Some classes with everything that is referred to in their hints, which are resolved to
the same every time. -/
structure Settled (cat : Catalog) (kept : Memory -> Prop) (hints : Nat -> List FieldHint)
    (known : Subject -> Prop) : Prop where
  resolves : cat.Resolves kept hints
  declared : ∀ number, known (.declared number) -> ∃ profile, cat.declared? number = some profile
  variants : ∀ number profile, known (.declared number) ->
    cat.declared? number = some profile -> ∀ variant, .declared variant ∈ profile.variants ->
      ∃ profile, cat.declared? variant = some profile
  mentioned : ∀ number other, known (.declared number) ->
    cat.Mentions hints number (.declared other) -> ∃ profile, cat.declared? other = some profile /\
        (profile.isEnum = false -> known (.declared other))
  builtin : ∀ number class_, known (.declared number) ->
    cat.Mentions hints number (.builtin class_) -> known (.builtin class_)

def NamesDiffer (cat : Catalog) (known : Subject -> Prop) : Prop :=
  ∀ first second, known first -> known second -> cat.nameOf first = cat.nameOf second -> first = second
end Catalog

section
variable {cat : Catalog} {kept : Memory -> Prop} {hints : Nat -> List FieldHint}
  {known : Subject -> Prop} {desc : Descriptor} {number : Nat} {profile : Profile}
  {around : List Nat}

/-- Every one of some types is what a class is described as, inside of classes that lead to
it, with certain classes among them. -/
def AllStated (cat : Catalog) (hints : Nat -> List FieldHint) (known : Subject -> Prop)
    (around : List Nat) (types : List Descriptor) : Prop :=
  ∀ type ∈ types, ∃ subject more, around ⊆ more /\ known subject /\
    cat.Stated hints more subject type /\
    ∀ outer ∈ more, subject ≠ .declared outer /\
      ∀ number, subject = .declared number -> Relation.TransGen (cat.Leads hints) outer number

structure DescribedInside (cat : Catalog) (hints : Nat -> List FieldHint)
    (known : Subject -> Prop) (around : List Nat) (number : Nat) (desc : Descriptor) : Prop where
  stated : AllStated cat hints known around desc.types
  unnested : NoneNested desc.types
  finds : ∀ target, cat.Finds hints around number target ->
    ∃ type ∈ desc.types, ∃ more, around ⊆ more /\ (target = number \/ number ∈ more) /\
      cat.Stated hints more (.declared target) type

/-- What a class in a hint comes to. Enumerations and classes that stand around are not
described. -/
structure Placed (cat : Catalog) (hints : Nat -> List FieldHint) (known : Subject -> Prop)
    (around : List Nat) (number : Nat) (desc : Descriptor) : Prop where
  shape : desc.shape = (cat.standIn around (.declared number)).shape
  described : DescribedInside cat hints known around number desc \/
    desc.types = [] /\ (number ∈ around \/
      ∃ profile, cat.declared? number = some profile /\ profile.isEnum = true)

theorem builtinDescriptor_eq (described : builtinDescriptor class_ = .ok desc) :
    desc = .struct class_.name [] (class_.description?.getD "") := by
  unfold builtinDescriptor at described
  cases said : class_.description? with
  | none =>
    rw [said] at described
    cases described
  | some about =>
    rw [said] at described
    exact (Except.ok.inj described).symm

theorem stated_builtin (class_ : Builtin) (around : List Nat) :
    cat.Stated hints around (.builtin class_)
      (.struct class_.name [] (class_.description?.getD "")) :=
  ⟨rfl, rfl, rfl⟩

section
variable {around : List Nat} {number : Nat} {describe : Nat -> Describing Descriptor}
  {desc : Descriptor} {profile : Profile}

def PlacesInside (cat : Catalog) (kept : Memory -> Prop) (hints : Nat -> List FieldHint)
    (known : Subject -> Prop) (describe : Nat -> Describing Descriptor) (around : List Nat)
    (number : Nat) : Prop :=
  ∀ other, cat.Mentions hints number (.declared other) -> ∀ inner,
    Given kept describe (.declared other) inner ->
      Placed cat hints known (number :: around) other inner

theorem shape_of_given {inner : Descriptor} (places : PlacesInside cat kept hints known describe around number)
    (mentions : cat.Mentions hints number subject) (given : Given kept describe subject inner) :
    inner.shape = (cat.standIn (number :: around) subject).shape := by
  cases subject with
  | builtin class_ =>
    rw [builtinDescriptor_eq given]
    rfl
  | declared other => exact (places other mentions inner given).shape

theorem stated_inside (settled : cat.Settled kept hints known) (isKnown : known (.declared number))
    (places : PlacesInside cat kept hints known describe around number)
    (depicts : cat.Depicts hints (Given kept describe) number desc) :
    AllStated cat hints known (number :: around) desc.inside /\ NoneNested desc.inside := by
  have each : ∀ type ∈ desc.inside, ∃ inner : Descriptor, type ∈ inner.types /\
      AllStated cat hints known (number :: around) inner.types /\ NoneNested inner.types := by
    intro type mem
    obtain ⟨subject, inner, mentions, given, inType⟩ := depicts.subject_of_inside mem
    refine ⟨inner, inType, ?_⟩
    cases subject with
    | builtin class_ =>
      obtain rfl := builtinDescriptor_eq given
      exact ⟨forall_mem_singleton.mpr ⟨.builtin class_, number :: around, Subset.refl _,
          settled.builtin number class_ isKnown mentions, stated_builtin class_ _,
          fun outer _ => ⟨by simp, by simp⟩⟩, forall_mem_singleton.mpr not_mem_nil⟩
    | declared other =>
      rcases (places other mentions inner given).described with inside | ⟨nothing, -⟩
      · exact ⟨inside.stated, inside.unnested⟩
      · rw [nothing] at inType
        cases inType
  constructor
  · intro type mem
    obtain ⟨inner, inType, innerStated, -⟩ := each type mem
    exact innerStated type inType
  · intro type mem
    obtain ⟨inner, inType, -, innerUnnested⟩ := each type mem
    exact innerUnnested type inType

theorem finds_inside {next target : Nat} (places : PlacesInside cat kept hints known describe around number)
    (depicts : cat.Depicts hints (Given kept describe) number desc)
    (leads : cat.Leads hints number next) (later : cat.Finds hints (number :: around) next target) :
    ∃ type ∈ desc.inside, ∃ more, number :: around ⊆ more /\
      cat.Stated hints more (.declared target) type := by
  obtain ⟨inner, given, sub⟩ := depicts.inside_of_mentions leads.1
  rcases (places next leads.1 inner given).described with
    inside | ⟨-, standsAround | ⟨other, known, isEnum⟩⟩
  · obtain ⟨type, mem, more, moreAround, -, stated⟩ := inside.finds target later
    exact ⟨type, sub mem, more, moreAround, stated⟩
  · exact absurd standsAround later.free
  · obtain ⟨profile, found, notEnumeration⟩ := leads.2
    obtain rfl := Option.some.inj (known.symm.trans found)
    rw [isEnum] at notEnumeration
    cases notEnumeration

theorem described_of_depicts (settled : cat.Settled kept hints known)
    (differ : cat.NamesDiffer known) (isKnown : known (.declared number))
    (declared : cat.declared? number = some profile) (fresh : number ∉ around)
    (reached : ∀ outer ∈ around, Relation.TransGen (cat.Leads hints) outer number)
    (places : PlacesInside cat kept hints known describe around number)
    (depicts : cat.Depicts hints (Given kept describe) number desc) :
    cat.Stated hints around (.declared number) desc /\
      DescribedInside cat hints known around number desc := by
  obtain ⟨isType, typeName⟩ := depicts.named declared
  have types := Descriptor.types_of_isType isType
  have stated : cat.Stated hints around (.declared number) desc := by
    refine ⟨isType, ?_, depicts.ownDefinitions fun _ mentions _ given =>
      shape_of_given places mentions given⟩
    rw [typeName, Catalog.nameOf, declared]
    rfl
  obtain ⟨statedInside, unnestedInside⟩ := stated_inside settled isKnown places depicts
  refine ⟨stated, ?_, ?_, ?_⟩
  · intro type mem
    rw [types] at mem
    rcases mem_append.mp mem with within | itself
    · obtain ⟨subject, more, sub, others⟩ := statedInside type within
      exact ⟨subject, more, Subset.trans (subset_cons_self _ _) sub, others⟩
    · rw [mem_singleton.mp itself]
      refine ⟨.declared number, around, Subset.refl _, isKnown, stated, ?_⟩
      intro outer mem
      constructor
      · rintro ⟨⟩
        exact fresh mem
      · rintro _ ⟨⟩
        exact reached outer mem
  · intro type mem
    rw [types] at mem
    rcases mem_append.mp mem with within | itself
    · exact unnestedInside type within
    · -- A type inside with the name of this class would be the class, which stands around it.
      rw [mem_singleton.mp itself]
      intro listed
      obtain ⟨other, otherListed, sameName⟩ := mem_map.mp listed
      obtain ⟨subject, more, sub, subjectKnown, subjectStated, chain⟩ :=
        statedInside other otherListed
      have same : subject = .declared number := by
        apply differ _ _ subjectKnown isKnown
        rw [<- subjectStated.named, <- stated.named, sameName]
      exact (chain number (sub (.head _))).1 same
  · intro target finds
    cases finds with
    | here =>
      exact ⟨desc, Descriptor.mem_types_self isType, around, Subset.refl _, .inl rfl, stated⟩
    | step _ leads later =>
      obtain ⟨type, mem, more, sub, typeStated⟩ := finds_inside places depicts leads later
      refine ⟨type, ?_, more, Subset.trans (subset_cons_self _ _) sub,
        .inr (sub (.head _)), typeStated⟩
      rw [types]
      exact mem_append_left _ mem

theorem describeWith_described (settled : cat.Settled kept hints known)
    (differ : cat.NamesDiffer known) (isKnown : known (.declared number))
    (declared : cat.declared? number = some profile) (fresh : number ∉ around)
    (reached : ∀ outer ∈ around, Relation.TransGen (cat.Leads hints) outer number)
    (places : ∀ other profile, cat.declared? other = some profile ->
      (profile.isEnum = false -> known (.declared other) /\
        ∀ outer ∈ number :: around, Relation.TransGen (cat.Leads hints) outer other) ->
      ∀ pre inner post, kept pre -> Yields (describe other) pre inner post ->
        kept post /\ Placed cat hints known (number :: around) other inner) (held : kept pre)
    (yields : Yields (describeWith cat describe profile) pre desc post) :
    kept post /\ cat.Depicts hints (Given kept describe) number desc /\
      cat.Stated hints around (.declared number) desc /\
      DescribedInside cat hints known around number desc := by
  have placed : ∀ other, cat.Mentions hints number (.declared other) ->
      ∀ pre inner post, kept pre -> Yields (describe other) pre inner post ->
        kept post /\ Placed cat hints known (number :: around) other inner := by
    intro other mentions
    obtain ⟨otherProfile, otherDeclared, otherKnown⟩ := settled.mentioned number other isKnown mentions
    refine places other otherProfile otherDeclared fun notEnumeration => ⟨otherKnown notEnumeration, ?_⟩
    have leads : cat.Leads hints number other :=
      ⟨mentions, otherProfile, otherDeclared, notEnumeration⟩
    intro outer mem
    rcases mem_cons.mp mem with rfl | old
    · exact .single leads
    · exact (reached outer old).tail leads
  obtain ⟨stillHeld, depicts⟩ := describeWith_depicts settled.resolves declared
    (settled.variants number profile isKnown declared)
    (fun other mentions pre inner post innerHeld described =>
      (placed other mentions pre inner post innerHeld described).1) held yields
  have inside : PlacesInside cat kept hints known describe around number := by
    intro other mentions inner given
    obtain ⟨innerBefore, innerAfter, innerHeld, described⟩ := given
    exact (placed other mentions innerBefore inner innerAfter innerHeld described).2
  exact ⟨stillHeld, depicts, described_of_depicts settled differ isKnown declared fresh reached inside
    depicts⟩
end

theorem lt_of_declared (declared : cat.declared? number = some profile) :
    number < cat.profiles.length := by
  unfold Catalog.declared? at declared
  split at declared
  · exact (List.getElem?_eq_some_iff.mp declared).1
  · cases declared

theorem length_le_of_nodup (nodup : around.Nodup)
    (bounded : ∀ outer ∈ around, outer < cat.profiles.length) :
    around.length <= cat.profiles.length := by
  have sub : around ⊆ range cat.profiles.length :=
    fun outer mem => mem_range.mpr (bounded outer mem)
  have counted := (nodup.subperm sub).length_le
  rw [length_range] at counted
  exact counted

theorem describeWithin_placed (settled : cat.Settled kept hints known)
    (differ : cat.NamesDiffer known) (depth : Nat)
    (room : cat.profiles.length < depth + around.length) (nodup : around.Nodup)
    (bounded : ∀ outer ∈ around, outer < cat.profiles.length)
    (declared : cat.declared? number = some profile)
    (reached : profile.isEnum = false -> known (.declared number) /\
      ∀ outer ∈ around, Relation.TransGen (cat.Leads hints) outer number) (held : kept pre)
    (yields : Yields (describeWithin cat depth around number) pre desc post) :
    kept post /\ Placed cat hints known around number desc := by
  induction depth generalizing around number profile pre post desc with
  | zero =>
    have few := length_le_of_nodup nodup bounded
    omega
  | succ depth ih =>
    rw [describeWithin, yields_get_bind, Catalog.get?_of_declared declared] at yields
    have standIn : ∀ active, cat.standIn active (.declared number) =
        if profile.isEnum then .primitive "str"
        else if profile.isErrorUnion && number ∉ active then .union profile.name []
        else .named profile.name := by
      intro active
      rw [Catalog.standIn, declared]
    cases isEnum : profile.isEnum with
    | true =>
      simp only [isEnum, if_true, yields_pure] at yields standIn
      obtain ⟨rfl, rfl⟩ := yields
      refine ⟨held, ?_, .inr ⟨rfl, .inr ⟨profile, declared, isEnum⟩⟩⟩
      rw [standIn]
    | false =>
      simp only [isEnum, Bool.false_eq_true, if_false] at yields standIn
      obtain ⟨isKnown, leads⟩ := reached isEnum
      by_cases mem : number ∈ around
      · simp only [mem, if_true, yields_pure] at yields
        obtain ⟨rfl, rfl⟩ := yields
        refine ⟨held, ?_, .inr ⟨rfl, .inl mem⟩⟩
        rw [standIn]
        simp [mem]
      · rw [if_neg mem] at yields
        obtain ⟨stillHeld, depicts, -, described⟩ := describeWith_described settled differ isKnown
          declared mem leads (fun other otherProfile otherDeclared otherReached _ _ _ innerHeld found =>
            ih (by rw [length_cons]; omega) (nodup_cons.mpr ⟨mem, nodup⟩)
              (forall_mem_cons.mpr ⟨lt_of_declared declared, bounded⟩) otherDeclared otherReached
              innerHeld found) held yields
        refine ⟨stillHeld, ?_, .inl described⟩
        rw [standIn, depicts.shape declared]
        cases profile.isErrorUnion <;> simp [mem, Descriptor.shape]

theorem describeClass_described (settled : cat.Settled kept hints known)
    (differ : cat.NamesDiffer known) (isKnown : known (.declared number))
    (declared : cat.declared? number = some profile) (held : kept pre)
    (yields : Yields (describeClass cat number profile) pre desc post) :
    kept post /\ cat.Stated hints [] (.declared number) desc /\
      DescribedInside cat hints known [] number desc := by
  have room : cat.profiles.length < cat.depth + [number].length := by
    unfold Catalog.depth
    simp only [length_singleton]
    omega
  obtain ⟨stillHeld, -, described⟩ := describeWith_described settled differ isKnown declared
    not_mem_nil (nofun)
    (fun other otherProfile otherDeclared otherReached _ _ _ innerHeld found =>
      describeWithin_placed settled differ cat.depth room (nodup_singleton _)
        (forall_mem_singleton.mpr (lt_of_declared declared)) otherDeclared otherReached innerHeld
        found) held yields
  exact ⟨stillHeld, described⟩
end
end RouteDocs.Class
