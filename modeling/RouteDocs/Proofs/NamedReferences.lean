import RouteDocs.Proofs.NestedTypes
import RouteDocs.Proofs.RegistryRuns

namespace RouteDocs
open List Schema

/-!
# References by name

Whatever calls are made on a registry, only a type that is given by its name can turn out to be
missing. A type that is passed with its fields or variants is registered, together with the types
in it, unless a type around it was left out inside a type of the same name. Two types of one name,
one inside the other, are a conflict, and such a registry is never documented.
-/

/-- Somewhere in these descriptors a type stands inside a type of the same name. -/
def LeftOut (descriptors : List Descriptor) (type : Descriptor) : Prop :=
  ∃ descriptor ∈ descriptors, ∃ place ∈ descriptor.places, place.type = type /\ place.Shadowed

def NamedIn (descriptors : List Descriptor) (name : String) : Prop :=
  ∃ type ∈ descriptors, name ∈ type.namedTypes

variable {fewer more descriptors : List Descriptor}

theorem LeftOut.mono (sub : fewer ⊆ more) (leftOut : LeftOut fewer type) : LeftOut more type := by
  rcases leftOut with ⟨descriptor, mem, rest⟩
  exact ⟨descriptor, sub mem, rest⟩

theorem NamedIn.mono (sub : fewer ⊆ more) (named : NamedIn fewer name) : NamedIn more name := by
  rcases named with ⟨type, mem, rest⟩
  exact ⟨type, sub mem, rest⟩

theorem guarded_leftOut (mem : type ∈ descriptors) : Guarded (LeftOut descriptors) [] type.places :=
  fun place listed sameName => ⟨type, mem, place, listed, rfl, sameName⟩

/-- One descriptor after another is synthesized, out of a list that gives all types that may
be left out or declared elsewhere. -/
theorem ofDescriptors_settles (sub : descriptors ⊆ passed)
    (rests : pre.Rests [] (NamedIn passed) (LeftOut passed))
    (yields : Yields (Synthesis.ofDescriptors descriptors) pre () post) :
    pre.table.Grows post.table /\ post.Settles [] (NamedIn passed) (LeftOut passed)
        (descriptors.flatMap Descriptor.places) [] := by
  induction descriptors generalizing pre with
  | nil =>
    rw [yields_forM_nil.mp yields]
    exact ⟨Table.Grows.refl _, rests.settles_nothing⟩
  | cons type rest ih =>
    rcases Synthesis.yields_ofDescriptors_cons.mp yields with ⟨shape, mid, built, remaining⟩
    rcases cons_subset.mp sub with ⟨present, others⟩
    have runs := (Synthesis.runs_of_node type built).2.2
    have here := runs.settles rests (guarded_leftOut present) fun name mem => ⟨type, present, mem⟩
    rcases ih others here.rests remaining with ⟨grows, later⟩
    have quiet : mid.Settles [] (NamedIn passed) (LeftOut passed) type.places [] :=
      ⟨here.rests, here.known, nofun⟩
    exact ⟨runs.grows.trans grows, quiet.append grows later⟩

namespace Registry
theorem passed_concat (calls : List Call) (call : Call) :
    passed (calls ++ [call]) = passed calls ++ call.descriptors := by
  rw [passed, flatMap_append, flatMap_singleton]
  rfl

structure Accounts (reg : Registry) (calls : List Call) : Prop where
  rests : reg.session.Rests [] (NamedIn (passed calls)) (LeftOut (passed calls))
  registers : ∀ earlier call, earlier ++ [call] <+: calls ->
    ∀ descriptor ∈ call.descriptors, ∀ place ∈ descriptor.places,
      place.Open (LeftOut (passed (earlier ++ [call]))) -> reg.table.Registers place.type

theorem accounts_start : ({} : Registry).Accounts [] where
  rests := Session.Rests.start
  registers := by
    intro earlier call isPrefix
    have empty := prefix_nil.mp isPrefix
    exact absurd empty (append_ne_nil_of_right_ne_nil earlier (cons_ne_nil call []))

variable {calls : List Call}

theorem Accounts.extend {reg post : Registry} (accounts : reg.Accounts calls)
    (grows : reg.table.Grows post.table)
    (settled : post.session.Settles [] (NamedIn (passed (calls ++ [call])))
      (LeftOut (passed (calls ++ [call]))) (call.descriptors.flatMap Descriptor.places) []) :
    post.Accounts (calls ++ [call]) where
  rests := settled.rests
  registers := by
    intro earlier other isPrefix type mem place listed isOpen
    rcases prefix_concat_iff.mp isPrefix with whole | pre
    · rcases append_inj' whole rfl with ⟨rfl, same⟩
      cases same
      have here := mem_flatMap.mpr ⟨type, mem, listed⟩
      exact (settled.known place here isOpen).registers
    · exact (accounts.registers earlier other pre type mem place listed isOpen).grow grows

theorem Accounts.perform {reg post : Registry} (accounts : reg.Accounts calls)
    (performed : reg.perform call = (.ok reply, post)) : post.Accounts (calls ++ [call]) := by
  have sub : passed calls ⊆ passed (calls ++ [call]) := by
    rw [passed_concat]
    exact subset_append_left _ _
  have wider := accounts.rests.mono (fun _ => NamedIn.mono sub) (fun _ => LeftOut.mono sub)
  by_cases frozen : call = .freeze
  · subst frozen
    cases performed
    have stillRests : reg.freeze.session.Rests [] (NamedIn (passed (calls ++ [.freeze])))
        (LeftOut (passed (calls ++ [.freeze]))) :=
      ⟨wider.memo, wider.owned, wider.references, wider.statuses⟩
    exact accounts.extend ⟨fun _ _ found => found, List.Subset.refl _⟩ stillRests.settles_nothing
  · rcases (perform_eq_ok_iff frozen).mp performed with ⟨-, -, -, -, sess, synthesized, rfl⟩
    have here : call.descriptors ⊆ passed (calls ++ [call]) := by
      rw [passed_concat]
      exact subset_append_right _ _
    rcases ofDescriptors_settles here wider synthesized with ⟨grows, settled⟩
    refine accounts.extend grows ⟨?_, settled.known, settled.led⟩
    exact ⟨settled.rests.memo, settled.rests.owned, settled.rests.references, settled.rests.statuses⟩

theorem accounts_performAll (calls : List Call) :
    (performAll {} calls).2.Accounts (accepted {} calls) := by
  -- A call is performed on what the calls before it left, so the induction is from the end.
  induction calls using List.reverseRecOn with
  | nil => exact accounts_start
  | append_singleton earlier call ih =>
    rcases performAll_concat_cases {} earlier call with
      ⟨reply, post, performed, last, listed⟩ | ⟨unchanged, listed⟩
    · rw [last, listed]
      exact ih.perform performed
    · rw [unchanged, listed]
      exact ih

/-- Only references by name can be left unresolved. In every registry, whatever calls were
made on it, what is remembered is registered, the types passed to successful calls are
registered unless they stand in a type that is left out, and a registered schema refers to
nothing missing but types that were given by their names. -/
theorem missing_references_are_named (calls : List Call) :
    (∀ name, (performAll {} calls).2.memo.contains name = true ->
        (performAll {} calls).2.table.contains name = true) /\
      (∀ earlier call, earlier ++ [call] <+: accepted {} calls ->
        ∀ type ∈ call.descriptors, ∀ place ∈ type.places,
          place.Open (LeftOut (passed (earlier ++ [call]))) ->
            (performAll {} calls).2.table.Registers place.type) /\
      ∀ name node, (performAll {} calls).2.table.get? name = some node ->
        ∀ target ∈ node.references, (performAll {} calls).2.table.contains target = false ->
          ∃ call ∈ accepted {} calls, ∃ type ∈ call.descriptors, target ∈ type.namedTypes := by
  have accounts := accounts_performAll calls
  refine ⟨?remembered, accounts.registers, ?missing⟩
  case remembered =>
    intro name remembered
    rcases Option.isSome_iff_exists.mp remembered with ⟨type, found⟩
    exact (accounts.rests.memo name type found).1
  case missing =>
    intro name node found target referred missing
    rcases accounts.rests.references name node found target referred with
      registered | here | ⟨type, mem, named⟩
    · have absent : ¬ (performAll {} calls).2.table.contains target = true := by simp [missing]
      exact absurd registered absent
    · cases here
    · rcases mem_flatMap.mp mem with ⟨call, listed, ofCall⟩
      exact ⟨call, listed, type, ofCall, named⟩

section

/-- A post in a discussion. It shows the thread that it belongs to by a type of its own, which
has the name of the threads. -/
def postType : Descriptor :=
  .struct "Post" [⟨"thread", .struct "Thread" [⟨"author", .struct "Author" [] "", false⟩] "", false⟩] ""

def threadType : Descriptor := .struct "Thread" [⟨"first", postType, false⟩] ""

/-- A type can be missing although none of the types around it stands inside a type of the same
name where it is passed. The thread that a post shows is left out while threads are built, and
the post is remembered without it: its author is not registered when posts are passed, either. -/
theorem nested_type_stays_missing :
    (performAll {} [.registerType (.descriptor threadType), .registerType (.descriptor postType)]).1.map
        Except.isOk = [true, true] /\
      postType ∈ (Call.registerType (.descriptor postType)).descriptors /\
      (∃ place ∈ postType.places, place.type.typeName = "Author" /\
        (place.around.map Descriptor.typeName).Nodup) /\
      (performAll {} [.registerType (.descriptor threadType),
        .registerType (.descriptor postType)]).2.table.contains "Author" = false := by
  refine ⟨by decide +kernel, .head _, ?_, by decide +kernel⟩
  refine ⟨_, .tail _ (.tail _ (.head _)), rfl, ?_⟩
  decide +kernel
end
end Registry
end RouteDocs
