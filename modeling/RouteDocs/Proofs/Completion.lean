import RouteDocs.Proofs.Resolution

namespace RouteDocs.Declaration
open List Schema
open Yaml (Value)

/-!
# Declared types that can be completed

Whether a type can be completed is a matter of what is written: the form must be right, and every
name in it must be declared. So it does not depend on the cache, nor on the types around, which are
declared and all different.
-/

/-- What is written about a type has the right form, and all names in it are wanted ones. -/
def WrittenWithin (types : OrderedMap String Value) (wanted : String -> Prop) (name : String) : Prop :=
  ∃ value spec written type, types.get? name = some value /\ value.opened = .map spec /\
    Written.ofSpec? spec = some written /\ written.Describes (fun inner _ => wanted inner) name type

abbrev WellWritten (types : OrderedMap String Value) : String -> Prop :=
  WrittenWithin types (· ∈ types.keys)

theorem WrittenWithin.declared (written : WrittenWithin types wanted name) : name ∈ types.keys := by
  obtain ⟨value, -, -, -, found, -⟩ := written
  exact (types.mem_keys_iff name).mpr ⟨value, found⟩

theorem Coherent.declared (coherent : Coherent types cache)
    (completed : cache.get? name = some type) : name ∈ types.keys := by
  obtain ⟨value, -, -, found, -⟩ := (coherent name type completed).written
  exact (types.mem_keys_iff name).mpr ⟨value, found⟩

/-- A completed type is well written: the names in it are left, or completed in turn. -/
theorem Coherent.wellWritten (coherent : Coherent types cache)
    (completed : cache.get? name = some type) : WellWritten types name := by
  obtain ⟨value, spec, written, found, opened, read, described⟩ :=
    (coherent name type completed).written
  exact ⟨value, spec, written, type, found, opened, read,
    described.mono fun _ _ refers => refers.elim And.right coherent.declared⟩

namespace Resolution
variable {types : OrderedMap String Value} {name : String}

section
variable {orderly : Cache -> Prop}
variable {wanted : String -> Prop} {resolve : String -> Resolution Descriptor}
  (answers : ∀ name, wanted name -> Succeeds orderly Anything (resolve name))

include answers

theorem succeeds_expr : (expr : TypeExpr) -> {type : Descriptor} ->
    expr.Denotes (fun name _ => wanted name) type -> Succeeds orderly Anything (exprOf resolve expr)
  | .primitive _, _, _ => succeeds_pure trivial
  | .reference name, _, denotes => answers name denotes
  | .optional expr, _, denotes => by
    rcases denotes with ⟨inner, -, within⟩
    exact (succeeds_expr expr within).bind fun _ _ => succeeds_pure trivial
  | .wrapped wrapper _ expr, _, denotes => by
    rcases denotes with ⟨wrap, inner, known, -, within⟩
    refine (succeeds_expr expr within).bind fun _ _ => ?_
    rw [known]
    exact succeeds_pure trivial

theorem succeeds_fields {fields : List WrittenField}
    (described : List.Forall₂ (WrittenField.Describes fun name _ => wanted name) fields members) :
    Succeeds orderly Anything (fields.mapM (fieldOf resolve)) := by
  refine succeeds_mapM fun field listed => ?_
  obtain ⟨_, -, held⟩ := (exists_of_forall₂ described).1 field listed
  exact (succeeds_expr answers field.type held.type).bind fun _ _ => succeeds_pure trivial

theorem succeeds_written {written : Written}
    (described : written.Describes (fun name _ => wanted name) name type) :
    Succeeds orderly Anything (writtenOf resolve name written) := by
  cases written with
  | struct fields about =>
    obtain ⟨members, -, held⟩ := described
    exact (succeeds_fields answers held).bind fun _ _ => succeeds_pure trivial
  | union variants =>
    obtain ⟨members, -, held⟩ := described
    refine (succeeds_mapM fun variant listed => ?_).bind fun _ _ => succeeds_pure trivial
    obtain ⟨_, -, describes⟩ := (exists_of_forall₂ held).1 variant listed
    exact (succeeds_fields answers describes.fields).bind fun _ _ => succeeds_pure trivial
end

section
variable {wanted : String -> Prop} (closed : ∀ name, wanted name -> WrittenWithin types wanted name)

include closed

/-- If all names in some types are names of such types, each of them is completed, whatever has
been completed before and whatever types it stands in. -/
theorem descriptorWithin_succeeds (nodup : building.Nodup) (around : building ⊆ types.keys)
    (bound : types.size <= depth + building.length) (asked : wanted name) (free : name ∉ building) :
    Succeeds (Coherent types) Anything (descriptorWithin types depth building name) := by
  induction depth generalizing building name with
  | zero =>
    -- The types around are all there are, and the name is not among them.
    have longer := (subperm_of_subset (nodup_cons.mpr ⟨free, nodup⟩)
      (cons_subset.mpr ⟨(closed name asked).declared, around⟩)).length_le
    have sizes : types.keys.length = types.size := length_map _
    rw [length_cons] at longer
    omega
  | succ depth ih =>
    intro pre coherent
    have succeeds : ∃ type post,
        Yields (descriptorWithin types (depth + 1) building name) pre type post := by
      simp only [yields_descriptorWithin]
      cases pre.get? name with
      | some completed => exact ⟨completed, pre, .inl ⟨rfl, rfl⟩⟩
      | none =>
        rcases closed name asked with ⟨value, spec, written, form, found, opened, read, described⟩
        have answers : ∀ inner, wanted inner -> Succeeds (Coherent types) Anything
            (lookUp types depth (name :: building) inner) := by
          intro inner innerAsked
          unfold lookUp
          split
          · exact succeeds_pure trivial
          · rename_i outside
            refine ih (nodup_cons.mpr ⟨free, nodup⟩)
              (cons_subset.mpr ⟨(closed name asked).declared, around⟩) ?_ innerAsked outside
            rw [length_cons]
            omega
        rcases succeeds_written answers described pre coherent with
          ⟨type, mid, walked, -, -⟩
        have built := yields_build.mpr ⟨spec, written, opened, read, walked⟩
        have shown : value ≠ .null := by
          rintro rfl
          cases opened
        exact ⟨type, _, .inr ⟨rfl, value, mid, found, shown, built, rfl⟩⟩
    rcases succeeds with ⟨type, post, yields⟩
    exact ⟨type, post, yields, (descriptorWithin_completes around free coherent yields).1.coherent, trivial⟩

theorem descriptor_succeeds (asked : wanted name) :
    Succeeds (Coherent types) Anything (descriptor types name) :=
  descriptorWithin_succeeds closed nodup_nil (nil_subset _) (Nat.le_refl _) asked not_mem_nil
end
end Resolution
end RouteDocs.Declaration
