import RouteDocs.Proofs.SynthesisSteps

namespace RouteDocs.Schema
open List

/-!
# Invariants of tables

A synthesis changes the table in four ways only: it makes a definition, sets a status map, records a
conflict or warns. Besides, it remembers types that stand in what it is given, and it takes notes.
A property of sessions that all of these keep is kept by every synthesis, whatever comes of it.
What is defined is an object of fields or a union of alternatives, never while the table is frozen.
-/

/-- What is registered: an object whose fields are flat, or a union whose mapping leads
to its alternatives. -/
def Node.Registrable : Node -> Prop
  | .object fields _ _ => ∀ field ∈ fields, field.2.Flat
  | .union variants _ mapping => ∀ entry ∈ mapping.entries, entry.2 ∈ variants
  | _ => False

structure Table.Inductive (held : Table -> Prop) : Prop where
  recordConflict : ∀ table name, held table -> held (table.recordConflict name)
  warn : ∀ table message, held table -> held (table.warn message)
  define : ∀ table name node, node.Registrable -> held table -> held (table.define name node).1
  defineStatuses : ∀ table name codes, held table -> held (table.defineStatuses name codes).1

/-- A property that every step of a synthesis keeps, as far as only some types are
remembered. -/
structure Session.Inductive (held : Session -> Prop) (drawn : Descriptor -> Prop) : Prop where
  notices : ∀ sess notices, held sess -> held { sess with notices := notices }
  recordConflict : ∀ sess name, held sess ->
    held { sess with table := sess.table.recordConflict name }
  warn : ∀ sess message, held sess -> held { sess with table := sess.table.warn message }
  remember : ∀ sess name type, drawn type -> held sess -> held (sess.remember name type)
  define : ∀ sess name node, sess.table.frozen = false -> node.Registrable -> held sess ->
    held { sess with table := (sess.table.define name node).1 }
  defineStatuses : ∀ sess name variants, drawn (.union name variants) ->
    sess.table.frozen = false -> held sess ->
    held { sess with table :=
      (sess.table.defineStatuses name (.ofVariants name (variants.map Variant.error))).1 }

theorem Table.inductive_frozen (value : Bool) :
    Table.Inductive fun table => table.frozen = value where
  recordConflict := fun table name known => (table.frozen_recordConflict name).trans known
  warn := fun _ _ known => known
  define := fun table name node _ known => (table.define_frame name node).2.2.trans known
  defineStatuses := fun table name codes known =>
    (table.defineStatuses_frame name codes).2.2.trans known

theorem unionNode_registrable (name : String) (variants : List ErrorVariant) :
    (unionNode name variants).Registrable := by
  intro entry mem
  obtain ⟨variant, here, rfl⟩ := mem_map.mp (OrderedMap.entries_ofList_subset _ mem)
  exact mem_map_of_mem here

namespace Synthesis
def OnTable (held : Table -> Prop) (sess : Session) : Prop := held sess.table

theorem inductive_onTable (closed : Table.Inductive held) :
    Session.Inductive (OnTable held) Anything where
  notices := fun _ _ known => known
  recordConflict := fun sess name known => closed.recordConflict sess.table name known
  warn := fun sess message known => closed.warn sess.table message known
  remember := by
    intro sess name type _ known
    rw [OnTable, Session.table_remember]
    exact known
  define := fun sess name node _ registrable known =>
    closed.define sess.table name node registrable known
  defineStatuses := fun sess name _ _ _ known => closed.defineStatuses sess.table name _ known

section
variable {held : Session -> Prop} {drawn : Descriptor -> Prop} {α : Type} {expected : α -> Prop}
  {step : Synthesis Node α}

theorem maintains_inside (maintained : Maintains held expected step) :
    Maintains held expected (inside owner step) := by
  intro pre known
  have here := maintained pre known
  rw [run_inside]
  cases ran : (step.run.run pre : Except Failure α × Session) with
  | mk answer mid =>
    rw [ran] at here
    cases answer with
    | ok value => exact here
    | error failure =>
      refine ⟨here.1, fun result same => ?_⟩
      cases same

theorem maintains_fail (fault : Fault) :
    Maintains held Anything (fail fault : Synthesis Node PUnit) :=
  maintains_throw _

theorem maintains_unless {condition : Prop} [Decidable condition]
    (maintained : Maintains held expected step) : Maintains held expected (do
      if condition then fail fault
      step) :=
  maintains_ite ((maintains_fail fault).bind fun _ _ => maintained) maintained

variable (closed : Session.Inductive held drawn)

include closed

theorem maintains_notice (entry : Notice) :
    Maintains held Anything (notice entry : Synthesis Node Unit) :=
  maintains_modify fun sess => closed.notices sess _

theorem maintains_define (kept : ∀ sess, sess.table.frozen = false -> held sess ->
      held { sess with table := (defn sess.table).1 }) :
    Maintains held Anything (define name defn) := by
  unfold define
  refine maintains_get.bind fun sess known => ?_
  cases frozen : sess.table.frozen with
  | true => exact maintains_throw_bind _ _
  | false =>
    refine (maintains_set (kept sess frozen known)).bind fun _ _ => ?_
    cases (defn sess.table).2 with
    | none => exact maintains_pure trivial
    | some clash => exact maintains_notice closed _

theorem maintains_register {node : Node} (registrable : node.Registrable) :
    Maintains held Anything (register name node) :=
  maintains_define closed fun sess writable => closed.define sess name node writable registrable

theorem maintains_recordConflict (name : String) (clash : Clash) :
    Maintains held Anything (recordConflict name clash) :=
  (maintains_notice closed _).bind fun _ _ =>
    maintains_modify fun sess => closed.recordConflict sess name

theorem maintains_named {active : List (String × Descriptor)} (flat : reference.Flat)
    (known : drawn type) (built : Maintains held Node.Registrable build) :
    Maintains held Node.Flat (named active name type reference build) := by
  unfold named
  cases active.lookup name with
  | some outer =>
    exact maintains_ite
      ((maintains_recordConflict closed name _).bind fun _ _ => maintains_pure flat)
      (maintains_pure flat)
  | none =>
    refine maintains_get.bind fun sess _ => maintains_ite (maintains_pure flat) ?_
    refine built.bind fun node registrable => ?_
    have remembered : ∀ sess : Session, held sess -> held (sess.remember name type) :=
      fun sess => closed.remember sess name type known
    refine (maintains_modify remembered).bind fun _ _ => ?_
    exact (maintains_register closed registrable).bind fun _ _ => maintains_pure flat

theorem maintains_variantStatus (union variant doc : String) :
    Maintains held Anything (variantStatus union variant doc : Synthesis Node _) := by
  unfold variantStatus
  cases readStatus doc.toList with
  | error overflow => exact maintains_throw _
  | ok reading =>
    have warned : Maintains held Anything (do
        notice (.variant (missingStatus union variant))
        changeTable (·.warn (missingStatus union variant))
        pure Http.internalError : Synthesis Node Nat) :=
      (maintains_notice closed _).bind fun _ _ =>
        (maintains_modify fun sess => closed.warn sess _).bind fun _ _ => maintains_pure trivial
    cases valid : reading.1.filter Http.isStatus with
    | some status =>
      simp only [valid]
      exact maintains_pure trivial
    | none =>
      simp only [valid]
      exact warned.bind fun _ _ => maintains_pure trivial

abbrev VariantFlat (variant : ErrorVariant) : Prop := ∀ field ∈ variant.fields, field.2.Flat

theorem maintains_registerVariants {union : String} (known : drawn (.union union variants))
    (flat : ∀ variant ∈ variants.map Variant.error, VariantFlat variant) :
    Maintains held Node.Registrable (registerVariants union (variants.map Variant.error)) := by
  rw [registerVariants_eq]
  refine Maintains.bind (maintains_foldlM trivial fun _ variant mem _ =>
    maintains_register closed (flat variant mem)) fun _ _ => ?_
  refine (maintains_define closed fun sess =>
    closed.defineStatuses sess union variants known).bind fun _ _ => ?_
  exact maintains_pure (unionNode_registrable union _)
end

section
variable {held : Session -> Prop} {drawn : Descriptor -> Prop}

mutual
theorem maintains_node (closed : Session.Inductive held drawn) :
    (desc : Descriptor) -> (∀ type ∈ desc.types, drawn type) ->
      Maintains held Node.Flat (node active desc)
  | .primitive name, _ => by
    rw [node]
    cases primitive? name with
    | none => exact maintains_throw _
    | some type => exact maintains_pure trivial
  | .optional inner, known | .sequence inner, known => by
    rw [node]
    exact (maintains_node closed inner known).bind fun _ flat => maintains_pure flat.stripOptional
  | .named name, _ => by
    rw [node]
    exact maintains_pure trivial
  | .struct name fields about, known => by
    rw [node]
    obtain ⟨inner, own⟩ := forall_mem_append.mp known
    exact maintains_named closed trivial (own _ (.head _))
      ((maintains_inside (maintains_members closed fields inner)).bind fun _ flat => maintains_pure flat)
  | .union name variants, known => by
    rw [node]
    obtain ⟨inner, own⟩ := forall_mem_append.mp known
    refine maintains_named closed trivial (own _ (.head _)) (maintains_unless (maintains_unless ?_))
    refine ((maintains_errorVariants closed variants inner).yielding
      fun yields => (runs_of_errorVariants _ yields).1).bind ?_
    rintro _ ⟨flat, rfl⟩
    exact maintains_registerVariants closed (own _ (.head _)) flat

theorem maintains_members (closed : Session.Inductive held drawn) :
    (fields : List Field) -> (∀ type ∈ fieldTypes fields, drawn type) ->
      Maintains held (fun parts => ∀ part ∈ parts, part.2.Flat) (members active seen fields)
  | [], _ => by
    rw [members]
    exact maintains_pure nofun
  | ⟨name, type, optional⟩ :: rest, known => by
    rw [members]
    obtain ⟨here, later⟩ := forall_mem_append.mp known
    refine maintains_unless ((maintains_node closed type here).bind fun shape flat => ?_)
    refine (maintains_members closed rest later).bind fun _ others => maintains_pure ?_
    refine forall_mem_cons.mpr ⟨?_, others⟩
    split
    · exact flat
    · exact flat

theorem maintains_errorVariants (closed : Session.Inductive held drawn) :
    (variants : List Variant) -> (∀ type ∈ variantTypes variants, drawn type) ->
      Maintains held (fun errors => ∀ error ∈ errors, VariantFlat error)
        (errorVariants active union variants)
  | [], _ => by
    rw [errorVariants]
    exact maintains_pure nofun
  | ⟨name, fields, doc⟩ :: rest, known => by
    rw [errorVariants]
    obtain ⟨here, later⟩ := forall_mem_append.mp known
    refine (maintains_variantStatus closed union name doc).bind fun status _ => ?_
    refine (maintains_inside (maintains_members closed fields here)).bind fun parts flat => ?_
    refine maintains_unless ((maintains_errorVariants closed rest later).bind fun _ others =>
      maintains_pure ?_)
    exact forall_mem_cons.mpr ⟨flat, others⟩
end

theorem held_ofDescriptors (closed : Session.Inductive held drawn)
    (known : ∀ desc ∈ types, ∀ type ∈ desc.types, drawn type) (start : held pre)
    (yields : Yields (ofDescriptors types) pre () post) : held post := by
  induction types generalizing pre with
  | nil => exact yields_forM_nil.mp yields ▸ start
  | cons desc rest ih =>
    rcases yields_ofDescriptors_cons.mp yields with ⟨shape, mid, built, remaining⟩
    have kept : held mid := by
      have here : held ((ofDescriptor desc).run.run pre).2 :=
        (maintains_node closed desc (known _ (.head _)) pre start).1
      rw [built] at here
      exact here
    exact ih (forall_mem_cons.mp known).2 kept remaining
end
end Synthesis
end RouteDocs.Schema
