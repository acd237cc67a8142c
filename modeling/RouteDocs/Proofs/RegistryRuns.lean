import RouteDocs.Proofs.ConflictDetection
import RouteDocs.Proofs.RouteDocuments

namespace RouteDocs
open List Route Schema

/-!
# Runs of calls

A run leaves behind what its successful calls did. If all of them succeed, it has the
entries of their routes and the schemas of all types that were passed; and they do
succeed if each of them is in order, if no type has a fault, and if no two routes have
the same key.
-/

namespace Registry
variable {reg : Registry}

def accepted (reg : Registry) : List Call -> List Call
  | [] => []
  | call :: rest =>
    (if (reg.perform call).1.isOk then [call] else []) ++ (reg.perform call).2.accepted rest

def passed (calls : List Call) : List Descriptor := calls.flatMap Call.descriptors

theorem accepted_append (reg : Registry) (first second : List Call) :
    reg.accepted (first ++ second) =
      reg.accepted first ++ (reg.performAll first).2.accepted second := by
  induction first generalizing reg with
  | nil => rfl
  | cons call rest ih => rw [cons_append, accepted, accepted, ih, performAll, append_assoc]

/-- A run is looked at from its end: the last call succeeds, and is accepted after the others,
or it fails, and leaves no trace. -/
theorem performAll_concat_cases (reg : Registry) (earlier : List Call) (call : Call) :
    (∃ reply post, (reg.performAll earlier).2.perform call = (.ok reply, post) /\
        (reg.performAll (earlier ++ [call])).2 = post /\
        reg.accepted (earlier ++ [call]) = reg.accepted earlier ++ [call]) \/
      ((reg.performAll (earlier ++ [call])).2 = (reg.performAll earlier).2 /\
        reg.accepted (earlier ++ [call]) = reg.accepted earlier) := by
  rw [performAll_append, accepted_append]
  simp only [performAll, accepted, append_nil]
  rcases (reg.performAll earlier).2.perform_cases call with
    ⟨reply, post, performed⟩ | ⟨failure, performed⟩
  · rw [performed]
    exact .inl ⟨reply, post, rfl, rfl, rfl⟩
  · rw [performed]
    exact .inr ⟨rfl, append_nil _⟩

theorem filterMap_reply?_cons (call : Call) (rest : List Call) :
    (call :: rest).filterMap Call.reply? = call.reply?.toList ++ rest.filterMap Call.reply? := by
  rw [filterMap_cons]
  cases call.reply? with
  | none => rfl
  | some entry => rfl

/-- A run without a failure leaves the entries of its routes behind, and the schemas of all
types that were passed. -/
theorem performAll_reflects (registers : Call.freeze ∉ calls)
    (unnested : ∀ type ∈ passed calls, type.Unnested) (reflects : reg.session.Reflects types)
    (succeeds : ∀ reply ∈ (reg.performAll calls).1, reply.isOk = true) :
    (∀ call ∈ calls, call.InOrder) /\ (∀ type ∈ passed calls, type.Grounded) /\
      (reg.performAll calls).2.session.Reflects (types ++ (passed calls).flatMap Descriptor.types) /\
      (reg.performAll calls).2.entries = reg.entries ++ calls.filterMap Call.reply? := by
  induction calls generalizing reg types with
  | nil =>
    refine ⟨nofun, nofun, ?_, (append_nil _).symm⟩
    rw [passed, flatMap_nil, flatMap_nil, append_nil]
    exact reflects
  | cons call rest ih =>
    rcases forall_mem_cons.mp succeeds with ⟨here, later⟩
    have registersHere : call ≠ .freeze := fun same => registers (same ▸ (.head _))
    cases performed : reg.perform call with
    | mk answer post =>
      cases answer with
      | error failure =>
        rw [performed] at here
        cases here
      | ok reply =>
        rcases (perform_eq_ok_iff registersHere).mp performed with
          ⟨inOrder, -, -, -, sess, synthesized, rfl⟩
        rw [passed, flatMap_cons] at unnested
        rcases forall_mem_append.mp unnested with ⟨unnestedHere, unnestedLater⟩
        rcases Synthesis.ofDescriptors_reflects reflects unnestedHere synthesized with
          ⟨reflected, grounded⟩
        have stillReflects : (Registry.session { reg with
            entries := reg.entries ++ call.reply?.toList
            table := sess.table
            memo := sess.memo }).Reflects (types ++ call.descriptors.flatMap Descriptor.types) :=
          ⟨reflected.table, reflected.sound, reflected.memo⟩
        rw [performed] at later
        rcases ih (fun mem => registers (.tail _ mem)) unnestedLater stillReflects later with
          ⟨othersInOrder, othersGrounded, allReflected, entered⟩
        rw [performAll, performed, passed, flatMap_cons]
        refine ⟨forall_mem_cons.mpr ⟨inOrder, othersInOrder⟩,
          forall_mem_append.mpr ⟨grounded, othersGrounded⟩, ?_, ?_⟩
        · rw [flatMap_append, <- append_assoc]
          exact allReflected
        · rw [entered, append_assoc, filterMap_reply?_cons]

/-- Calls that are in order all succeed if their descriptors are without fault and if no two
routes have the same key. -/
theorem performAll_succeeds (unfrozen : reg.frozen = false)
    (writable : reg.table.frozen = false) (inOrder : ∀ call ∈ calls, call.InOrder)
    (sound : ∀ type ∈ passed calls, type.Sound)
    (nodup : ((reg.entries ++ calls.filterMap Call.reply?).map Entry.key).Nodup) :
    ∀ reply ∈ (reg.performAll calls).1, reply.isOk = true := by
  induction calls generalizing reg with
  | nil => exact nofun
  | cons call rest ih =>
    rcases forall_mem_cons.mp inOrder with ⟨here, later⟩
    have registers : call ≠ .freeze := by
      rintro rfl
      cases here
    rw [passed, flatMap_cons] at sound
    rcases forall_mem_append.mp sound with ⟨soundHere, soundLater⟩
    rcases Synthesis.ofDescriptors_succeeds soundHere reg.session writable with
      ⟨sess, synthesized⟩
    rw [filterMap_reply?_cons, <- append_assoc] at nodup
    have fresh : ∀ entry, call.reply? = some entry -> entry.key ∉ reg.entries.map Entry.key := by
      intro entry entered listed
      rw [entered, map_append, map_append] at nodup
      have apart := (nodup_append.mp (nodup_append.mp nodup).1).2.2
      exact apart entry.key listed entry.key (.head _) rfl
    have performed := (perform_eq_ok_iff registers).mpr
      ⟨here, rfl, unfrozen, fresh, sess, synthesized, rfl⟩
    rw [performAll, performed]
    have stillWritable := (frozen_of_ofDescriptors synthesized).trans writable
    exact forall_mem_cons.mpr ⟨rfl, ih unfrozen stillWritable later soundLater nodup⟩
end Registry
end RouteDocs
