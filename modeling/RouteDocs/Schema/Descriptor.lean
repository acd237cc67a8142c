/-!
# Type descriptors

A descriptor says what a type looks like: a primitive, a wrapper around another type, a reference by
name, a struct with fields or a union of variants.
-/

namespace RouteDocs.Schema

mutual
inductive Descriptor where
  | primitive (name : String)
  | optional (inner : Descriptor)
  | sequence (inner : Descriptor)
  /-- A struct or a union that is declared elsewhere. -/
  | named (name : String)
  | struct (name : String) (fields : List Field) (description : String)
  | union (name : String) (variants : List Variant)

structure Field where
  name : String
  type : Descriptor
  optional : Bool

/-- One variant of a union; its documentation begins with a status. -/
structure Variant where
  name : String
  fields : List Field
  doc : String
end

instance : Inhabited Descriptor := ⟨.named ""⟩

/-! ## Equality

Descriptors share parts, and the same part can stand at very many places. A
comparison does not look into what is one part in both.
-/

mutual
def Descriptor.decideEq (a b : Descriptor) : Decidable (a = b) := withPtrEqDecEq a b fun _ =>
    match a, b with
    | .primitive m, .primitive n =>
      if same : m = n then isTrue (by rw [same]) else isFalse (by simp [same])
    | .optional s, .optional t =>
      match Descriptor.decideEq s t with
      | isTrue same => isTrue (by rw [same])
      | isFalse other => isFalse (by simp [other])
    | .sequence s, .sequence t =>
      match Descriptor.decideEq s t with
      | isTrue same => isTrue (by rw [same])
      | isFalse other => isFalse (by simp [other])
    | .named m, .named n =>
      if same : m = n then isTrue (by rw [same]) else isFalse (by simp [same])
    | .struct m fs d, .struct n gs e =>
      if words : m = n /\ d = e then
        match decideFieldsEq fs gs with
        | isTrue same => isTrue (by rw [words.1, words.2, same])
        | isFalse other => isFalse (by simp [other])
      else isFalse fun same => by
        cases same
        exact words ⟨rfl, rfl⟩
    | .union m vs, .union n ws =>
      if name : m = n then
        match decideVariantsEq vs ws with
        | isTrue same => isTrue (by rw [name, same])
        | isFalse other => isFalse (by simp [other])
      else isFalse (by simp [name])
    | .primitive _, .optional _ | .primitive _, .sequence _ | .primitive _, .named _
    | .primitive _, .struct .. | .primitive _, .union .. => isFalse (by simp)
    | .optional _, .primitive _ | .optional _, .sequence _ | .optional _, .named _
    | .optional _, .struct .. | .optional _, .union .. => isFalse (by simp)
    | .sequence _, .primitive _ | .sequence _, .optional _ | .sequence _, .named _
    | .sequence _, .struct .. | .sequence _, .union .. => isFalse (by simp)
    | .named _, .primitive _ | .named _, .optional _ | .named _, .sequence _
    | .named _, .struct .. | .named _, .union .. => isFalse (by simp)
    | .struct .., .primitive _ | .struct .., .optional _ | .struct .., .sequence _
    | .struct .., .named _ | .struct .., .union .. => isFalse (by simp)
    | .union .., .primitive _ | .union .., .optional _ | .union .., .sequence _
    | .union .., .named _ | .union .., .struct .. => isFalse (by simp)

def decideFieldsEq (fs gs : List Field) : Decidable (fs = gs) := withPtrEqDecEq fs gs fun _ =>
    match fs, gs with
    | [], [] => isTrue rfl
    | [], _ :: _ | _ :: _, [] => isFalse (by simp)
    | ⟨m, s, o⟩ :: fs, ⟨n, t, p⟩ :: gs =>
      if words : m = n /\ o = p then
        match Descriptor.decideEq s t, decideFieldsEq fs gs with
        | isTrue same, isTrue rest => isTrue (by rw [words.1, words.2, same, rest])
        | isFalse other, _ => isFalse (by simp [other])
        | _, isFalse other => isFalse (by simp [other])
      else isFalse fun same => by
        cases same
        exact words ⟨rfl, rfl⟩

def decideVariantsEq (vs ws : List Variant) : Decidable (vs = ws) := withPtrEqDecEq vs ws fun _ =>
    match vs, ws with
    | [], [] => isTrue rfl
    | [], _ :: _ | _ :: _, [] => isFalse (by simp)
    | ⟨m, fs, d⟩ :: vs, ⟨n, gs, e⟩ :: ws =>
      if words : m = n /\ d = e then
        match decideFieldsEq fs gs, decideVariantsEq vs ws with
        | isTrue same, isTrue rest => isTrue (by rw [words.1, words.2, same, rest])
        | isFalse other, _ => isFalse (by simp [other])
        | _, isFalse other => isFalse (by simp [other])
      else isFalse fun same => by
        cases same
        exact words ⟨rfl, rfl⟩
end

instance : DecidableEq Descriptor := Descriptor.decideEq

def Descriptor.name? : Descriptor -> Option String
  | primitive name | named name | struct name .. | union name _ => some name
  | optional _ | sequence _ => none
end RouteDocs.Schema
