import RouteDocs.Http.Status
import RouteDocs.Schema.Descriptor
import RouteDocs.Schema.Table
import RouteDocs.Text.Lines

/-!
# Variants of error unions

The documentation of a variant begins with the status that the variant answers
with: `404: User not found`. The variants of a union are grouped by their
status.
-/

namespace RouteDocs.Schema
open Text

def discriminator : String := "kind"

def firstLine (doc : Chars) : Chars := match splitLines (trim doc) with
  | [] => []
  | line :: _ => trim line

def dropMark : Chars -> Chars
  | ':' :: rest | '-' :: rest => trim rest
  | text => text

/-- The status in the first line of a documentation, and the text behind it; the
whole line if it has no number. -/
def readStatus (doc : Chars) : Except DigitOverflow (Option Nat × Chars) :=
  let line := firstLine doc
  let fromNumber := line.dropWhile fun c => !isDigit c
  match fromNumber with
  | [] => .ok (none, line)
  | _ => do
    let status <- readNumeral (fromNumber.takeWhile isDigit)
    return (some status, dropMark (trim (fromNumber.dropWhile isDigit)))

structure ErrorVariant where
  status : Nat
  name : String
  description : String
  fields : List (String × Node)

def variantName (union variant : String) : String := union ++ "." ++ variant

def ErrorVariant.node (variant : ErrorVariant) : Node :=
  .object variant.fields variant.description (some (discriminator, variant.name))

def missingStatus (union variant : String) : String :=
  s!"{variantName union variant} has no valid status annotation, " ++
    s!"defaulting to {Http.internalError}"

/-- A variant's schema among the alternatives of its status. -/
def StatusMap.add (union : String) (statuses : StatusMap) (variant : ErrorVariant) : StatusMap :=
  let schema := variantName union variant.name
  match statuses.get? variant.status with
  | none => statuses.insert variant.status ⟨variant.status, variant.description, [schema]⟩
  | some known => statuses.insert variant.status
      { known with
        schemas := known.schemas ++ [schema]
        description := known.description ++ "; " ++ variant.description }

def StatusMap.ofVariants (union : String) (variants : List ErrorVariant) : StatusMap :=
  variants.foldl (StatusMap.add union) ∅

def unionNode (union : String) (variants : List ErrorVariant) : Node :=
  .union (variants.map fun variant => variantName union variant.name) discriminator
    (OrderedMap.ofList (variants.map fun variant => (variant.name, variantName union variant.name)))

/-!
## Schemas from descriptors

Structs and unions are built once, registered in the table under their names and referred to from
then on.
-/

inductive Fault where
  | unknownPrimitive (name : String)
  | repeatedField (name : String)
  | noVariants (union : String)
  | repeatedVariants (union : String)
  | discriminatorField
  | notDescriptor (shown : String)
  | unnamedRouteType
  /-- A fault in a part of something named. -/
  | inside (owner : String) (fault : Fault)
deriving DecidableEq

def Fault.message : Fault -> String
  | unknownPrimitive name => s!"Unknown primitive type '{name}'"
  | repeatedField name => s!"Duplicate field '{name}'"
  | noVariants union => s!"Union '{union}' has no variants"
  | repeatedVariants union => s!"Union '{union}' has duplicate variant names"
  | discriminatorField => s!"field '{discriminator}' clashes with the variant discriminant"
  | notDescriptor shown => s!"Not a type descriptor: {shown}"
  | unnamedRouteType => "route types must be named structs or unions"
  | inside owner fault => s!"{owner}: {fault.message}"

inductive Failure where
  | fault (cause : Fault)
  | frozen
  | overflow (cause : DigitOverflow)
deriving DecidableEq

def Failure.message : Failure -> String
  | .fault cause => cause.message
  | .frozen => "Schema table is frozen; the document was already assembled"
  | .overflow cause => cause.message

/-- Place a fault inside something named; other failures keep their words. -/
def Failure.inside (owner : String) : Failure -> Failure
  | .fault cause => .fault (.inside owner cause)
  | failure => failure

structure Session (σ : Type := Node) where
  table : Table σ := {}
  /-- The descriptor that was built first for each name. -/
  memo : OrderedMap String Descriptor := ∅
  notices : List Notice := []
deriving Inhabited

/-- A step that may fail and that keeps what it did before it failed. -/
abbrev Synthesis (σ : Type) := ExceptT Failure (StateM (Session σ))

namespace Synthesis
variable {σ : Type}

def fail {α : Type} (fault : Fault) : Synthesis σ α := throw (.fault fault)

def inside {α : Type} (owner : String) (step : Synthesis σ α) : Synthesis σ α := ExceptT.mk do
    match <- step.run with
    | .ok value => return .ok value
    | .error failure => return .error (failure.inside owner)

def notice (notice : Notice) : Synthesis σ Unit :=
  modify fun session => { session with notices := session.notices ++ [notice] }

def changeTable (change : Table σ -> Table σ) : Synthesis σ Unit :=
  modify fun session => { session with table := change session.table }

def recordConflict (name : String) (clash : Clash) : Synthesis σ Unit := do
  notice (.conflict name clash)
  changeTable (·.recordConflict name)

def define (name : String) (definition : Table σ -> Table σ × Option Clash) : Synthesis σ Unit := do
  let session <- get
  if session.table.frozen then throw .frozen
  let (table, clash?) := definition session.table
  set { session with table }
  match clash? with
  | none => pure ()
  | some clash => notice (.conflict name clash)

variable [Storable σ]

def register (name : String) (schema : σ) : Synthesis σ Unit := define name (·.define name schema)

def registerStatuses (name : String) (statuses : StatusMap) : Synthesis σ Unit :=
  define name (·.defineStatuses name statuses)

/-- Build a named type once. Around a type of the same name, and for a type that
was built before, only the reference is needed. -/
def named (active : List (String × Descriptor)) (name : String) (descriptor : Descriptor)
    (reference : Node) (build : Synthesis σ Node) : Synthesis σ Node := do
  match active.lookup name with
  | some outer =>
    if outer ≠ descriptor then recordConflict name .nestedShape
    return reference
  | none =>
    if (<- get).memo.get? name = some descriptor then return reference
    let node <- build
    modify fun session =>
      if session.memo.contains name then session
      else { session with memo := session.memo.insert name descriptor }
    register name (Storable.ofNode node)
    return reference

/-- The status and the description of a variant. A variant without a valid
status is noted and counts as an internal error; a variant without a description
has the reason phrase of its status. -/
def variantStatus (union variant doc : String) : Synthesis σ (Nat × String) := do
  match readStatus doc.toList with
  | .error overflow => throw (.overflow overflow)
  | .ok (status?, rest) =>
    let status <- match status?.filter Http.isStatus with
      | some status => pure status
      | none => do
        notice (.variant (missingStatus union variant))
        changeTable (·.warn (missingStatus union variant))
        pure Http.internalError
    return (status, if rest.isEmpty then Http.reasonPhrase status else String.ofList rest)

def registerVariants (union : String) (variants : List ErrorVariant) : Synthesis σ Node := do
  for variant in variants do
    register (variantName union variant.name) (Storable.ofNode variant.node)
  registerStatuses union (StatusMap.ofVariants union variants)
  return unionNode union variants

mutual
def node (active : List (String × Descriptor)) : Descriptor -> Synthesis σ Node
  | .primitive name =>
    match primitive? name with
    | some type => return .primitive type
    | none => fail (.unknownPrimitive name)
  | .optional inner => return .optional (<- node active inner).stripOptional
  | .sequence inner => return .array (<- node active inner).stripOptional
  | .named name => return .ref name
  | .struct name fields description =>
    named active name (.struct name fields description) (.ref name) do
      let members <- inside name
        (members ((name, .struct name fields description) :: active) [] fields)
      return .object members description none
  | .union name variants =>
    named active name (.union name variants) (.enumRef name) do
      if variants.isEmpty then fail (.noVariants name)
      if !(variants.map Variant.name).Nodup then fail (.repeatedVariants name)
      registerVariants name (<- errorVariants ((name, .union name variants) :: active) name variants)

/-- The fields of an object, none of which may have a name seen before. -/
def members (active : List (String × Descriptor)) (seen : List String) :
    List Field -> Synthesis σ (List (String × Node))
  | [] => return []
  | ⟨name, type, optional⟩ :: rest => do
    if name ∈ seen then fail (.repeatedField name)
    let schema <- node active type
    let schema := if optional && !schema.isOptional then .optional schema else schema
    return (name, schema) :: (<- members active (name :: seen) rest)

def errorVariants (active : List (String × Descriptor)) (union : String) :
    List Variant -> Synthesis σ (List ErrorVariant)
  | [] => return []
  | ⟨name, fields, doc⟩ :: rest => do
    let (status, description) <- variantStatus union name doc
    let members <- inside (variantName union name) (members active [] fields)
    if discriminator ∈ members.map Prod.fst then
      fail (.inside (variantName union name) .discriminatorField)
    return ⟨status, name, description, members⟩ :: (<- errorVariants active union rest)
end

def ofDescriptor (descriptor : Descriptor) : Synthesis σ Node := node [] descriptor

/-- The status map registered under a descriptor's name, after its synthesis;
nothing for a descriptor without a name. -/
def statusMapOf (descriptor : Descriptor) : Synthesis σ (Option StatusMap) := do
  let _ <- ofDescriptor descriptor
  let table := (<- get).table
  return descriptor.name?.map fun name => (table.statusMap? name).getD ∅

/-- Undo what a step did to the table and the memo if it fails; its notices
stand. -/
def staged {α : Type} (step : Synthesis σ α) : Synthesis σ α := ExceptT.mk do
    let before <- get
    match <- step.run with
    | .ok value => return .ok value
    | .error failure =>
      modify fun session => { before with notices := session.notices }
      return .error failure
end Synthesis

/-- What a host hands over as a type: a descriptor, or a value that describes no
type, by the words that show it. -/
inductive Candidate where
  | descriptor (type : Descriptor)
  | foreign (shown : String)
deriving Inhabited

def Candidate.synthesize {σ : Type} [Storable σ] : Candidate -> Synthesis σ Node
  | .descriptor type => .ofDescriptor type
  | .foreign shown => .fail (.notDescriptor shown)
end RouteDocs.Schema
