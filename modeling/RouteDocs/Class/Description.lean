import RouteDocs.Class.Profile
import RouteDocs.Schema.Descriptor

/-! # Descriptors of classes -/

namespace RouteDocs.Class
open Schema

def firstParagraph : Chars -> Chars
  | [] => []
  | '\n' :: '\n' :: _ => []
  | c :: rest => c :: firstParagraph rest

def builtinDescriptor (cls : Builtin) : Except Fault Descriptor := match cls.description? with
  | some description => .ok (.struct cls.name [] description)
  | none => .error (.silent cls.name)

mutual
def typeOf (describe : Nat -> Describing Descriptor) (owner : String) : Hint -> Describing Descriptor
  | .builtin cls =>
    match cls.primitive? with
    | some name => return .primitive name
    | none =>
      if cls.isSequence then throw (.missingItem owner (Hint.builtin cls).shown)
      else liftExcept (builtinDescriptor cls)
  | .declared number _ => describe number
  | .generic cls args =>
    if !Hint.areKeys args then throw (.hint .misfit)
    else if cls.isSequence then
      match args with
      | [] => throw (.missingItem owner (Hint.generic cls []).shown)
      | item :: _ => .sequence <$> typeOf describe owner item
    else throw (.unsupported owner (Hint.generic cls args).shown)
  | .form given =>
    if given.isSequence then throw (.missingItem owner (Hint.form given).shown)
    else throw (.unsupported owner (Hint.form given).shown)
  | .formOf given args =>
    if !Hint.areKeys args then throw (.hint .misfit)
    else if given.isSequence then
      match args with
      | [] => throw (.missingItem owner (Hint.formOf given []).shown)
      | item :: _ => .sequence <$> typeOf describe owner item
    else throw (.unsupported owner (Hint.formOf given args).shown)
  | .union members => unionType describe owner (Hint.union members).shown members
  | .bars members =>
    if !Hint.areKeys members then throw (.hint .misfit)
    else unionType describe owner (Hint.bars members).shown members
  | hint =>
    if !hint.isKey then throw (.hint .misfit)
    else if hint.isTooLong then throw (.hint (.badValue Text.DigitOverflow.written.message))
    else throw (.unsupported owner hint.shown)

def unionType (describe : Nat -> Describing Descriptor) (owner shown : String) :
    List Hint -> Describing Descriptor
  | [first, second] =>
    if first.isNone then .optional <$> typeOf describe owner second
    else if second.isNone then .optional <$> typeOf describe owner first
    else throw (.unsupportedUnion owner shown)
  | _ => throw (.unsupportedUnion owner shown)
end

def fieldsOf (describe : Nat -> Describing Descriptor) (profile : Profile) :
    Describing (List Field) := do
  (<- profile.fields).mapM fun field => do
    return ⟨field.name, <- typeOf describe profile.name field.hint, field.isOptional⟩

def docOf (profile : Profile) : Describing String := match profile.doc? with
  | some doc => return doc
  | none => throw (.silent profile.name)

def objectDoc : String := "The base class of the class hierarchy.\n\n" ++
  "When called, it accepts no arguments and returns a new featureless\n" ++
  "instance that has no instance attributes and cannot be given any."

def variantOf (catalog : Catalog) (describe : Nat -> Describing Descriptor) :
    VariantClass -> Describing Variant
  | .object => return ⟨Builtin.object.name, [], objectDoc⟩
  | .declared number => do
    let some variant := catalog.get? (<- get) number | return ⟨"", [], ""⟩
    return ⟨variant.name, <- fieldsOf describe variant, <- docOf variant⟩

def describeWith (catalog : Catalog) (describe : Nat -> Describing Descriptor)
    (profile : Profile) : Describing Descriptor :=
  if profile.isErrorUnion then do
    return .union profile.name (<- profile.variants.mapM (variantOf catalog describe))
  else do
    let fields <- fieldsOf describe profile
    let doc <- docOf profile
    return .struct profile.name fields (String.ofList (firstParagraph doc.toList))

/-- The descriptor of a declared class in a hint. `active` are the classes
around it, and `depth` bounds how many more may be nested in it. -/
def describeWithin (catalog : Catalog) :
    (depth : Nat) -> (active : List Nat) -> (number : Nat) -> Describing Descriptor
  | 0, _, number => do
    let some profile := catalog.get? (<- get) number | return .named ""
    return .named profile.name
  | depth + 1, active, number => do
    let some profile := catalog.get? (<- get) number | return .named ""
    if profile.isEnum then return .primitive "str"
    else if number ∈ active then return .named profile.name
    else describeWith catalog (describeWithin catalog depth (number :: active)) profile

def describeClass (catalog : Catalog) (number : Nat) (profile : Profile) : Describing Descriptor :=
  describeWith catalog (describeWithin catalog catalog.depth [number]) profile

inductive TargetFault where
  | fault (cause : Fault)
  | genericForm
  | noClass
deriving DecidableEq

structure Described where
  isErrorUnion : Bool
  descriptor : Descriptor

def describe (catalog : Catalog) : Hint -> ExceptT TargetFault (StateM Memory) Described
  | .builtin cls =>
    match builtinDescriptor cls with
    | .ok descriptor => return ⟨false, descriptor⟩
    | .error cause => throw (.fault cause)
  | .declared number _ => do
    let some profile := catalog.get? (<- get) number | throw .noClass
    ExceptT.mk do
    match <- (describeClass catalog number profile).run with
    | .ok descriptor => return .ok ⟨profile.isErrorUnion, descriptor⟩
    | .error cause => return .error (.fault cause)
  | .generic _ _ | .form _ | .formOf .. | .union _ | .classField _ => throw .genericForm
  | _ => throw .noClass
end RouteDocs.Class
