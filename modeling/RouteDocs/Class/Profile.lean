import RouteDocs.Class.ModelFields

/-! # Making classes -/

namespace RouteDocs.Class

section

open OrderedMap

inductive MakingFault where
  | hint (fault : HintFault)
  | lineage
  | closedBase
  | mixedBases
  | foreignBase
  | looseAttribute (name : String)
  | ownDefault (name : String)
  | filledClass
  | uncheckable
  | reservedName (name : String)
  | wholeName
  | settings
  | keyword (name : String)
  | reserved (fault : ReservedFault)
  | record (fault : RecordFault)

mutual
def defaultValue : Json -> Hint
  | .null => .nothing
  | .bool given => .truth given
  | .int given => .int given
  | .real given => .real given
  | .string given => Hint.words given
  | .brokenString pieces => .text pieces
  | .array items => .list (defaultValues items)
  | .object members => .dict (defaultEntries members)
  | .brokenObject members => .dict (brokenEntries members)

def defaultValues : List Json -> List Hint
  | [] => []
  | item :: rest => defaultValue item :: defaultValues rest

def defaultEntries : List (String × Json) -> List (Hint × Hint)
  | [] => []
  | (name, value) :: rest => (Hint.words name, defaultValue value) :: defaultEntries rest

def brokenEntries : List (List Text.Piece × Json) -> List (Hint × Hint)
  | [] => []
  | (name, value) :: rest => (.text name, defaultValue value) :: brokenEntries rest
end

def defaultOf (fields : List FieldDeclaration) (name : String) : Default :=
  let declared := fields.filter fun field => field.name = name
  let values := declared.filterMap fun field => match field.default with
    | .value given => some given
    | _ => none
  match values.getLast? with
  | some given => .value given
  | none =>
    if declared.any fun field => field.default matches .factory then .factory else .none

def Default.attribute? (style : Style) : Default -> Option Attr
  | value given => some (.given (defaultValue given))
  | factory => some .factory
  | none => if style = .model then some .required else Option.none

def fieldAttributes (header : Header) : List (String × Attr) := header.fields.filterMap fun field =>
    ((defaultOf header.fields field.name).attribute? header.style).map fun found =>
      (field.name, found)

def isDunder (name : String) : Bool := ['_', '_'].isPrefixOf name.toList

def isHidden (notes : OrderedMap String Hint) (name : String) : Bool :=
  isPrivate name && !isDunder name && !((notes.get? name).map isClassField).getD false

def isOwnClass (header : Header) (nested : List String) (name : String) : Bool :=
  nested.contains name && header.name.toList.isPrefixOf name.toList

def isLoose (header : Header) (bases : List Class) (notes : OrderedMap String Hint)
    (nested : List String) (name : String) : Bool :=
  (nested.contains name || header.style = .model) && !isOwnClass header nested name && !isPrivate name &&
    !notes.contains name && !bases.any fun base => base.classFields.contains name

def secondSettingsName : String := "Config"

def checkSettings (notes : OrderedMap String Hint) (attrs : OrderedMap String Attr) :
    Except MakingFault Unit :=
  let given (name : String) : Hint := ((attrs.get? name).map Attr.value).getD .nothing
  let isNoted := ((notes.get? settingsName).map Hint.isTrue).getD false
  let settings := given settingsName
  if isNoted && settings matches .nothing then .error .settings
  else if !settings.isTrue then .ok ()
  else if (given secondSettingsName).isTrue then .error .settings
  else (checkPairs settings).outcome.mapError .hint
where
  checkPairs (settings : Hint) : Eval Unit := do
    discard ((VM.withFuel {} 2).entriesOf (<- Eval.thawed settings))

def wholeName : String := "__root__"

variable (scope : Scope)

def checkPrivate (name : String) (hint : Hint) : Except MakingFault Unit :=
  if isPrivate name && hint matches .text _ then
    let resolution : Eval Hint := do
      let own <- Eval.keep (.dict {})
      hint.resolve scope ⟨.table own, .table own⟩
    match resolution.outcome with
    | .ok _ | .error (.undefined _) | .error .misfit => .ok ()
    | .error fault => .error (.hint fault)
  else .ok ()

def bareNames : List String :=
  ("__annotations__ __classcell__ __doc__ __firstlineno__ __module__ __orig_bases__ " ++
  "__orig_class__ __qualname__ __static_attributes__").splitOn " "

def modelKeywords : List String := [
  "__base__", "__cls_kwargs__", "__doc__", "__module__", "__validators__"]

def settingsKeyword : String := "__config__"

variable (header : Header) (bases : List Class)

def checkKeywords : Except MakingFault Unit := do
  if let some field := header.fields.find? fun field => field.name ∈ modelKeywords then
    throw (.keyword field.name)
  if !header.bases.isEmpty && header.fields.any fun field => field.name = settingsKeyword then
    throw .settings

def givenNotes (isModel : Bool) (notes : OrderedMap String Hint)
    (attrs : OrderedMap String Attr) : Except MakingFault (OrderedMap String Hint) :=
  match attrs.get? notesName with
  | none => .ok notes
  | some (.given (.dict entries)) =>
    .ok (ofList (entries.filterMap fun (name, hint) => do return (<- nameOf? name, hint)))
  | some _ => if isModel then .error (.reserved .noTable) else .ok .empty

/-- The attributes of a class that becomes a model. `nested` are the names of the classes
nested in it. -/
def modelAttributesOf (notes : OrderedMap String Hint) (attrs : OrderedMap String Attr)
    (nested : List String) : Except MakingFault (OrderedMap String Attr) := do
  checkSettings notes attrs
  if notes.contains wholeName || attrs.contains wholeName then throw .wholeName
  attrs.entries.forM fun (name, found) => do
    if header.style = .model && isPrivate name && found matches .factory then
      throw (.reservedName name)
    if isLoose header bases notes nested name then throw (.looseAttribute name)
  let bare := notes.entries.filter fun (name, hint) =>
    isPrivate name && name ∉ bareNames && !attrs.contains name && !isClassField hint
  bare.forM fun (name, hint) => checkPrivate scope name hint
  let kept := attrs.entries.map fun (name, found) =>
    (name, if isHidden notes name && !isOwnClass header nested name then .hidden else found)
  return ofList (kept ++ bare.map fun (name, _) => (name, .hidden))

def withFields (cls : Class) : Except MakingFault Class := do
  let collected <-
    if cls.isModel then
      match asModel scope bases cls with
      | .ok model => pure model
      | .error (.hint fault) => throw (.hint fault)
      | .error (.reserved name) => throw (.reservedName name)
      | .error (.ownDefault name) => throw (.ownDefault name)
      | .error .filledClass => throw .filledClass
      | .error .undefined | .error .unsupported => throw .uncheckable
    else pure cls
  if cls.style = .record then (asRecord (scope.add collected) collected).mapError .record
  else return collected

def build (notes : NamedHints) (nested : List (String × Attr)) : Except MakingFault Class := do
  if header.style = .model then checkKeywords header
  let hasModelBase := bases.any Class.isModel
  if bases.any scope.isEnum then
    throw (if header.style = .model || hasModelBase then .mixedBases else .closedBase)
  if header.style = .model && !bases.isEmpty && !hasModelBase then throw .foreignBase
  let isModel := header.style = .model || hasModelBase
  let isKept (name : String) : Bool := header.style ≠ .model || name ≠ settingsKeyword
  let notes := ofList (notes.filter fun entry => isKept entry.1)
  let given := fieldAttributes header ++ nested
  let attrs := ofList (given.filter fun entry => isKept entry.1)
  let notes <- givenNotes isModel notes attrs
  let attrs := leftAttributes attrs
  let attrs <-
    if isModel then
      modelAttributesOf scope header bases notes attrs (nested.map Prod.fst)
    else pure attrs
  let places? <- (placesOf scope header.name bases attrs).mapError .reserved
  (checkName header.name).mapError .reserved
  (checkReserved (ofList given)).mapError .reserved
  let some ancestors := ancestors? (bases.map fun cls => (cls.number, cls.ancestors))
    | throw .lineage
  (checkExtension scope ancestors).mapError .reserved
  let cls <- withFields scope bases {
    number := scope.classes.length, name := header.name, style := header.style
    doc? := header.doc?, bases := bases.map Class.number
    ancestors, isModel, notes, places?
    attrs := withPlaces header.name places? attrs }
  return { cls with isErrorUnion := header.isErrorUnion || hasErrorMark cls.attrs }

def basesOf : Except MakingFault (List Class) := header.bases.mapM fun name =>
    match scope.names.get? name >>= scope.get? with
    | some cls => .ok cls
    | none => .error (.hint (.missing name))

def notesOf : Except MakingFault NamedHints :=
  header.fields.mapM fun field => do
    return (field.name, <- (field.form.hint scope.class?).mapError .hint)

def enumeration (scope : Scope) (header : Header) : Class where
  number := scope.classes.length
  name := header.name
  style := .enumeration
  isErrorUnion := header.isErrorUnion
  constants := [("A", Hint.words "a")]

mutual
def make (scope : Scope) : Declaration -> Except MakingFault (Class × Scope)
  | .mk header nested => do
    if header.style = .enumeration then
      (checkName header.name).mapError .reserved
      let cls := enumeration scope header
      return (cls, scope.add cls)
    let bases <- basesOf scope header
    let notes <- notesOf scope header
    let (inner, scope) <- if header.style = .model then pure ([], scope) else makeNested scope nested
    let cls <- build scope header bases notes inner
    return (cls, scope.add cls)

def makeNested (scope : Scope) :
    List Declaration -> Except MakingFault (List (String × Attr) × Scope)
  | [] => .ok ([], scope)
  | declaration :: rest => do
    let (cls, scope) <- make scope declaration
    let (others, scope) <- makeNested scope rest
    return ((cls.name, .given cls.hint) :: others, scope)
end

def declare (declaration : Declaration) : Except MakingFault Scope := do
  let (cls, scope) <- make scope declaration
  return { scope with names := scope.names.insert cls.name cls.number }

def makeAll (declarations : List Declaration) : Except MakingFault Scope :=
  declarations.foldlM declare {}
end

inductive Fault where
  | unresolved (owner message : String)
  | unsupportedUnion (owner shown : String)
  | missingItem (owner shown : String)
  | unsupported (owner shown : String)
  | hint (cause : HintFault)
  | silent (name : String)
  | noField
deriving DecidableEq

def Fault.message? : Fault -> Option String
  | unresolved owner message => some s!"{owner}: cannot resolve annotation ({message})"
  | unsupportedUnion owner shown => some s!"{owner}: unsupported union {shown}"
  | missingItem owner shown => some s!"{owner}: sequence {shown} needs an item type"
  | unsupported owner shown => some s!"{owner}: unsupported annotation {shown}"
  | hint _ | silent _ | noField => none

structure FieldHint where
  name : String
  hint : Hint
  isOptional : Bool

inductive VariantClass where
  | declared (number : Nat)
  | object

abbrev Describing := ExceptT Fault (StateM Memory)

structure Profile where
  name : String
  doc? : Option String := some ""
  isErrorUnion : Bool := false
  isEnum : Bool := false
  fields : Describing (List FieldHint) := pure []
  variants : List VariantClass := []

structure Catalog where
  profiles : List Profile := []
  made : Memory -> List Profile := fun _ => []

def Catalog.get? (catalog : Catalog) (mem : Memory) (number : Nat) : Option Profile :=
  if number < madeBase then catalog.profiles[number]?
  else (catalog.made mem)[number - madeBase]?

def Catalog.depth (catalog : Catalog) : Nat := catalog.profiles.length + 100

def ownDoc? (cls : Class) : Option String := do
  if !cls.docValue.isTrue then return ""
  let doc <- match cls.docValue with
    | .text pieces => Text.ofPieces? pieces
    | _ => none
  if (cls.name.toList ++ ['(']).isPrefixOf doc then return ""
  return String.ofList (Text.cleanBlock doc)

def fieldsName : String := "model_fields"

variable (scope : Scope) (cls owner ancestor : Class)

def fieldTable? : Option (List (Hint × Hint)) :=
  match scope.attribute? cls fieldsName with
  | some (.given (.dict entries)) => some entries
  | _ => none

def resolvedHint (hint : Hint) : Describing Hint := ExceptT.mk do
    match <- (hint.resolve scope (names ancestor)).run with
    | .ok resolved => return .ok resolved.bare
    | .error (.undefined message) => return .error (.unresolved owner.name message)
    | .error cause => return .error (.hint cause)

def ownHints : Describing NamedHints := do
  if ancestor.isHomeless then throw (.hint (.noMember "__module__"))
  if !ancestor.homeValue.isKey then throw (.hint .misfit)
  if ancestor.attrs.contains notesName then throw .noField
  modify fun mem => { mem with copied := [] }
  ancestor.notes.entries.mapM fun (name, hint) => do
    return (name, <- resolvedHint scope owner ancestor hint)

def resolvedHints : Describing (OrderedMap String Hint) :=
  if cls.isModel then return cls.modelFields.mapValues fun _ field => field.hint
  else match fieldTable? scope cls with
  | some [] => return .empty
  | some _ => throw .noField
  | none => do
    if isUnchecked (<- get) scope cls then return .empty
    let found <- (scope.line cls).reverse.mapM (ownHints scope cls)
    return OrderedMap.ofList found.flatten

def isDefaulted (mem : Memory) (scope : Scope) (cls : Class) (name : String) : Bool :=
  match scope.recordFields? cls with
  | some fields => ((fields.get? name).map RecordField.hasDefault).getD false
  | none =>
    if cls.isModel then
      ((cls.modelFields.get? name).map fun field => !field.isRequired).getD false
    else (scope.attribute? cls name).isSome || (scope.line cls).any fun ancestor =>
      (mem.attrs.lookup (ancestor.number, name)).isSome

def isPublic (name : String) : Hint -> Bool
  | .classField _ => false
  | _ => !isPrivate name

def fieldHints : Describing (List FieldHint) := do
  let hints <- resolvedHints scope cls
  let mem <- get
  let scope := VM.scopeIn mem scope
  let cls := (scope.get? cls.number).getD cls
  if hasForeignTable scope (· matches .dict []) cls then throw .noField
  return (hints.entries.filter fun (name, hint) => isPublic name hint).map
    fun (name, hint) => ⟨name, hint, isDefaulted mem scope cls name⟩

def Attr.class? : Attr -> Option VariantClass
  | given (.declared number _) => some (.declared number)
  | _ => none

def variantsOf : List VariantClass := if cls.style = .enumeration then [.object]
  else cls.attrs.values.filterMap Attr.class?

def profile : Profile where
  name := cls.name
  doc? := ownDoc? cls
  isErrorUnion := cls.isErrorUnion
  isEnum := scope.isEnum cls
  fields := fieldHints scope cls
  variants := variantsOf cls

def Scope.catalog : Catalog where
  profiles := scope.classes.map (profile scope)
  made mem := mem.made.map (profile { scope with made := mem.made })
end RouteDocs.Class
