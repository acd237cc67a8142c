import RouteDocs.Class.Basic

/-! # Names with a meaning -/

namespace RouteDocs.Class

section
inductive ReservedFault where
  | unfit
  | endedName
  | taken (place : String)
  | noTable

def endedNameMessage : String := "type name must not contain null characters"

def takenMessage (place : String) : String :=
  let shown := (Hint.words place).shown
  s!"{shown} in __slots__ conflicts with class variable"

def placesName : String := "__slots__"

def placeWords : Hint -> Option (List String)
  | .text pieces => (Text.ofPieces? pieces).map fun word => [String.ofList word]
  | .list items | .row items | .set items | .frozenSet items => words items
  | .dict entries => words (entries.map Prod.fst)
  | _ => none
where
  words (items : List Hint) : Option (List String) := items.mapM fun item => match item with
      | .text pieces => (Text.ofPieces? pieces).map String.ofList
      | _ => none

def ownPlace (cls : String) (place : String) : String :=
  let owner := cls.toList.dropWhile (· = '_')
  let isHidden := ['_', '_'].isPrefixOf place.toList && !(['_', '_'].isSuffixOf place.toList)
  if isHidden && !owner.isEmpty then "_" ++ String.ofList owner ++ place else place

def singlePlaces : List String := ["__dict__", "__weakref__"]

variable (attrs : OrderedMap String Attr) (scope : Scope) (name : String)

def hasPlace (place : String) (cls : Class) : Bool :=
  (scope.line cls).any fun ancestor => ancestor.places?.all fun places => places.contains place

def placeAttribute (cls : String) (place : String) : Attr :=
  .place ("<member '" ++ place ++ "' of '" ++ cls ++ "' objects>")

def placesOf (bases : List Class)
    (attrs : OrderedMap String Attr) : Except ReservedFault (Option (List String)) := do
  let some found := attrs.get? placesName | return none
  let some words := placeWords found.value | throw .unfit
  if words.any fun word => !Text.isIdentifier word.toList then throw .unfit
  let single := words.filter fun word => word ∈ singlePlaces
  if single.any fun word => single.count word > 1 || bases.any (hasPlace scope word) then
    throw .unfit
  let taken (word : String) : Bool := match attrs.get? (ownPlace name word) with
    | some .hidden | none => ownPlace name word ∈ ["__module__", "__annotations__"]
    | some _ => true
  if let some word := words.find? fun word => word ∉ singlePlaces && taken word then
    throw (.taken word)
  return some (words.map (ownPlace name))

def withPlaces (places? : Option (List String))
    (attrs : OrderedMap String Attr) : OrderedMap String Attr :=
  let places := (places?.getD []).filter fun place => place ∉ singlePlaces
  places.foldl (fun found place => found.insert place (placeAttribute name place)) attrs

def checkName : Except ReservedFault Unit :=
  if name.toList.contains '\x00' then throw .endedName else return ()

def wholeTitleName : String := "__qualname__"
def selfName : String := "__classcell__"

def checkReserved : Except ReservedFault Unit :=
  let isFit (found : Attr) : Bool := found.value matches .text _
  if !(attrs.get? wholeTitleName).all isFit then throw .unfit
  else if (attrs.get? selfName).isSome then throw .unfit
  else return ()

def extensionName : String := "__init_subclass__"

def checkExtension (ancestors : List Nat) : Except ReservedFault Unit :=
  let found? := (ancestors.filterMap scope.get?).findSome? fun cls => cls.attrs.get? extensionName
  match found?.map Attr.value with
  | none | some (.declared ..) => return ()
  | some _ => throw .unfit

def leftAttributes : OrderedMap String Attr :=
  OrderedMap.ofList (attrs.entries.filter fun (name, found) =>
    name ≠ wholeTitleName && !(name = notesName && found matches .given (.dict _)))

def errorMark : String := "__api_error__"

def hasErrorMark : Bool := match attrs.get? errorMark with
  | some .hidden | none => false
  | some found => found.value.isTrue
end

open Text

inductive RecordFault where
  | factoryOfClass (field : String)
  | sharedDefault (kind : String) (field : String)
  | inheritedFactory (field : String)
  | fieldName (field : String)
  | foldedName (field : String)
  | incomplete
  | unfit (name : String)
  | noCall (shown : String)
  | foreignTable
  | noHome

def sharedDefaultMessage (kind : String) (field : String) : String :=
  s!"mutable default <class '{kind}'> for field {field} is not allowed: use default_factory"

def noCallMessage (shown : String) : String := s!"no signature found for builtin type {shown}"

def Attr.mutableKind? : Attr -> Option String
  | given (.list _) => some "list"
  | given (.dict _) => some "dict"
  | given (.proxy _) => some "mappingproxy"
  | hidden => some "pydantic.fields.ModelPrivateAttr"
  | _ => none

def recordTableName : String := "__dataclass_fields__"

variable (scope : Scope) (cls : Class) (name : String)

def recordAttribute? : Option Attr :=
  let inherited := (scope.line cls).tail.any fun ancestor => ancestor.recordFields?.isSome
  if name = "__dict__" then some (.given (.proxy (.dict [])))
  else if name = "__annotations__" then some (.given cls.noteTable)
  else if name = "__dataclass_params__" then none
  else if name = recordTableName && inherited && !cls.attrs.contains name then
    some (.given (.dict []))
  else match scope.attribute? cls name with
    | some (.place _) => none
    | found? => found?

def recordField (hint : Hint) (found? : Option Attr) : Except RecordFault RecordField :=
  if hint matches .classField _ then
    if found? matches some .factory then .error (.factoryOfClass name)
    else .ok ⟨hint, true, false⟩
  else match found? >>= Attr.mutableKind? with
    | some kind => .error (.sharedDefault kind name)
    | none => .ok ⟨hint, false, found?.isSome⟩

def inheritsFactory : String × RecordField -> Bool
  | (name, field) =>
    !field.isOfClass && name ≠ "__dataclass_params__" && (scope.attribute? cls name) matches some .factory &&
      !cls.attrs.contains name

def isFolded : Bool := compatibilityForm name.toList ≠ name.toList
def isParameter : Bool := Expr.isName name && name ≠ "__debug__"

def inheritedFields : List (String × RecordField) :=
  ((scope.line cls).tail.reverse.filterMap scope.recordFields?).flatMap OrderedMap.entries

def beginsPlainly (text : Chars) : Bool :=
  let inner := text.dropWhile isBlank
  match inner.takeWhile isWord, (inner.dropWhile isWord).dropWhile isBlank with
  | [], _ => false
  | _, '.' :: rest => !((rest.dropWhile isBlank).head?.any isWord)
  | _, _ => true

def isLookedUp : Hint -> Bool
  | .text pieces => ((ofPieces? pieces).map beginsPlainly).getD false
  | .reference given => beginsPlainly given.toList
  | _ => false

/-- Whether a class has something else where records keep their fields; `isNothing` says
whether a value there is as good as none. -/
def hasForeignTable (isNothing : Hint -> Bool) (cls : Class) : Bool :=
  let found? := (scope.line cls).findSome? fun ancestor =>
    if ancestor.recordFields?.isSome then some false
    else (ancestor.attrs.get? recordTableName).map fun found => !isNothing found.value
  found?.getD false

def collectRecord : Except RecordFault (OrderedMap String RecordField) := do
  if (scope.line cls).tail.any (hasForeignTable scope (· matches .nothing)) ||
      cls.attrs.contains notesName then
    throw .foreignTable
  let isHome := cls.homeValue.same (Hint.words Hint.declaredHome)
  let own <- cls.notes.entries.mapM fun (name, hint) => do
    if !isHome && isLookedUp hint then throw .noHome
    return (name, <- recordField name hint (recordAttribute? scope cls name))
  if let some (name, _) := own.find? (inheritsFactory scope cls) then
    throw (.inheritedFactory name)
  if let some name := ["__doc__", "__module__"].find? fun name =>
      (cls.attrs.get? name) matches some .factory then
    throw (.unfit name)
  let params := (own.filter fun (_, field) => !field.isOfClass).map Prod.fst
  if let some name := params.find? fun name => !isParameter name then
    throw (.fieldName name)
  if let some name := params.find? isFolded then throw (.foldedName name)
  return OrderedMap.ofList (inheritedFields scope cls ++ own)

def checkCall : Except RecordFault Unit :=
  let own? (name : String) : Option Hint := (cls.attrs.get? name).map Attr.value
  let isFit (name : String) : Bool := (own? name).all fun found =>
    found matches .nothing | .declared ..
  let described? := (scope.attribute? cls "__signature__").map Attr.value
  if cls.docValue.isTrue then .ok ()
  else if !(described?.all fun found => found matches .nothing) then
    .error (.unfit "__signature__")
  else if !isFit "__new__" then .error (.unfit "__new__")
  else if !isFit "__init__" then .error (.unfit "__init__")
  else if own? "__init__" matches some .nothing then .error (.noCall cls.hint.shown)
  else .ok ()

def asRecord : Except RecordFault Class := do
  if !cls.homeValue.isKey then throw (.unfit "__module__")
  let fields <- collectRecord scope cls
  let kept := cls.attrs.entries.filter fun (name, found) =>
    !(cls.notes.contains name && found matches .factory)
  let record := { cls with
    recordFields? := some fields, attrs := OrderedMap.ofList kept }
  if !cls.isComplete then throw .incomplete
  checkCall scope record
  return record
end RouteDocs.Class
