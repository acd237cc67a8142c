import RouteDocs.Class.Evaluation

/-!
# Fields of models

The results about classes have the fields of each class as a parameter, so none rests on how a model
finds them. What a model checks in values is left out.
-/

namespace RouteDocs.Class
open OrderedMap Form

namespace Hint
def referenceDepth : Nat := 64

/-- What a text stands for. `around` are the texts in whose values it stands, and `isWhole`
says whether it stands for the whole type of a field. -/
def look (scope : Scope) (names : Names) : (depth : Nat) -> (env : List String) ->
    (isWhole : Bool) -> String -> Eval Hint
  | 0, _, _, given => return .reference given
  | depth + 1, env, isWhole, given => do
    if given ∈ env then return .reference given
    let expr <- Eval.lift ((Expr.readSound given).mapError .text)
    let found <- Eval.lift ((<- expr.evaluate scope names).asArgument isWhole)
    found.replace (look scope names depth (given :: env) (isWhole && found.isReference))

def resolve (scope : Scope) (names : Names) (hint : Hint) : Eval Hint := do
  let noted <- Eval.lift hint.asNote
  noted.replace (look scope names referenceDepth [] noted.isReference)
end Hint

namespace Eval
def outcome {α : Type} (evaluation : Eval α) : Tried α := (evaluation.run.run {}).1
end Eval

def Scope.entries (scope : Scope) : NamedHints :=
  scope.names.entries.filterMap (fun (name, _) =>
    (scope.class? name).map fun found => (name, found)) ++ homeNames

inductive Obstacle where
  | reserved (name : String)
  | ownDefault (name : String)
  | undefined
  | unsupported
  | filledClass
  | hint (fault : HintFault)

variable (scope : Scope)

def modelNamesWith (further : NamedHints) (cls : Class) : Names where
  outer := .fixed ((cls.name, cls.hint) :: cls.ownEntries ++ further ++ scope.entries)
  inner := .home

def modelNames (cls : Class) : Names := modelNamesWith scope [] cls
def checkNames (model cls : Class) : Names := modelNamesWith scope [(model.name, model.hint)] cls

variable (model : Class) (name : String) (bases : List Class) (names : Names)

def resolveNoted (noted : Hint) : Tried Hint :=
  match (noted.resolve scope names).outcome with
  | .error .misfit => .error (if noted matches .reference _ then .misfit else .unsound)
  | found => found

def tryResolve (hint : Hint) : Tried (Hint × Bool) := do
  let noted <- hint.asNote
  match resolveNoted scope names noted with
  | .ok resolved => return (resolved, true)
  | .error (.undefined _) => return (noted, false)
  | .error fault => throw fault

def isPrivate : Bool := name.toList.head? = some '_'

def modelNote (name : String) (hint : Hint) : Tried (Hint × Bool) :=
  match tryResolve scope names hint with
  | .ok found => .ok found
  | .error fault => if isPrivate name then .ok (hint, false) else .error fault

def modelNotes : Tried (OrderedMap String (Hint × Bool)) := do
  let found <- (scope.line model).reverse.mapM fun cls =>
    cls.notes.entries.mapM fun (name, hint) => do
      return (name, <- modelNote scope (modelNames scope cls) name hint)
  return ofList found.flatten

def baseFields : OrderedMap String ModelField :=
  ofList (bases.reverse.flatMap fun base => base.modelFields.entries)

def dropQualifier (text : Chars) : Chars :=
  match text.takeWhile Text.isWord, text.dropWhile Text.isWord with
  | _ :: _, '.' :: behind => behind
  | _, _ => text

def behind? (start : String) (text : Chars) : Option Chars :=
  if start.toList.isPrefixOf text then some (text.drop start.length) else none

def readsAsClassField (text : Chars) : Bool :=
  let inner := (behind? "Annotated[" (dropQualifier text)).getD text
  (behind? "ClassVar[" (dropQualifier inner)).isSome

def isClassField : Hint -> Bool
  | .classField _ => true
  | .form given => given = classField
  | .formOf given (inner :: _) =>
    given = annotated && (match inner with
      | .classField _ => true
      | .form alone => alone = classField
      | _ => false)
  | .reference given => readsAsClassField given.toList
  | .text pieces => readsAsClassField ((Text.ofPieces? pieces).getD [])
  | _ => false

def isFinal : Hint -> Bool
  | .form given => given = final
  | .formOf given (inner :: _) =>
    given = final || (given = annotated && (match inner with
      | .formOf outer _ | .form outer => outer = final
      | _ => false))
  | _ => false

def fieldType : Hint -> Hint
  | .formOf given (inner :: rest) =>
    if given = annotated || given = final then fieldType inner
    else .formOf given (inner :: rest)
  | .form given => if given = final then .builtin .any else .form given
  | hint => hint

def reservedStarts : List String := ["model_validate", "model_dump"]

def hasOther (base : Class) : Bool :=
  (scope.attribute? base name).isSome && !(base.isModel && base.modelFields.contains name)

def isReserved (name : String) : Bool :=
  reservedStarts.any (fun start => start.toList.isPrefixOf name.toList) &&
    (if bases.isEmpty then decide (name ∈ modelAttributes) else bases.any (hasOther scope name))

def isShared : Hint -> Bool
  | .truth _ | .dots | .declared _ _ => true
  | .int value => -5 <= value && value <= 256
  | _ => false

def namesItself : Option Hint -> Bool
  | some (.reference given) =>
    match Expr.read given with
    | .ok (.name word) => word = name && word ≠ model.name && model.attrs.contains name
    | _ => false
  | _ => false

def isOwnDefault (hint : Hint) (found : Attr) : Bool :=
  let noted? := (model.notes.get? name) >>= fun noted => noted.asNote.toOption
  (isShared hint && hint.isIdentical found.value) ||
    (namesItself model name noted? && !(found.value matches .text _ | .nothing))

def modelField (model : Class) (name : String)
    (hint : Hint) (isResolved : Bool) : Except Obstacle ModelField :=
  match scope.attribute? model name, (baseFields bases).get? name with
  | some found, _ =>
    if isResolved && isOwnDefault model name hint found then .error (.ownDefault name)
    else .ok ⟨hint, found matches .required, isResolved⟩
  | none, some inherited =>
    .ok (if model.notes.contains name then ⟨hint, true, isResolved⟩ else inherited)
  | none, none => .ok ⟨hint, true, isResolved⟩

def settingsName : String := "model_config"

def hasDefault : Bool := match scope.attribute? model name with
  | none | some .required | some .factory => false
  | some _ => true

def collectFrom (scope : Scope) (bases : List Class) (model : Class) :
    List (String × Hint × Bool) -> Except Obstacle (List (String × ModelField) × List String)
  | [] => .ok ([], [])
  | (name, hint, isResolved) :: rest =>
    if name = settingsName then collectFrom scope bases model rest
    else if isReserved scope bases name then .error (.reserved name)
    else if isClassField hint || (isFinal hint && hasDefault scope model name) then do
      let (fields, ofClass) <- collectFrom scope bases model rest
      return (fields, name :: ofClass)
    else if isPrivate name then collectFrom scope bases model rest
    else do
      let field <- modelField scope bases model name (fieldType hint) isResolved
      let (fields, ofClass) <- collectFrom scope bases model rest
      return ((name, field) :: fields, ofClass)

def settle (fields : OrderedMap String ModelField) : Except Obstacle (List Hint) :=
  fields.values.mapM fun field =>
    if field.isResolved then .ok field.hint
    else match resolveNoted scope names field.hint with
      | .ok hint => .ok hint
      | .error (.undefined _) => .error .undefined
      | .error fault => .error (.hint fault)

inductive Checking where
  | none
  | asWhole
  | asItems
  | asRow
  | asTable
  | asClass
deriving DecidableEq

def checkableClasses : List (String × Checking) := [
  ("collections.Counter", .asItems), ("collections.OrderedDict", .asTable),
  ("collections.abc.Callable", .asWhole), ("collections.abc.Generator", .asItems),
  ("collections.abc.Hashable", .asWhole), ("collections.abc.Iterable", .asItems),
  ("collections.abc.Mapping", .asTable), ("collections.abc.MutableMapping", .asTable),
  ("collections.abc.MutableSequence", .asItems), ("collections.abc.MutableSet", .asItems),
  ("collections.defaultdict", .asTable), ("collections.deque", .asItems),
  ("datetime.time", .asWhole), ("datetime.timedelta", .asWhole), ("fractions.Fraction", .asWhole),
  ("os.PathLike", .asItems), ("pathlib.Path", .asWhole), ("pathlib.PosixPath", .asWhole),
  ("pathlib.PurePath", .asWhole), ("pathlib.PurePosixPath", .asWhole),
  ("pathlib.PureWindowsPath", .asWhole), ("re.Pattern", .asWhole)]

def Builtin.checking : Builtin -> Checking
  | standard name =>
    if name = "type" then .asClass
    else if name = "complex" || name = "object" then .asWhole
    else .none
  | library module name =>
    let full := module ++ "." ++ name
    if full ∈ Library.enumerations then .asWhole else (checkableClasses.lookup full).getD .none
  | tuple => .asRow
  | dict => .asTable
  | _ => .asItems

def checkAlone (cls : Builtin) : Except Obstacle Unit :=
  if cls.checking = .none then .error .unsupported else .ok ()

def checkableForms : List String := ["Final", "Self"]

def checkRoutine : Except Obstacle Unit := if name = "anext" then
    .error (.hint (.badValue "<built-in function anext> builtin has invalid signature"))
  else if name ∈ Standard.unsigned then
    .error (.hint (.badValue s!"no signature found for builtin <built-in function {name}>"))
  else .ok ()

def checkClassHint : Hint -> Except Obstacle Unit
  | .builtin _ | .declared _ _ | .nothing => .ok ()
  | .generic .. => .error .filledClass
  | .formOf given _ => .error (if given.origin?.isSome then .filledClass else .hint .misfit)
  | _ => .error (.hint .misfit)

def checkClasses : Hint -> Except Obstacle Unit
  | .union members | .bars members => members.forM checkClassHint
  | hint => checkClassHint hint

def checkedCount (cls : Builtin) (args : List Hint) : Except Obstacle Nat := match cls.checking with
  | .none => .error .unsupported
  | .asClass => do
    (args.take 1).forM checkClasses
    return 0
  | .asRow =>
    match args with
    | [.row []] => .ok 0
    | [_, .dots] => .ok 1
    | args =>
      if args.getLast? matches some .dots then
        .error (.hint (.badValue "Variable tuples can only have one type"))
      else .ok args.length
  | .asTable => if args.length = 1 then .error (.hint .misfit) else .ok 2
  | .asItems => .ok 1
  | .asWhole => .ok 0

def checkedCountIn (form : Form) (args : List Hint) : Except Obstacle Nat :=
  match form.origin?, form.shape with
  | some origin, _ => checkedCount origin args
  | none, .values => .ok 0
  | none, .noted => .ok 1
  | none, .single => if form = final then .ok 1 else .error .unsupported
  | none, _ => .error .unsupported

mutual
def checkHint (checkClass : Nat -> Except Obstacle Unit)
    (look : String -> Except Obstacle Unit) : Hint -> Except Obstacle Unit
  | .nothing | .fn .. | .leftOpen .. => .ok ()
  | .builtin cls => checkAlone cls
  | .form given =>
    match given.origin? with
    | some origin => checkAlone origin
    | none => if given.name ∈ checkableForms then .ok () else .error .unsupported
  | .declared number _ => checkClass number
  | .reference given => look given
  | .routine name => checkRoutine name
  | .generic cls args => do
    checkHints checkClass look (<- checkedCount cls args) args
  | .formOf given args => do
    checkHints checkClass look (<- checkedCountIn given args) args
  | .union members | .bars members => checkHints checkClass look members.length members
  | .dict _ => .error (.hint .noKey)
  | _ => .error .unsupported

/-- The same check for the first `count` of some hints. -/
def checkHints (checkClass : Nat -> Except Obstacle Unit)
    (look : String -> Except Obstacle Unit) : (count : Nat) -> List Hint -> Except Obstacle Unit
  | 0, _ | _, [] => .ok ()
  | count + 1, hint :: rest => do
    checkHint checkClass look hint
    checkHints checkClass look count rest
end

def recordHints (record : Class) (fields : OrderedMap String RecordField) :
    Tried (OrderedMap String (Hint × Bool)) := do
  let line := (scope.line record).reverse.filter fun cls => (scope.recordFields? cls).isSome
  let found <- line.mapM fun cls =>
    (fields.entries.filter fun (name, _) => cls.notes.contains name).mapM fun (name, field) => do
        return (name, <- tryResolve scope (modelNames scope cls) field.hint)
  return ofList found.flatten

def checkedHints (model cls : Class) : Except Obstacle (Option (List Hint)) :=
  let names := checkNames scope model cls
  if scope.isEnum cls then .ok none
  else if cls.isModel then
    if cls.isComplete then .ok none else (settle scope names cls.modelFields).map some
  else match scope.recordFields? cls with
    | none => .error .unsupported
    | some fields => do
      let found <- (recordHints scope cls fields).mapError .hint
      let kept := found.values.filter fun (hint, _) => !isClassField hint
      some <$> kept.mapM fun (hint, isResolved) =>
        if isResolved then .ok hint
        else match (hint.resolve scope names).outcome with
          | .ok hint => .ok hint
          | .error (.undefined _) => .error .undefined
          | .error fault => .error (.hint fault)

/-- Check that data can be checked for the hints of a class. `around` are the classes in
which they stand, and a text that stands for a text again is not declared. -/
def checkWithin (scope : Scope) (model : Class) :
    (depth : Nat) -> (env : List Nat) -> (cls : Class) -> List Hint -> Except Obstacle Unit
  | 0, _, _, _ => .ok ()
  | depth + 1, env, cls, hints =>
    let checkClass (number : Nat) : Except Obstacle Unit := if number ∈ env then .ok ()
      else match scope.get? number with
        | none => .ok ()
        | some inner => do
          let some hints <- checkedHints scope model inner | return ()
          checkWithin scope model depth (number :: env) inner hints
    let look (given : String) : Except Obstacle Unit :=
      match ((Hint.reference given).resolve scope (checkNames scope model cls)).outcome with
      | .ok (.reference _) | .error (.undefined _) => .error .undefined
      | .ok hint => checkWithin scope model depth env cls [hint]
      | .error fault => .error (.hint fault)
    checkHints checkClass look hints.length hints

def checkFields : Except Obstacle Unit := do
  let hints <- settle scope (checkNames scope model model) model.modelFields
  checkWithin scope model (2 * scope.classes.length + 2) [model.number] model hints

def asModel (cls : Class) : Except Obstacle Class := do
  let noted <- (modelNotes (scope.add cls) cls).mapError .hint
  let (fields, ofClass) <- collectFrom (scope.add cls) bases cls noted.entries
  let kept := cls.attrs.entries.filter fun (name, _) => !(fields.map Prod.fst).contains name
  let model := { cls with
    modelFields := ofList fields, attrs := ofList kept
    classFields := bases.flatMap Class.classFields ++ ofClass, isComplete := false }
  match checkFields (scope.add model) model with
  | .ok () => return { model with isComplete := true }
  | .error .undefined => return model
  | .error obstacle => throw obstacle
end RouteDocs.Class
