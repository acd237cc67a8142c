import RouteDocs.Class.Method.Common

/-! # What classes make -/

namespace RouteDocs.Class
namespace VM
open Eval

def numeralChars? (value : Hint) : Eval (Option Chars) := do
  match <- opened value with
  | .text pieces => return some (pieces.map fun piece => match piece with
    | .char c => c
    | .surrogate _ => '?')
  | .octets bytes | .octetList bytes => return some (bytes.map Char.ofNat)
  | _ => return none

def toWhole (value : Hint) : Eval Hint := do
  match value, value.int?, <- numeralChars? value with
  | _, some n, _ => return .int n
  | .real number, none, _ => nearbyWhole cutWhole number
  | _, none, some chars => return .int (<- lift (Numeral.whole (<- opened value) 10 chars))
  | _, none, none => misfit

def toWholeIn (value base : Hint) : Eval Hint := do
  match base.int?, <- numeralChars? value with
  | some base, some chars =>
    if base < 0 || base = 1 || 36 < base then
      throw (.badValue "int() base must be >= 2 and <= 36, or 0")
    return .int (<- lift (Numeral.whole (<- opened value) base.toNat chars))
  | _, _ => misfit

def toReal (value : Hint) : Eval Hint := do
  match value.asReal?, <- numeralChars? value with
  | some found, _ => return .real (<- lift found)
  | none, some chars => return .real (<- lift (Numeral.real (<- opened value) chars))
  | none, none => misfit

def toComplex (first second? : Option Hint) : Eval Hint := do
  let parts (value : Hint) : Eval Number.Complex := do
    let some found := value.asComplex? | misfit
    lift found
  match first, second? with
  | some (.text pieces), none =>
    match Text.ofPieces? pieces with
    | some chars =>
      let (a, b) <- lift (Numeral.complex chars)
      return .complex a b
    | none => throw (.badValue "complex() arg is a malformed string")
  | some (.complex a b), none => return .complex a b
  | first, second? =>
    let own <- parts (first.getD (.int 0))
    let some second := second? | return .complex own.real own.imaginary
    let other <- parts second
    let real := if second matches .complex .. then own.real.sub other.imaginary else own.real
    let imaginary := if first.any fun value => value matches .complex .. then
        own.imaginary.add other.real
      else other.real
    return .complex real imaginary

variable (vm : VM) (args : Args) (name : String) (scope : Scope) (cls : Class)

def toText : Eval Hint := do
  match <- args.fit 0 ["object", "encoding", "errors"] with
  | [none, _, _] => return .text []
  | [some value, none, none] => return .text (<- vm.ownText value)
  | [some value, encoding?, errors?] =>
    match <- opened value with
    | .octets bytes | .octetList bytes => decodedText bytes encoding? errors?
    | _ => misfit
  | _ => misfit

def toBytes : Eval (List Nat) := do
  match <- args.fit 0 ["source", "encoding", "errors"] with
  | [none, none, none] => return []
  | [some (.text pieces), some encoding, errors?] => encodedText pieces (some encoding) errors?
  | [some value, none, none] =>
    match <- opened value, value.int? with
    | .octets bytes, _ | .octetList bytes, _ => return bytes
    | .text _, _ => misfit
    | _, some n =>
      if !Hint.isPlace n then throw .outOfRange
      else if n < 0 then throw (.badValue "negative count")
      else lift (Hint.repeated n [0])
    | _, none => (<- vm.items value).mapM (byteOf "bytes")
  | _ => misfit

def systemErrors : List (Int × String) := [
  (1, "PermissionError"), (2, "FileNotFoundError"), (3, "ProcessLookupError"),
  (4, "InterruptedError"), (10, "ChildProcessError"), (11, "BlockingIOError"),
  (13, "PermissionError"), (17, "FileExistsError"), (20, "NotADirectoryError"),
  (21, "IsADirectoryError"), (32, "BrokenPipeError"), (103, "ConnectionAbortedError"),
  (104, "ConnectionResetError"), (108, "BrokenPipeError"), (110, "TimeoutError"),
  (111, "ConnectionRefusedError"), (114, "BlockingIOError"), (115, "BlockingIOError")]

def encodingErrors : List (String × Nat) :=
  [("UnicodeDecodeError", 5), ("UnicodeEncodeError", 5), ("UnicodeTranslateError", 4)]

def isError (value : Hint) : Bool := value matches .error ..

def checkGroup (args : List Hint) : Eval Unit := do
  let [.text _, errors] := args | misfit
  if !(errors matches .cell .list _ | .row _) then misfit
  match <- vm.items errors with
  | [] => throw (.badValue "second argument (exceptions) must be a non-empty sequence")
  | items =>
    if !items.all isError then
      throw (.badValue "Item 0 of second argument (exceptions) is not an exception")

def toError (args : Args) : Eval Hint := do
  let line := Standard.lineOf Standard.lineDepth name
  let extends_ (wanted : String) : Bool := line.any fun entry => entry.1 = wanted
  let plain := args.plain
  let allowed := if extends_ "ImportError" then ["name", "path"]
    else if extends_ "AttributeError" then ["name", "obj"]
    else if extends_ "NameError" then ["name"] else []
  if args.named.any fun (word, _) => !allowed.contains word then misfit
  if (encodingErrors.lookup name).any fun count => plain.length ≠ count then misfit
  if extends_ "BaseExceptionGroup" then vm.checkGroup plain
  let name := if name = "OSError" && 2 <= plain.length then
      ((plain.head?.bind Hint.int?).bind fun n => systemErrors.lookup n).getD name
    else name
  newError (.standard name) (if extends_ "OSError" && 2 < plain.length then plain.take 2 else plain)

def toRange : Eval Hint := do
  let given <- args.between 1 3
  match given.mapM Hint.int? with
  | some [stop] => return .range 0 stop 1
  | some [start, stop] => return .range start stop 1
  | some [start, stop, step] =>
    if step = 0 then throw (.badValue "range() arg 3 must not be zero")
    return .range start stop step
  | _ => misfit

def newInstance (name shown : String) (parts : NamedHints := []) : Eval Hint := do
  let number <- keep (.attrs parts)
  return .inst (.builtin (.ofStandardName name)) (number + wrapBase) shown

def wrapped (args : Args) : Eval Hint := do
  let inner <- args.one
  let shown <- shownIn inner
  newInstance name s!"<{name}({shown})>" [("__func__", inner)]

def toClass (name bases table : Hint) : Eval Hint := do
  let some name := nameOf? name | misfit
  match bases, <- tableIn? table with
  | .row bases, some table =>
    let entries := table.toList.filterMap fun (key, value) => (nameOf? key).map fun word =>
      (word, value)
    let home? <- (<- get).current.names.inner.get? vm.scope "__name__"
    vm.makeClass { name, bases, entries, home? }
  | _, _ => misfit

def toStream (args : Args) : Eval Hint := do
  match name, args.plain with
  | "enumerate", _ =>
    let [some source, start?] <- args.fit 1 ["iterable", "start"] | misfit
    let start := (start?.getD (.int 0)).int?
    let some n := start | misfit
    newStream name (.numbered n (<- vm.streamOf source))
  | "reversed", _ => vm.reversed (<- args.one)
  | "zip", sources =>
    let [strict?] <- ({ args with plain := [] } : Args).fit 0 [] ["strict"] | misfit
    let isStrict <- flagArgument strict?
    newStream name (.zipped (<- sources.mapM vm.streamOf) isStrict)
  | "map", callee :: source :: others =>
    if !args.named.isEmpty then misfit
    newStream name (.mapped callee (<- (source :: others).mapM vm.streamOf))
  | "filter", [callee, source] =>
    if !args.named.isEmpty then misfit
    newStream name (.chosen callee (<- vm.streamOf source))
  | _, _ => misfit

def methodParts? : Eval (Option (Hint × Hint)) := do
  let env := (<- get).current
  match env.frames with
  | number :: rest =>
    match <- content? number, <- variableIn "__class__" false rest with
    | some (.frame ((_, some self) :: _) _), some cls => return some (cls, self)
    | _, _ => return none
  | [] => return none

def asAncestor : Eval Hint := do
  let parts <- match <- args.between 0 2 with
    | [cls, self] => pure (cls, self)
    | [] =>
      let some found <- methodParts? | throw .disturbed
      pure found
    | _ => misfit
  let (cls, self) := parts
  let scope <- vm.scopeNow
  let start := if self matches .declared .. then self else self.classHint
  match cls, start with
  | .declared number _, .declared own _ =>
    if number ≠ own && number ∉ scope.ancestorsOf own then misfit
    newInstance "super" "<super>" [("__thisclass__", cls), ("__self__", self)]
  | _, _ => misfit

def madeByStandard (args : Args) : Eval Hint := do
  match name with
  | "complex" =>
    let [first?, second?] <- args.fit 0 ["real", "imag"] | misfit
    toComplex first? second?
  | "range" => toRange args
  | "slice" =>
    match <- args.between 1 3 with
    | [stop] => return .slice .nothing stop .nothing
    | [start, stop] => return .slice start stop .nothing
    | [start, stop, step] => return .slice start stop step
    | _ => misfit
  | "type" =>
    let [name, bases, table] := args.plain | return (<- args.one).classHint
    vm.toClass name bases table
  | "object" =>
    args.none
    return .thing .plain (.builtin .object) (<- newNumber)
  | "enumerate" | "reversed" | "zip" | "map" | "filter" => vm.toStream name args
  | "bytearray" => newOctets (<- vm.toBytes args)
  | "classmethod" | "staticmethod" => wrapped name args
  | "property" =>
    let get? :: set? :: _ <- args.fit 0 ["fget", "fset", "fdel", "doc"] | misfit
    newInstance name "<property object>"
      [("fget", get?.getD .nothing), ("fset", set?.getD .nothing)]
  | "memoryview" =>
    discard (bytesArgument (<- args.one))
    newInstance name "<memory>"
  | "super" => vm.asAncestor args
  | "mappingproxy" =>
    let value <- args.one
    if (<- tableIn? value).isNone then misfit
    return .proxy value
  | "NoneType" =>
    args.none
    return .nothing
  | "ellipsis" =>
    args.none
    return .dots
  | "NotImplementedType" =>
    args.none
    return .notImplemented
  | "GenericAlias" =>
    let (cls, items) <- args.two
    match cls, items with
    | .builtin cls, .row items => return .generic cls items
    | .builtin cls, item => return .generic cls [item]
    | _, _ => misfit
  | _ => if Standard.isError name then vm.toError name args else misfit

def onlyItems : Eval (List Hint) := do
  match <- args.between 0 1 with
  | value :: _ => vm.items value
  | [] => return []

def madeBy (cls : Builtin) (args : Args) : Eval Hint := do
  match cls with
  | .int =>
    match <- args.fit 0 ["", "base"] with
    | [none, none] => return .int 0
    | [some value, none] => toWhole value
    | [some value, some base] => toWholeIn value base
    | _ => misfit
  | .float =>
    match <- args.between 0 1 with
    | value :: _ => toReal value
    | [] => return .real (.zero false)
  | .bool =>
    match <- args.between 0 1 with
    | value :: _ => return .truth (<- vm.isTrue value)
    | [] => return .truth false
  | .str => vm.toText args
  | .bytes => return .octets (<- vm.toBytes args)
  | .list => newList (<- vm.onlyItems args)
  | .tuple => return .row (<- vm.onlyItems args)
  | .set =>
    match <- args.between 0 1 with
    | value :: _ => newSet (<- vm.bucketsFrom value)
    | [] => newSet {}
  | .frozenset =>
    match <- args.between 0 1 with
    | .frozenSet items :: _ => return .frozenSet items
    | value :: _ => return .frozenSet (<- vm.bucketsFrom value).items
    | [] => return .frozenSet []
  | .dict => newTable (<- vm.updated {} args)
  | .none =>
    args.none
    return .nothing
  | .standard name => vm.madeByStandard name args
  | _ =>
    if cls.line.contains errorClass then newError cls args.plain
    else misfit

def defaultOf (name : String) : Eval Hint := do
  let scope <- vm.scopeNow
  match scope.attribute? cls name with
  | some .factory | none => newList []
  | some found => keptValue (keeperOf (scope.line cls) name) name found.value

def newRecord (fields : OrderedMap String RecordField) (args : Args) : Eval Hint := do
  let own := fields.entries.filter fun (_, field) => !field.isOfClass
  if !args.plain.isEmpty ||
      args.named.any fun (word, _) => own.all fun (name, _) => name ≠ word then
    misfit
  let entries <- own.mapM fun (name, field) => do
    match args.named.lookup name with
    | some value => return (name, value)
    | none =>
      if !field.hasDefault then misfit
      return (name, <- vm.defaultOf cls name)
  newThing .record cls.hint entries

def fitsField (hint value : Hint) : Bool := match hint with
  | .builtin .any | .builtin (.standard "object") => true
  | .builtin cls => value.classOf = cls
  | .declared number _ => value.classHint.same (.declared number "")
  | .union members | .bars members => members.any fun member => member.same (.builtin value.classOf)
  | _ => false

def newModel (args : Args) : Eval Hint := do
  if !args.plain.isEmpty then misfit
  let entries <- cls.modelFields.entries.mapM fun (name, field) => do
    match args.named.lookup name with
    | some value =>
      if !fitsField field.hint value then throw .unsound
      return (name, value)
    | none =>
      if field.isRequired then throw .unsound
      return (name, <- vm.defaultOf cls name)
  newThing .model cls.hint entries

def constantOf (number : Nat) (args : Args) : Eval Hint := do
  let scope <- vm.scopeNow
  let own := ((scope.get? number).map Class.name).getD ""
  match args.plain, <- args.fit 1 ["value"] with
  | [.const owner name value], _ =>
    if owner.same (.declared number "") then return .const owner name value
    let shown <- shownIn (.const owner name value)
    throw (.badValue s!"{shown} is not a valid {own}")
  | _, [some given] =>
    let known <- frozen given
    let found := (constantsOf scope number).find? fun const => match const with
      | .const _ _ value => value.equals known
      | _ => false
    match found with
    | some const => return const
    | none =>
      let shown <- shownIn given
      throw (.badValue s!"{shown} is not a valid {own}")
  | _, _ => misfit

def changingClasses : List Builtin := [.list, .set, .dict, .standard "bytearray"]

def kindOf : ThingKind :=
  let compares := (scope.line cls).find? fun ancestor =>
    ancestor.attrs.contains "__eq__" || ancestor.attrs.contains "__hash__"
  let isKept := compares.all fun ancestor => match ancestor.attrs.get? "__hash__" with
    | some found => !(found.value matches .nothing)
    | none => false
  let isChanging := (coreClass? scope cls.number).any changingClasses.contains
  if compares.isSome && !isKept || compares.isNone && isChanging then .changing else .plain

def newBare (args : Args) : Eval Hint := do
  let own? <- vm.classMember? cls.number "__init__"
  let begins := own? matches some (.fn ..)
  let core <- match coreClass? scope cls.number with
    | some found =>
      let given := if begins && changingClasses.contains found then {} else args
      pure [(coreName, <- vm.madeBy found given)]
    | none => pure []
  let parts := if scope.isErrorClass cls.hint then [("args", .row args.plain)] else []
  newThing (kindOf scope cls) cls.hint (core ++ parts)

def newPlain (args : Args) : Eval Hint := do
  let (made, isFree) <- match <- vm.classMember? cls.number "__new__" with
    | some (.fn method name) => do
      let made <- vm.call (.fn method name)
        { args with plain := cls.hint :: args.plain }
      pure (made, true)
    | _ => pure (<- vm.newBare scope cls args, false)
  if !made.classHint.same cls.hint then return made
  match <- vm.special? made "__init__" with
  | some method =>
    if !((<- vm.call method args) matches .nothing) then misfit
  | none =>
    if !isFree && (scope.foreignLine cls.number).isEmpty then args.none
  return made

def madeByDeclared (number : Nat) (args : Args) : Eval Hint := do
  let scope <- vm.scopeNow
  let some cls := scope.get? number | misfit
  if !cls.constants.isEmpty then vm.constantOf number args
  else if cls.isModel then vm.newModel cls args
  else match scope.recordFields? cls with
    | some fields => vm.newRecord cls fields args
    | none => vm.newPlain scope cls args

def extends_ (scope : Scope) : Hint -> Hint -> Bool
  | .builtin cls, .builtin wanted => cls.extends_ wanted
  | .declared number _, .declared wanted _ => number = wanted || wanted ∈ scope.ancestorsOf number
  | .declared number _, .builtin wanted =>
    wanted = .object || (scope.foreignLine number).contains wanted
  | _, _ => false

def classDepth : Nat := 500

def extendsAny (vm : VM) (cls : Hint) : (depth : Nat) -> Hint -> Eval Bool
  | 0, _ => throw .tooDeep
  | depth + 1, wanted => do
    match wanted with
    | .builtin .any => misfit
    | .builtin _ | .declared .. => return extends_ (<- vm.scopeNow) cls wanted
    | .row items => items.anyM fun item => vm.extendsAny cls depth item
    | .bars members =>
      if members.any fun member => member matches .generic .. then misfit
      members.anyM fun member => vm.extendsAny cls depth member
    | .union members => members.anyM fun member => vm.extendsAny cls depth member
    | .form form =>
      let some origin := form.origin? | misfit
      return extends_ (<- vm.scopeNow) cls (.builtin origin)
    | _ => misfit

def classOf (value : Hint) : Hint := value.classHint
def isInstance (value wanted : Hint) : Eval Bool := vm.extendsAny (classOf value) classDepth wanted

def isCallable : Hint -> Bool
  | .builtin _ | .declared .. | .generic .. | .routine _ | .bound .. | .fn ..
  | .form _ | .formOf .. | .leftOpen .. | .union _ | .classField _ => true
  | .method kind _ _ => kind = .method || kind = .op
  | .inst _ number _ => 3 <= number && number <= 5
  | _ => false
end VM
end RouteDocs.Class
