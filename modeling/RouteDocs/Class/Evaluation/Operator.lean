import RouteDocs.Class.Evaluation.Declaring
import RouteDocs.Class.Value.Template

/-! # How values are shown -/

namespace RouteDocs.Class.VM
open Eval

variable (vm : VM)

def hasOwnTexts : Eval Bool := do
  return !(<- get).made.isEmpty || vm.scope.classes.any fun cls => cls.style = .enumeration

def textBy (method : Hint) : Eval (List Text.Piece) := do
  let .text pieces <- vm.core (<- vm.call method {}) | misfit
  return pieces

def enumerationText (cls : Hint) : String := "<enum '" ++ cls.plainName ++ "'>"

def settledWithin (vm : VM) : (depth : Nat) -> Hint -> Eval Hint
  | 0, value => return value
  | depth + 1, value => do
    let all (items : List Hint) : Eval (List Hint) := items.mapM (settledWithin vm depth)
    match value with
    | .thing _ cls number =>
      match <- vm.special? value "__repr__" with
      | some method => return .inst cls number (Text.escapedText (<- vm.textBy method))
      | none =>
        if cls matches .builtin _ then return value
        if (<- vm.scopeNow).isErrorClass cls then
          let parts <- all (<- (<- errorParts value).mapM frozen)
          let texts := Hint.bracketed (cls.plainName ++ "(") (Hint.textsIn .alone parts) ")"
          return .inst cls number texts
        match <- vm.core value with
        | .thing .. => return value
        | inner => settledWithin vm depth (<- frozen inner)
    | .declared number _ =>
      let scope <- vm.scopeNow
      return if (scope.get? number).any scope.isEnum then
          .inst (.builtin .type) number (enumerationText value)
        else value
    | .row items => return .row (<- all items)
    | .list items => return .list (<- all items)
    | .set items => return .set (<- all items)
    | .frozenSet items => return .frozenSet (<- all items)
    | .dict entries => return .dict (<- entries.mapM fun (key, item) => do
        return (<- settledWithin vm depth key, <- settledWithin vm depth item))
    | .proxy table => return .proxy (<- settledWithin vm depth table)
    | .view kind table => return .view kind (<- settledWithin vm depth table)
    | .slice start stop step =>
      return .slice (<- settledWithin vm depth start) (<- settledWithin vm depth stop)
        (<- settledWithin vm depth step)
    | .record kind cls fields => return .record kind cls (<- fields.mapM fun (name, item) => do
        return (name, <- settledWithin vm depth item))
    | .error cls number items => return .error cls number (<- all items)
    | _ => return value

def settled (value : Hint) : Eval Hint := do
  let value <- frozen value
  if <- vm.hasOwnTexts then vm.settledWithin valueDepth value
  else return value

def settledInside (value : Hint) : Eval Hint := do
  match value, <- vm.core value with
  | .declared .., _ => return value
  | .thing .., .text pieces => return .text pieces
  | .thing .plain cls number, _ =>
    match <- vm.settled value with
    | .thing .. => return value
    | found => return .inst cls number found.shown
  | .thing .changing .., _ => return value
  | .const (.declared number _) .., .text pieces =>
    let foreign := (<- vm.scopeNow).foreignLine number
    return if foreign.contains .str then .text pieces else value
  | _, _ => vm.settled value

def shownText (vm : VM) (value : Hint) : Eval (List Text.Piece) := do
  lift (<- vm.settled value).shownText

def plainEnumerations : List String := ["enum.IntEnum", "enum.StrEnum", "enum.IntFlag"]

def ownText (value : Hint) : Eval (List Text.Piece) := do
  match value with
  | .thing _ cls _ =>
    if let some method <- vm.special? value "__str__" then return <- vm.textBy method
    if (<- vm.scopeNow).isErrorClass cls then
      return Text.pieces (<- errorText value).toList
    match <- vm.core value with
    | .text pieces => return pieces
    | _ => lift (<- vm.settled value).asText
  | .const (.declared number _) _ inner =>
    if let some method <- vm.special? value "__str__" then return <- vm.textBy method
    if ((<- vm.scopeNow).foreignLine number).any fun cls =>
        cls.shown ∈ plainEnumerations then
      lift (<- vm.settled inner).asText
    else lift (<- vm.settled value).asText
  | _ => lift (<- vm.settled value).asText
end RouteDocs.Class.VM

namespace RouteDocs.Class.VM
open Eval

def hashed (items : List Hint) : Eval (List Hint) :=
  if Hint.areKeys items then return items else misfit

variable (vm : VM)

def mergeInto (set : Buckets) (value : Hint) : Eval Buckets := do
  match value with
  | .cell .set number => return set.merge (<- bucketsOf number)
  | .frozenSet items => return set.merge (.ofList items)
  | .cell .dict number => return set.mergeKeys (<- tableOf number).keys
  | _ => return set.insertAll (<- hashed (<- vm.items value))

variable (op : BinaryOp) (first second value : Hint) (scope : Scope)

def bucketsFrom : Eval Buckets := do
  match value with
  | .cell .set number => return (<- bucketsOf number).copy
  | .view .keys table => vm.mergeInto {} table
  | _ => vm.mergeInto {} value

def isSet : Hint -> Bool
  | .cell .set _ | .set _ | .frozenSet _ => true
  | _ => false

def isSetView : Hint -> Bool
  | .view kind _ => kind ≠ .values
  | _ => false

def setLike (items : Buckets) : Eval Hint := match value with
  | .frozenSet _ => return .frozenSet items.items
  | _ => newSet items

def bucketsIn : Eval Buckets := do
  match value with
  | .cell .set number => bucketsOf number
  | .frozenSet items => return .ofList items
  | _ => return {}

def intersectWith (first : Buckets) (other : Hint) : Eval Buckets := do
  if isSet other then return first.intersect (<- bucketsIn other)
  return .ofList ((<- hashed (<- vm.items other)).filter first.contains)

def subtractFrom (first : Buckets) (other : Hint) : Eval Buckets := do
  if isSet other then return first.subtract (<- bucketsIn other)
  match other with
  | .cell .dict number =>
    let table <- tableOf number
    if first.used / 4 <= table.size then
      return .ofList (first.items.filter fun item => !table.contains item)
  | _ => pure ()
  let rest <- hashed (<- vm.items other)
  return rest.foldl (fun found item => (found.erase? item).getD found) first.copy

def toggleWith (first : Buckets) (other : Hint) : Eval Buckets := do
  if isSet other then return first.exclusive (<- bucketsIn other)
  return (<- vm.bucketsFrom other).toggle first.items

def operateOnSets : Eval (Option Hint) := do
  if isSet first && isSet second then
    let own <- bucketsIn first
    match op with
    | .bar => some <$> (setLike first (<- vm.mergeInto own.copy second))
    | .ampersand => some <$> (setLike first (<- vm.intersectWith own second))
    | .subtract => some <$> (setLike first (<- vm.subtractFrom own second))
    | .caret => some <$> (setLike first (<- vm.toggleWith own second))
    | _ => return none
  else if isSetView first || isSetView second then
    match op with
    | .bar => do
      let own <- vm.bucketsFrom first
      some <$> newSet (<- vm.mergeInto own second)
    | .ampersand => do
      let (view, other) := if isSetView first then (first, second) else (second, first)
      let own <- vm.bucketsFrom view
      let found <- hashed (<- vm.items other)
      some <$> newSet (.ofList (found.filter own.contains))
    | .subtract => do
      let own <- vm.bucketsFrom first
      let rest <- hashed (<- vm.items second)
      some <$> newSet (rest.foldl (fun found item => (found.erase? item).getD found) own)
    | .caret => do
      let own <- vm.bucketsFrom first
      let other <- vm.bucketsFrom second
      some <$> newSet (own.toggle other.items)
    | _ => return none
  else return none

def fillPlaces (pattern given : Hint) : Eval Hint := do
  let values <- vm.settled given
  match pattern with
  | .text pieces =>
    let some chars := Text.ofPieces? pieces | misfit
    return .text (<- lift (PercentPlace.fillText chars values))
  | .octets bytes => return .octets (<- lift (PercentPlace.fillOctets bytes values))
  | _ =>
    let .octetList bytes <- opened pattern | misfit
    newOctets (<- lift (PercentPlace.fillOctets bytes values))

def hasPlaces : Hint -> Bool
  | .text _ | .octets _ | .cell .octets _ => true
  | _ => false

def tableIn? : Eval (Option Table) := do
  match value with
  | .cell .dict number | .proxy (.cell .dict number) => return some (<- tableOf number)
  | .proxy (.dict entries) => return some (.ofList entries)
  | _ => return none

def binaryNames : List (String × BinaryOp) := [
  ("add", .add), ("sub", .subtract), ("mul", .multiply), ("truediv", .divide),
  ("floordiv", .floorDivide), ("mod", .remainder), ("pow", .power), ("lshift", .shiftLeft),
  ("rshift", .shiftRight), ("and", .ampersand), ("or", .bar), ("xor", .caret),
  ("matmul", .matrixMultiply)]

def comparisonNames : List (String × Comparison) := [
  ("__eq__", .equal), ("__ne__", .unequal), ("__lt__", .less), ("__le__", .atMost),
  ("__gt__", .greater), ("__ge__", .atLeast)]

def exchanged : Comparison -> Comparison
  | .less => .greater
  | .atMost => .atLeast
  | .greater => .less
  | .atLeast => .atMost
  | how => how

def isThing : Hint -> Bool
  | .thing .. | .const .. => true
  | _ => false

def answerOf (self : Hint) (name : String) (other : Hint) : Eval (Option Hint) := do
  if !isThing self then return none
  let some method <- vm.special? self name | return none
  match <- vm.call method { plain := [other] } with
  | .notImplemented => return none
  | found => return some found

def specialOperation : Eval (Option Hint) := do
  let some word := (binaryNames.find? fun entry => entry.2 = op).map Prod.fst | return none
  match <- vm.answerOf first ("__" ++ word ++ "__") second with
  | some found => return some found
  | none => vm.answerOf second ("__r" ++ word ++ "__") first

def specialComparison (how : Comparison) (first second : Hint) : Eval (Option Hint) := do
  let nameOf (how : Comparison) : String :=
    ((comparisonNames.find? fun entry => entry.2 = how).map Prod.fst).getD ""
  match <- vm.answerOf first (nameOf how) second with
  | some found => return some found
  | none =>
    match <- vm.answerOf second (nameOf (exchanged how)) first with
    | some found => return some found
    | none =>
      if how ≠ .unequal then return none
      let some found <- vm.answerOf first (nameOf .equal) second | return none
      return some (.truth (!(<- vm.isTrue found)))

def operateCore : Eval Hint := do
  if op = .remainder && hasPlaces first then return <- vm.fillPlaces first second
  if let some found <- vm.operateOnSets op first second then return found
  if op = .bar then
    if let (some own, some other) := (<- tableIn? first, <- tableIn? second) then
      return <- newTable (own.insertAll other.toList)
  boxed (<- lift (Hint.operate op (<- opened first) (<- opened second)))

def isFlags (number : Nat) : Bool :=
  (scope.foreignLine number).any fun cls => cls.shown = "enum.Flag"

def flagOf (owner : Hint) (number : Nat) (value : Int) : Hint :=
  let members := ((scope.get? number).map Class.constants).getD []
  let numbers := members.filterMap fun (name, given) => given.int?.map fun n => (name, n)
  let name := match numbers.find? fun entry => entry.2 = value with
    | some (name, _) => name
    | none => "|".intercalate ((numbers.filter fun (_, n) =>
        0 < n && n.toNat &&& value.toNat = n.toNat).map Prod.fst)
  .const owner name (.int value)

def allFlags (number : Nat) : Nat :=
  (((scope.get? number).map Class.constants).getD []).foldl
    (fun found (_, value) => found ||| (value.int?.getD 0).toNat) 0

def joinedFlags : Eval (Option Hint) := do
  let scope <- vm.scopeNow
  match first, second with
  | .const (.declared number name) _ one, .const other _ two =>
    let owner := Hint.declared number name
    if !isFlags scope number || !owner.same other then return none
    match op, one.int?, two.int? with
    | .bar, some m, some n => return some (flagOf scope owner number (m.toNat ||| n.toNat : Nat))
    | .ampersand, some m, some n =>
      return some (flagOf scope owner number (m.toNat &&& n.toNat : Nat))
    | .caret, some m, some n => return some (flagOf scope owner number (m.toNat ^^^ n.toNat : Nat))
    | _, _, _ => return none
  | _, _ => return none

def operate : Eval Hint := do
  if isThing first || isThing second then
    if let some found <- vm.specialOperation op first second then return found
    if let some found <- vm.joinedFlags op first second then return found
    vm.operateCore op (<- vm.core first) (<- vm.core second)
  else vm.operateCore op first second

def unaryNames : List (UnaryOp × String) := [
  (.minus, "__neg__"), (.plus, "__pos__"), (.invert, "__invert__")]

def operateAlone (vm : VM) (op : UnaryOp) (value : Hint) : Eval Hint := do
  if isThing value then
    if let some name := unaryNames.lookup op then
      if let some method <- vm.special? value name then return <- vm.call method {}
    if let .const (.declared number name) _ inner := value then
      let scope <- vm.scopeNow
      if op = .invert && isFlags scope number then
        let whole := allFlags scope number
        let own := (inner.int?.getD 0).toNat
        return flagOf scope (.declared number name) number (whole - (whole &&& own) : Nat)
  lift (Hint.operateAlone op (<- opened (<- vm.core value)))

def equals (first second : Hint) : Eval Bool := do
  return (<- frozen first).equals (<- frozen second)

def isWithinCore (value whole : Hint) : Eval Bool := do
  match whole with
  | .cell (.stream _) _ =>
    let known <- frozen value
    let found <- vm.find whole fun item => do
      return if known.equals (<- frozen item) then some () else none
    return found.isSome
  | .cell .dict number | .proxy (.cell .dict number) | .view .keys (.cell .dict number) =>
    if !value.isKey then misfit
    return (<- tableOf number).contains value
  | .view .entries (.cell .dict number) =>
    let .row [key, item] := value | return false
    if !key.isKey then misfit
    let some found := (<- tableOf number).get? key | return false
    equals found item
  | .declared .. =>
    let .const owner _ _ := value | misfit
    if (<- vm.keptItems whole).isEmpty then misfit
    return owner.same whole
  | .thing .model .. => return (<- vm.keptItems whole).any value.same
  | _ => lift ((<- frozen value).isWithin (<- frozen whole))

def isWithin (value whole : Hint) : Eval Bool := do
  match whole with
  | .thing _ (.declared ..) _ =>
    match <- vm.special? whole "__contains__" with
    | some method => vm.isTrue (<- vm.call method { plain := [value] })
    | none =>
      match <- vm.core whole with
      | .thing .. => vm.isWithinCore value (.cell (.stream "iterator") (<- vm.streamOf whole))
      | inner => vm.isWithinCore value inner
  | _ => vm.isWithinCore (<- vm.core value) (<- vm.core whole)

def compared (how : Comparison) : Eval Hint := do
  match how with
  | .within => return .truth (<- vm.isWithin first second)
  | .outside => return .truth (!(<- vm.isWithin first second))
  | .identical => return .truth (first.isIdentical second)
  | .distinct => return .truth (!first.isIdentical second)
  | _ =>
    if isThing first || isThing second then
      if let some found <- vm.specialComparison how first second then return found
    let first <- frozen (<- vm.core first)
    return .truth (<- lift (first.compares (<- frozen (<- vm.core second)) how))
end RouteDocs.Class.VM
