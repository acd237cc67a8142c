import RouteDocs.Class.Method.Table

/-! # Methods behind operators -/

namespace RouteDocs.Class.VM
open Eval

variable (vm : VM) (value self : Hint) (name : String) (args : Args)

def sizeOf : Eval Nat := do
  match value with
  | .cell (.stream _) _ | .generic .. => misfit
  | .cell .list number =>
    let some (.list items) <- content? number | return 0
    return items.size
  | .cell .dict number => return (<- tableOf number).size
  | .range start stop step =>
    let size := Hint.rangeSize start stop step
    if Hint.isPlace size then return size else throw .outOfRange
  | .text pieces => return pieces.length
  | _ => return (<- vm.keptItems value).length

def hashOf : Eval Hint := if !value.isKey then misfit else let code := value.hashCode.toNat
    return .int (if code < Nat.pow 2 63 then (code : Int) else (code : Int) - Int.pow 2 64)

def reversed (vm : VM) (value : Hint) : Eval Hint := do
  match value with
  | .cell .list number =>
    let items <- listItems number
    newStream "list_reverseiterator" (.backward number items.length)
  | .cell .dict _ | .proxy _ =>
    let keys <- vm.items value
    newStream "dict_reversekeyiterator" (.items keys.reverse none)
  | .view kind _ =>
    let items <- vm.items value
    let name := match kind with
      | .keys => "dict_reversekeyiterator"
      | .values => "dict_reversevalueiterator"
      | .entries => "dict_reverseitemiterator"
    newStream name (.items items.reverse none)
  | .range start stop step =>
    let size := Hint.rangeSize start stop step
    newStream "range_iterator" (.numbers (start + step * (size - 1 : Int)) (-step) size)
  | .text _ | .octets _ | .row _ | .cell .octets _ | .declared .. =>
    let items <- vm.keptItems value
    newStream "reversed" (.items items.reverse none)
  | _ => misfit

def binaryMethod? : Option (BinaryOp × Bool) :=
  binaryNames.findSome? fun (word, op) =>
    if name = "__" ++ word ++ "__" then some (op, false)
    else if name = "__r" ++ word ++ "__" then some (op, true)
    else none

def isNumber : Bool := value.int?.isSome || value matches .real _ || value matches .complex ..

def knows (op : BinaryOp) (self other : Hint) : Bool := match self, self.int? with
  | _, some _ => other.int?.isSome
  | .real _, none => other.int?.isSome || (other matches .real _)
  | .complex .., none => isNumber other
  | .cell .dict _, none => (other matches .cell .dict _)
  | .proxy _, none => (other matches .cell .dict _ | .proxy _)
  | .cell .set _, none | .frozenSet _, none => isSet other
  | .text _, none | .octets _, none | .cell .octets _, none => op ≠ .bar
  | _, none => true

def operateBy (op : BinaryOp) (isExchanged : Bool) (self other : Hint) : Eval Hint := do
  if !knows op self other then return .notImplemented
  let (first, second) := if isExchanged then (other, self) else (self, other)
  if isExchanged && op = .remainder && hasPlaces self && !hasPlaces other then
    return .notImplemented
  match self with
  | .builtin _ | .declared .. | .generic .. | .bars _ | .union _ | .form _ | .formOf .. | .leftOpen .. =>
    let found <- Eval.attempt (· = .misfit) (vm.operate op first second)
    return found.getD .notImplemented
  | _ => vm.operate op first second

def comparesWith (how : Comparison) (self other : Hint) : Bool :=
  let isSameness := how = .equal || how = .unequal
  match self, self.int? with
  | _, some _ => other.int?.isSome
  | .real _, none => other.int?.isSome || (other matches .real _)
  | .complex .., none => isSameness && isNumber other
  | .text _, none => (other matches .text _)
  | .octets _, none | .octetList _, none => (other matches .octets _ | .octetList _)
  | .list _, none => (other matches .list _)
  | .row _, none => (other matches .row _)
  | .dict _, none => isSameness && (other matches .dict _)
  | .set _, none | .frozenSet _, none => (other matches .set _ | .frozenSet _)
  | .view kind _, none => kind ≠ .values && other.setItems?.isSome
  | .proxy _, none => true
  | .range .., none => isSameness && (other matches .range ..)
  | .slice .., none => (other matches .slice ..)
  | .record _ cls _, none =>
    isSameness && match other with
      | .record _ second _ => cls.same second
      | _ => false
  | .generic .., none | .union _, none | .bars _, none | .formOf .., none =>
    isSameness && !(isNumber other) && self.classOf = other.classOf
  | _, none => isSameness && self.same other

def compareBy (how : Comparison) (self other : Hint) : Eval Hint := do
  let first <- frozen self
  let second <- frozen other
  if !comparesWith how first second then return .notImplemented
  match first, second with
  | .slice a b c, .slice d e f =>
    return .truth (<- lift ((Hint.row [a, b, c]).compares (.row [d, e, f]) how))
  | _, _ => return .truth (<- lift (first.compares second how))

def divideBoth (first second : Hint) : Eval Hint := do
  if !isNumber first || !isNumber second then misfit
  let quotient <- vm.operate .floorDivide first second
  return .row [quotient, <- vm.operate .remainder first second]

def inverseFrom : Nat -> (old new : Int) -> (oldRest newRest : Int) -> Option Int
  | 0, _, _, _, _ => none
  | fuel + 1, old, new, oldRest, newRest =>
    if newRest = 0 then if oldRest = 1 then some old else none
    else
      let quotient := oldRest / newRest
      inverseFrom fuel new (old - quotient * new) newRest (oldRest - quotient * newRest)

def inverse? (n modulus : Int) : Option Int :=
  let size : Int := modulus.natAbs
  (inverseFrom (2 * modulus.natAbs.log2 + 8) 1 0 (n % size) size).map (· % size)

def powerBy (modulus : Nat) : Nat -> (result base exponent : Nat) -> Nat
  | 0, result, _, _ => result
  | fuel + 1, result, base, exponent =>
    if exponent = 0 then result
    else
      let next := if exponent % 2 = 1 then result * base % modulus else result
      powerBy modulus fuel next (base * base % modulus) (exponent / 2)

def modularPower (base exponent modulus : Int) : Eval Hint := do
  if modulus = 0 then throw (.badValue "pow() 3rd argument cannot be 0")
  let size := modulus.natAbs
  let (base, exponent) <-
    if 0 <= exponent then pure (base, exponent)
    else match inverse? base modulus with
      | some found => pure (found, -exponent)
      | none =>
        if size = 1 then pure (0, -exponent)
        else throw (.badValue "base is not invertible for the given modulus")
  let found : Int := powerBy size (exponent.natAbs.log2 + 1) (1 % size) (base % size).toNat
    exponent.natAbs
  return .int (if modulus < 0 && found ≠ 0 then found + modulus else found)

def powerOf (base exponent : Hint) (modulus? : Option Hint) : Eval Hint := do
  match modulus? with
  | none | some .nothing => vm.operate .power base exponent
  | some modulus =>
    match base.int?, exponent.int?, modulus.int? with
    | some a, some b, some c => modularPower a b c
    | _, _, _ => misfit

def operatorMethod? : Answer :=
  match comparisonNames.lookup name with
  | some how => some do compareBy how self (<- args.one)
  | none => match name with
    | "__divmod__" => some do
      let other <- args.one
      if !knows .floorDivide self other then return .notImplemented
      vm.divideBoth self other
    | "__rdivmod__" => some do
      let other <- args.one
      if !knows .floorDivide self other then return .notImplemented
      vm.divideBoth other self
    | "__pow__" => some do
      match <- args.between 1 2 with
      | [exponent] => vm.operateBy .power false self exponent
      | [exponent, modulus] =>
        if self.int?.isSome && exponent.int?.isSome &&
            (modulus.int?.isSome || modulus matches .nothing) then
          vm.powerOf self exponent (some modulus)
        else return .notImplemented
      | _ => misfit
    | _ => (binaryMethod? name).map fun (op, isExchanged) => do
      vm.operateBy op isExchanged self (<- args.one)

def formatArgument : Eval (List Text.Piece) := piecesOf value

def wordArgument : Eval String := match nameOf? value with
  | some word => return word
  | none => misfit

def commonMethod? : Answer :=
  match name with
  | "__len__" | "__length_hint__" => some do
    args.none
    return .int (<- vm.sizeOf self)
  | "__contains__" => some do return .truth (<- vm.isWithin (<- args.one) self)
  | "__getitem__" => some do vm.subscript self (<- args.one)
  | "__setitem__" => some do
    let (index, value) <- args.two
    vm.setItem self index value
    return .nothing
  | "__delitem__" => some do
    vm.dropItem self (<- args.one)
    return .nothing
  | "__iter__" => some do
    args.none
    vm.iterate self
  | "__next__" => some do
    args.none
    let .cell (.stream _) number := self | misfit
    let some item <- vm.advance number | throw .exhausted
    return item
  | "__reversed__" => some do
    args.none
    vm.reversed self
  | "__hash__" => some do
    args.none
    hashOf self
  | "__bool__" => some do
    args.none
    return .truth (<- Eval.isTrue self)
  | "__repr__" => some do
    args.none
    return .text (<- vm.shownText self)
  | "__str__" => some do
    args.none
    return .text (<- vm.ownText self)
  | "__format__" => some do
    return .text (<- vm.formatted self (<- formatArgument (<- args.one)))
  | "__getattribute__" => some do vm.member self (<- wordArgument (<- args.one))
  | "__setattr__" => some do
    let (word, value) <- args.two
    vm.setMember self (<- wordArgument word) value
    return .nothing
  | "__delattr__" => some do
    vm.dropMember self (<- wordArgument (<- args.one))
    return .nothing
  | "__init_subclass__" => some do
    args.none
    return .nothing
  | "__subclasshook__" => some do
    discard args.one
    return .notImplemented
  | "__call__" => some (vm.call self args)
  | _ => vm.operatorMethod? self name args

def beginAnew : Eval Hint := do
  match self with
  | .cell .list number =>
    match <- args.between 0 1 with
    | value :: _ => storeItems number (<- vm.items value)
    | [] => storeItems number []
  | .cell .dict number => store number (.dict (<- vm.updated (<- tableOf number) args))
  | .cell .set number =>
    match <- args.between 0 1 with
    | value :: _ => store number (.set (<- vm.bucketsFrom value))
    | [] => store number (.set {})
  | .thing .. | .fn .. => args.none
  | _ => pure ()
  return .nothing
end RouteDocs.Class.VM
