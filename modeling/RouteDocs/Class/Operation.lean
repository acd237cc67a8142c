import RouteDocs.Class.Hint
import RouteDocs.Number.Elementary

/-! # Operations on values -/

namespace RouteDocs.Class
open Number (Binary64)

def BinaryOp.isArithmetic : BinaryOp -> Bool
  | add | subtract | multiply | divide | floorDivide | remainder | power => true
  | _ => false

namespace Hint
def isTrue : Hint -> Bool
  | nothing => false
  | truth value => value
  | int value => value ≠ 0
  | real value => !value.isZero
  | complex first second => !(first.isZero && second.isZero)
  | text pieces => !pieces.isEmpty
  | octets bytes | octetList bytes => !bytes.isEmpty
  | row items | list items | set items | frozenSet items => !items.isEmpty
  | dict entries | view _ (dict entries) | proxy (dict entries) => !entries.isEmpty
  | range start stop step => if 0 < step then start < stop else stop < start
  | _ => true

def sizeBound : Nat := 1000000

def rangeItems (start stop step : Int) : Tried (List Hint) :=
  if sizeBound < rangeSize start stop step then .error .tooLarge
  else .ok ((List.range (rangeSize start stop step)).map
    fun (index : Nat) => int (start + step * index))

def placeLimit : Nat := Nat.pow 2 63
def isPlace (n : Int) : Bool := n.natAbs < placeLimit

def items : Hint -> Tried (List Hint)
  | text pieces => .ok (pieces.map fun piece => text [piece])
  | octets bytes | octetList bytes => .ok (bytes.map fun (byte : Nat) => int byte)
  | row items | list items | set items | frozenSet items => .ok items
  | dict entries | proxy (dict entries) | view .keys (dict entries) => .ok (entries.map Prod.fst)
  | view .values (dict entries) => .ok (entries.map Prod.snd)
  | view .entries (dict entries) => .ok (entries.map fun (key, value) => row [key, value])
  | range start stop step => rangeItems start stop step
  | generic cls args => .ok [unpacked cls args]
  | _ => .error .misfit

def isAmong (hint : Hint) (hints : List Hint) : Bool := hints.any hint.same

def valueUnder? (key : Hint) (entries : List (Hint × Hint)) : Option Hint :=
  (entries.find? fun entry => entry.1.same key).map Prod.snd

def asReal? : Hint -> Option (Tried Binary64)
  | real value => some (.ok value)
  | hint => hint.int?.map fun n =>
    match Binary64.ofInt? n with
    | some number => .ok number
    | none => .error .outOfRange

def asComplex? : Hint -> Option (Tried Number.Complex)
  | complex first second => some (.ok ⟨first, second⟩)
  | hint => hint.asReal?.map fun found => found.map Number.Complex.ofReal

def binaryWidth (first second : Int) : Nat := max first.natAbs.log2 second.natAbs.log2 + 2

def onDigits (operation : Nat -> Nat -> Nat) (first second : Int) : Int :=
  let limit := Int.pow 2 (binaryWidth first second)
  let result : Int := operation (first % limit).toNat (second % limit).toNat
  if 2 * result < limit then result else result - limit

def ofComplex (number : Number.Complex) : Tried Hint :=
  if number.isInfinite then .error .outOfRange else .ok (complex number.real number.imaginary)

def complexPower (base exponent : Number.Complex) : Tried Hint :=
  match base.power? exponent with
  | none => .error .byZero
  | some number => ofComplex number

def realPower (base exponent : Binary64) : Tried Hint :=
  if exponent.isZero then .ok (real .one)
  else match base, exponent with
  | .undefined, _ => .ok (real .undefined)
  | _, .undefined => .ok (real (if base = .one then .one else .undefined))
  | _, .infinite _ => .ok (real (base.abs.pow exponent))
  | _, _ =>
    let isOdd := (exponent.toInt?.map fun whole => whole % 2 == 1).getD false
    let signed (number : Binary64) := if base.isNegative && isOdd then number.neg else number
    if base.isInfinite then .ok (real (signed (base.abs.pow exponent)))
    else if base.isZero then
      if exponent.isNegative then .error .byZero else .ok (real (signed (.zero false)))
    else if base.isNegative && exponent.toInt?.isNone then
      complexPower (.ofReal base) (.ofReal exponent)
    else match base.abs.pow exponent with
      | .infinite _ => .error .outOfRange
      | number => .ok (real (signed number))

def powerBound : Nat := 100000000
def shiftBound : Nat := 2000000000

def wholePower (base exponent : Int) : Tried Hint := if 0 <= exponent then
    let times := if base.natAbs <= 1 then min exponent.toNat (2 - exponent.toNat % 2)
      else exponent.toNat
    if (base.natAbs.log2 + 1) * times <= powerBound then .ok (int (base.pow times))
    else .error .tooLarge
  else if base = 0 then .error .byZero
  else match Binary64.ofInt? base, Binary64.ofInt? exponent with
    | some number, some times => realPower number times
    | _, _ => .error .outOfRange

def wholeQuotient (first second : Int) : Tried Hint := if second = 0 then .error .byZero
  else
    let isNegative := decide (first < 0) != decide (second < 0)
    match Binary64.ofSignedRatio isNegative (first * second.sign) second.natAbs with
    | .infinite _ => .error .outOfRange
    | number => .ok (real number)

def onWhole (first second : Int) : BinaryOp -> Tried Hint
  | .add => .ok (int (first + second))
  | .subtract => .ok (int (first - second))
  | .multiply => .ok (int (first * second))
  | .divide => wholeQuotient first second
  | .floorDivide => if second = 0 then .error .byZero else .ok (int (first.fdiv second))
  | .remainder => if second = 0 then .error .byZero else .ok (int (first.fmod second))
  | .power => wholePower first second
  | .shiftLeft =>
    if second < 0 then .error (.badValue "negative shift count")
    else if first = 0 then .ok (int 0)
    else if !isPlace second then .error .outOfRange
    else if shiftBound < second then .error .tooLarge
    else .ok (int (first * Int.pow 2 second.toNat))
  | .shiftRight =>
    if second < 0 then .error (.badValue "negative shift count")
    else .ok (int (first.fdiv (Int.pow 2 (min second.toNat (binaryWidth first 0)))))
  | .bar => .ok (int (onDigits (· ||| ·) first second))
  | .ampersand => .ok (int (onDigits (· &&& ·) first second))
  | .caret => .ok (int (onDigits (· ^^^ ·) first second))
  | .matrixMultiply => .error .misfit

def onReals (first second : Binary64) : BinaryOp -> Tried Hint
  | .add => .ok (real (first.add second))
  | .subtract => .ok (real (first.sub second))
  | .multiply => .ok (real (first.mul second))
  | .divide => if second.isZero then .error .byZero else .ok (real (first.div second))
  | .floorDivide =>
    if second.isZero then .error .byZero else .ok (real (first.floorDiv second).1)
  | .remainder =>
    if second.isZero then .error .byZero else .ok (real (first.floorDiv second).2)
  | .power => realPower first second
  | _ => .error .misfit

def onComplex (first second : Number.Complex) : BinaryOp -> Tried Hint
  | .add => .ok (let sum := first.add second; complex sum.real sum.imaginary)
  | .subtract => .ok (let rest := first.sub second; complex rest.real rest.imaginary)
  | .multiply => .ok (let product := first.mul second; complex product.real product.imaginary)
  | .divide =>
    match first.div? second with
    | none => .error .byZero
    | some quotient => .ok (complex quotient.real quotient.imaginary)
  | .power => complexPower first second
  | _ => .error .misfit

variable (first second : Hint) (op : BinaryOp) {α : Type} (start stop step : Hint)

def onNumbers? (first second : Hint) : Option (Tried Hint) :=
  match first, second, first.int?, second.int? with
  | truth a, truth b, some m, some n =>
    match op with
    | .bar => some (.ok (truth (a || b)))
    | .ampersand => some (.ok (truth (a && b)))
    | .caret => some (.ok (truth (a != b)))
    | _ => some (onWhole m n op)
  | _, _, some m, some n => some (onWhole m n op)
  | _, _, _, _ =>
    if !op.isArithmetic then none
    else match first.asReal?, second.asReal? with
    | some a, some b => some do onReals (<- a) (<- b) op
    | _, _ =>
      match first.asComplex?, second.asComplex? with
      | some a, some b => some do onComplex (<- a) (<- b) op
      | _, _ => none

def repeated (count : Int) (items : List α) : Tried (List α) :=
  if !isPlace count then .error .outOfRange
  else if sizeBound < count.toNat * items.length then .error .tooLarge
  else if items.isEmpty then .ok []
  else .ok (List.replicate count.toNat items).flatten

def repeated? (count : Int) : Hint -> Option (Tried Hint)
  | text pieces => some ((repeated count pieces).map text)
  | octets bytes => some ((repeated count bytes).map octets)
  | octetList bytes => some ((repeated count bytes).map octetList)
  | row items => some ((repeated count items).map row)
  | list items => some ((repeated count items).map list)
  | _ => none

def joined? : Hint -> Hint -> Option Hint
  | text a, text b => some (text (a ++ b))
  | octets a, octets b | octets a, octetList b => some (octets (a ++ b))
  | octetList a, octets b | octetList a, octetList b => some (octetList (a ++ b))
  | row a, row b => some (row (a ++ b))
  | list a, list b => some (list (a ++ b))
  | _, _ => none

def onOthers (first second : Hint) : Tried Hint := match op with
  | .bar => bar first second
  | .add =>
    match joined? first second with
    | some found => .ok found
    | none => .error .misfit
  | .multiply =>
    let found := (second.int? >>= (repeated? · first)) <|> (first.int? >>= (repeated? · second))
    found.getD (.error .misfit)
  | _ => .error .misfit

def operate (first second : Hint) : Tried Hint :=
  (onNumbers? op first second).getD (onOthers op first second)

def operateAlone : UnaryOp -> Hint -> Tried Hint
  | .negate, hint => .ok (truth (!hint.isTrue))
  | .minus, real value => .ok (real value.neg)
  | .minus, complex first second => .ok (complex first.neg second.neg)
  | .plus, real value => .ok (real value)
  | .plus, complex first second => .ok (complex first second)
  | op, hint =>
    match op, hint.int? with
    | .minus, some n => .ok (int (-n))
    | .plus, some n => .ok (int n)
    | .invert, some n => .ok (int (-n - 1))
    | _, _ => .error .misfit

def setItems? : Hint -> Option (List Hint)
  | set items | frozenSet items => some items
  | view .keys (dict entries) => some (entries.map Prod.fst)
  | view .entries (dict entries) => some (entries.map fun (key, value) => row [key, value])
  | _ => none

def numberOrder? : Option (Option Ordering) :=
  match first.int?, second.int?, first, second with
  | some a, some b, _, _ => some (some (compare a b))
  | some a, none, _, real b => some (Binary64.compareInt? a b)
  | none, some b, real a, _ => some ((Binary64.compareInt? b a).map Ordering.swap)
  | none, none, real a, real b => some (a.compare? b)
  | _, _, _, _ => none

def pieceCode : Text.Piece -> Nat
  | .char c => c.toNat
  | .surrogate unit => unit

def compareCodes : List Nat -> List Nat -> Ordering
  | [], [] => .eq
  | [], _ :: _ => .lt
  | _ :: _, [] => .gt
  | a :: first, b :: second => (compare a b).then (compareCodes first second)

mutual
def order : Hint -> Hint -> Tried (Option Ordering)
  | text a, text b => .ok (some (compareCodes (a.map pieceCode) (b.map pieceCode)))
  | octets a, octets b | octets a, octetList b | octetList a, octets b
  | octetList a, octetList b => .ok (some (compareCodes a b))
  | row a, row b => orderAll a b
  | list a, list b => orderAll a b
  | first, second =>
    match numberOrder? first second with
    | some found => .ok found
    | none => .error .misfit

def orderAll : List Hint -> List Hint -> Tried (Option Ordering)
  | [], [] => .ok (some .eq)
  | [], _ :: _ => .ok (some .lt)
  | _ :: _, [] => .ok (some .gt)
  | a :: first, b :: second => if a.same b then orderAll first second else a.order b
end

def isOrdered (holds : Ordering -> Bool) : Tried Bool :=
  match first.setItems?, second.setItems? with
  | some a, some b =>
    let isPart := a.all (isAmong · b)
    let isWhole := b.all (isAmong · a)
    .ok (if isPart && isWhole then holds .eq else if isPart then holds .lt
      else if isWhole then holds .gt else false)
  | _, _ => (first.order second).map fun found => (found.map holds).getD false

def isInfix {α : Type} [BEq α] (inner : List α) : List α -> Bool
  | [] => inner.isEmpty
  | piece :: rest => inner.isPrefixOf (piece :: rest) || isInfix inner rest

def inRange (n start stop step : Int) : Bool :=
  (if 0 < step then start <= n && n < stop else stop < n && n <= start) && (n - start) % step == 0

def isWithin (hint : Hint) : Hint -> Tried Bool
  | text whole =>
    match hint with
    | text pieces => .ok (isInfix pieces whole)
    | _ => .error .misfit
  | octets whole | octetList whole =>
    match hint, hint.int? with
    | octets bytes, _ | octetList bytes, _ => .ok (isInfix bytes whole)
    | _, some n =>
      if 0 <= n && n < 256 then .ok (whole.contains n.toNat)
      else .error (.badValue "byte must be in range(0, 256)")
    | _, none => .error .misfit
  | set items | frozenSet items =>
    if hint.isKey || hint matches set _ then .ok (hint.isAmong items) else .error .misfit
  | dict entries | proxy (dict entries) | view .keys (dict entries) =>
    if hint.isKey then .ok (valueUnder? hint entries).isSome else .error .misfit
  | range start stop step =>
    .ok (match hint.int?, hint with
      | some n, _ => inRange n start stop step
      | none, real number => (number.toInt?.map fun n => inRange n start stop step).getD false
      | none, _ => false)
  | other => other.items.map fun items => hint.isAmong items

def isIdentical : Bool := match first, second with
  | truth a, truth b => a == b
  | truth _, _ | _, truth _ => false
  | int a, int b => a == b
  | int _, _ | _, int _ => false
  | real a, real b => a == b
  | union a, union b => sameAll a b
  | nothing, _ | dots, _ | notImplemented, _ | builtin _, _ | declared _ _, _ | form _, _
  | formOf .., _ | leftOpen .., _
  | routine _, _ | method .., _ | text _, _ | octets _, _ | row [], _ | const .., _
  | cell .., _ | fn .., _ | thing .., _ | inst .., _ | error .., _ => first.same second
  | _, _ => false

def equals : Bool := match first, second with
  | view .., _ | _, view .. =>
    match first.setItems?, second.setItems? with
    | some a, some b => (set a).same (set b)
    | _, _ => false
  | octets a, octetList b | octetList a, octets b => a == b
  | proxy a, b | a, proxy b => a.same b
  | _, _ => first.same second

def compares : Comparison -> Tried Bool
  | .equal => .ok (first.equals second)
  | .unequal => .ok (!first.equals second)
  | .less => isOrdered first second (· == .lt)
  | .atMost => isOrdered first second (· != .gt)
  | .greater => isOrdered first second (· == .gt)
  | .atLeast => isOrdered first second (· != .lt)
  | .within => first.isWithin second
  | .outside => (first.isWithin second).map (! ·)
  | .identical => .ok (first.isIdentical second)
  | .distinct => .ok (!first.isIdentical second)

def itemAt (index : Int) (items : List α) : Tried α :=
  let place := if index < 0 then index + items.length else index
  match if place < 0 then none else items[place.toNat]? with
  | some item => .ok item
  | none => .error .noIndex

def numberAt (index start stop step : Int) : Tried Hint :=
  let size := rangeSize start stop step
  let place := if index < 0 then index + size else index
  if 0 <= place && place < size then .ok (int (start + step * place)) else .error .noIndex

def bound? : Hint -> Tried (Option Int)
  | nothing => .ok none
  | hint =>
    match hint.int? with
    | some n => .ok (some n)
    | none => .error .misfit

def placeOf (size : Nat) (lowest highest : Int) (bound : Int) : Int :=
  let place := if bound < 0 then bound + size else bound
  max lowest (min highest place)

def cutOf (size : Nat) : Tried (Int × Int × Int) := do
  let step := (<- bound? step).getD 1
  if step = 0 then throw (.badValue "slice step cannot be zero")
  let (lowest, highest) : Int × Int := if 0 < step then (0, size) else (-1, size - 1)
  let first := ((<- bound? start).map (placeOf size lowest highest)).getD
    (if 0 < step then 0 else size - 1)
  let last := ((<- bound? stop).map (placeOf size lowest highest)).getD
    (if 0 < step then size else -1)
  return (first, last, step)

def cut (items : List α) : Tried (List α) := do
  let (first, last, step) <- cutOf start stop step items.length
  return (List.range (rangeSize first last step)).filterMap fun (index : Nat) =>
    items[(first + step * index).toNat]?

def subscript (base index : Hint) : Tried Hint := match base, index with
  | builtin cls, index => classFilledBy cls index
  | form given, index => applied given index
  | generic .., index | formOf .., index | union _, index | bars _, index
  | classField _, index => base.filledBy index
  | text pieces, slice a b c => (cut a b c pieces).map text
  | octets bytes, slice a b c => (cut a b c bytes).map octets
  | octetList bytes, slice a b c => (cut a b c bytes).map octetList
  | row items, slice a b c => (cut a b c items).map row
  | list items, slice a b c => (cut a b c items).map list
  | range start stop step, slice a b c => do
    let (first, last, jump) <- cutOf a b c (rangeSize start stop step)
    return range (start + step * first) (start + step * last) (step * jump)
  | dict entries, key | proxy (dict entries), key =>
    if !key.isKey then .error .misfit
    else match valueUnder? key entries with
      | some value => .ok value
      | none => .error .noKey
  | base, index =>
    match index.int? with
    | none => .error .misfit
    | some place =>
      match base with
      | text pieces => (itemAt place pieces).map fun piece => text [piece]
      | octets bytes | octetList bytes => (itemAt place bytes).map fun (byte : Nat) => int byte
      | row items | list items => itemAt place items
      | range start stop step => numberAt place start stop step
      | _ => .error .misfit
end Hint
end RouteDocs.Class
