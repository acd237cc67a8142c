import RouteDocs.Number.Binary64

/-! # Elementary functions of double precision -/

/-! ## Arithmetic of double precision -/

namespace RouteDocs.Number.Binary64
def isNegative : Binary64 -> Bool
  | finite negative _ _ | infinite negative => negative
  | undefined => false

def sub (first second : Binary64) : Binary64 := first.add second.neg

def div : Binary64 -> Binary64 -> Binary64
  | finite a m e, finite b n f =>
    let (p, q) := toRatio a m e
    let (r, s) := toRatio b n f
    if n = 0 then .undefined
    else ofSignedRatio (a != b) (p * s * r.sign) (q * r.natAbs)
  | infinite _, infinite _ => .undefined
  | infinite a, finite b _ _ => .infinite (a != b)
  | finite a _ _, infinite b => zero (a != b)
  | undefined, _ | _, undefined => .undefined

def floor : Binary64 -> Binary64
  | finite negative significand exponent =>
    let (p, q) := toRatio negative significand exponent
    ofSignedRatio negative (p.fdiv q) 1
  | number => number

def truncated? : Binary64 -> Option Int
  | finite negative significand exponent =>
    let (p, q) := toRatio negative significand exponent
    some (p.tdiv q)
  | _ => none

def leftOver : Binary64 -> Binary64 -> Binary64
  | finite a m e, finite b n f =>
    let (p, q) := toRatio a m e
    let (r, s) := toRatio b n f
    if n = 0 then .undefined else ofSignedRatio a ((p * s).tmod (r * q)) (q * s)
  | finite a m e, infinite _ => .finite a m e
  | _, _ => .undefined

def zeroLike (number : Binary64) : Binary64 := zero number.isNegative

def floorDiv (first second : Binary64) : Binary64 × Binary64 :=
  let left := leftOver first second
  let quotient := (first.sub left).div second
  let (quotient, remainder) := if left.isZero then (quotient, zeroLike second)
    else if left.isNegative ≠ second.isNegative then
      (quotient.sub (ofRatio false 1 1), left.add second)
    else (quotient, left)
  if quotient.isZero then (zeroLike (first.div second), remainder)
  else
    let below := quotient.floor
    let isNearAbove : Bool := match quotient.sub below with
      | finite false m e =>
        let (p, q) := toRatio false m e
        decide (q < 2 * p)
      | _ => false
    (if isNearAbove then below.add (ofRatio false 1 1) else below, remainder)

def compare? : Binary64 -> Binary64 -> Option Ordering
  | finite a m e, finite b n f =>
    let (p, q) := toRatio a m e
    let (r, s) := toRatio b n f
    some (compare (p * s) (r * q))
  | infinite a, infinite b => some (if a = b then .eq else if a then .lt else .gt)
  | infinite a, finite .. => some (if a then .lt else .gt)
  | finite .., infinite b => some (if b then .gt else .lt)
  | undefined, _ | _, undefined => none

def compareInt? (first : Int) : Binary64 -> Option Ordering
  | finite b n f =>
    let (r, s) := toRatio b n f
    some (compare (first * s) r)
  | infinite b => some (if b then .gt else .lt)
  | undefined => none

def ofInt? (n : Int) : Option Binary64 := match ofSignedRatio false n 1 with
  | infinite _ => none
  | number => some number

def keptDigits : Nat := 4096

/-- `number * 2 ^ exponent` with the digits dropped that are not kept. -/
def trimmed (number : Nat) (exponent : Int) : Nat × Int :=
  let dropped := number.log2 - keptDigits
  (number / Nat.pow 2 dropped, exponent + dropped)

/-- The power of `number * 2 ^ exponent`, by squaring. -/
def powerParts (number : Nat) (exponent : Int) (times : Nat) : Nat × Int := if times = 0 then (1, 0)
  else
    let (half, shift) := powerParts number exponent (times / 2)
    let (square, shift) := trimmed (half * half) (2 * shift)
    if times % 2 = 1 then trimmed (square * number) (shift + exponent) else (square, shift)
termination_by times

/-- The number nearest to `number * 2 ^ exponent`, or to its inverse. -/
def ofParts (isNegative isInverse : Bool) (number : Nat) (exponent : Int) : Binary64 :=
  let size := if isInverse then -(exponent + number.log2) else exponent + number.log2
  if 2000 < size then .infinite isNegative
  else if size < -2000 then zero isNegative
  else
    let (above, below) := if 0 <= exponent then (number * Nat.pow 2 exponent.toNat, 1)
      else (number, Nat.pow 2 (-exponent).toNat)
    if isInverse then ofRatio isNegative below above else ofRatio isNegative above below

def power (base : Binary64) (exponent : Int) : Binary64 := match base with
  | finite negative significand binary =>
    let isNegative := negative && exponent % 2 == 1
    if exponent = 0 then ofRatio false 1 1
    else if significand = 0 then if exponent < 0 then .undefined else zero isNegative
    else
      let (number, shift) := powerParts significand binary exponent.natAbs
      ofParts isNegative (exponent < 0) number shift
  | infinite negative =>
    if exponent = 0 then ofRatio false 1 1
    else
      let isNegative := negative && exponent % 2 == 1
      if 0 < exponent then .infinite isNegative else zero isNegative
  | undefined => if exponent = 0 then ofRatio false 1 1 else .undefined
end RouteDocs.Number.Binary64

namespace RouteDocs.Number
def paddedDigits (width : Nat) (n : Nat) : List Char :=
  let digits := Nat.toDigits 10 n
  List.replicate (width - digits.length) '0' ++ digits

def placedDigits (above below places : Nat) : List Char × List Char :=
  let digits :=
    paddedDigits (places + 1) (Binary64.roundedQuotient (above * Nat.pow 10 places) below)
  (digits.take (digits.length - places), digits.drop (digits.length - places))

/-- How many zeros follow the point in a ratio below one, `bound` at most. -/
def zerosBehindPoint (above below bound : Nat) : Nat :=
  (List.range bound).findIdx fun k => below <= above * Nat.pow 10 (k + 1)

/-- The least `k` for which a positive ratio is below `10 ^ k`. -/
def ratioMagnitude (above below : Nat) : Int :=
  if below <= above then Binary64.digitCount (above / below)
  else 0 - (zerosBehindPoint above below 400 : Int)

def countedDigits (above below count : Nat) : List Char × Int :=
  if above = 0 then (List.replicate count '0', 0)
  else
    let unit := ratioMagnitude above below - count
    let rounded := Binary64.roundedQuotient (above * Nat.pow 10 (-unit).toNat)
      (below * Nat.pow 10 unit.toNat)
    if rounded = Nat.pow 10 count then (Nat.toDigits 10 (rounded / 10), unit + count)
    else (Nat.toDigits 10 rounded, unit + count - 1)

def exponentText (power : Int) : List Char :=
  (if power < 0 then '-' else '+') :: paddedDigits 2 power.natAbs

def withoutZeros (digits : List Char) : List Char := (digits.reverse.dropWhile (· = '0')).reverse

def pointed (alwaysPoint : Bool) (whole fraction : List Char) : List Char :=
  whole ++ (if fraction.isEmpty && !alwaysPoint then [] else '.' :: fraction)

inductive DigitLayout where
  | fixed
  | exponent
  | general

def isWide (digits : Nat) (power : Int) : Bool := power < -4 || digits <= power

/-- A ratio laid out in a way. A point is written though no digit follows it if it is
`alwaysPoint`, and then zeros at the end are kept. -/
def laidOut (layout : DigitLayout) (precision : Nat) (alwaysPoint : Bool) (above below : Nat) :
    List Char :=
  match layout with
  | .fixed =>
    let (whole, fraction) := placedDigits above below precision
    pointed alwaysPoint whole fraction
  | .exponent =>
    let (digits, power) := countedDigits above below (precision + 1)
    pointed alwaysPoint (digits.take 1) (digits.drop 1) ++ 'e' :: exponentText power
  | .general =>
    let count := max precision 1
    let (digits, power) := countedDigits above below count
    let kept (digits : List Char) := if alwaysPoint then digits else withoutZeros digits
    if isWide count power then
      pointed alwaysPoint (digits.take 1) (kept (digits.drop 1)) ++ 'e' :: exponentText power
    else if power < 0 then
      pointed alwaysPoint ['0'] (kept (List.replicate (-power - 1).toNat '0' ++ digits))
    else pointed alwaysPoint (digits.take (power.toNat + 1)) (kept (digits.drop (power.toNat + 1)))

def laidOutReal (precision : Nat) (alwaysPoint : Bool) (above below : Nat) : List Char :=
  let count := max precision 1
  let (digits, power) := countedDigits above below count
  if power < -4 || count <= power + 1 then
    let rest := if alwaysPoint then digits.drop 1 else withoutZeros (digits.drop 1)
    pointed alwaysPoint (digits.take 1) rest ++ 'e' :: exponentText power
  else
    let text := laidOut .general precision alwaysPoint above below
    if text.contains '.' then text else text ++ ['.', '0']

/-- The whole number of units of `10 ^ -places` that is nearest to a ratio, as a number of
double precision. -/
def Binary64.roundedTo (places : Int) : Binary64 -> Binary64
  | .finite negative significand exponent =>
    let (above, below) := toRatio negative significand exponent
    let size := above.natAbs
    if 0 <= places then
      let unit := Nat.pow 10 places.toNat
      ofRatio negative (roundedQuotient (size * unit) below) unit
    else
      let unit := Nat.pow 10 (-places).toNat
      ofRatio negative (roundedQuotient size (below * unit) * unit) 1
  | number => number
end RouteDocs.Number

namespace RouteDocs.Number
namespace Fixed
def places : Nat := 320
def one : Int := Int.pow 2 places

variable (value first second : Int)

def mul : Int := first * second / one
def div : Int := first * one / second

/-- The greatest natural number whose square is at most `n`, from an estimate that is not
below it. -/
def rootFrom (n : Nat) : (steps : Nat) -> (estimate : Nat) -> Nat
  | 0, estimate => estimate
  | steps + 1, estimate =>
    if estimate = 0 then 0
    else
      let next := (estimate + n / estimate) / 2
      if estimate <= next then estimate else rootFrom n steps next

def root (n : Nat) : Nat :=
  if n = 0 then 0 else rootFrom n (n.log2 + 8) (Nat.pow 2 (n.log2 / 2 + 1))

def sqrt : Int := root (value * one).toNat

/-- The sum of `term / 1 + term * factor / 3 + term * factor ^ 2 / 5 + ...`. -/
def oddSeries (factor : Int) : (count : Nat) -> (odd : Nat) -> (term : Int) -> Int
  | 0, _, _ => 0
  | count + 1, odd, term => term / odd + oddSeries factor count (odd + 2) (mul term factor)

/-- The sum of `term + term * factor / 1 + term * factor ^ 2 / 2! + ...`. -/
def powerSeries (factor : Int) : (count : Nat) -> (index : Nat) -> (term : Int) -> Int
  | 0, _, _ => 0
  | count + 1, index, term => term + powerSeries factor count (index + 1) (mul term factor / index)

/-- The sum of `term - term * square / (i (i + 1)) + ...`, as in the series of sine and
cosine. -/
def angleSeries (square : Int) : (count : Nat) -> (index : Nat) -> (term : Int) -> Int
  | 0, _, _ => 0
  | count + 1, index, term =>
    term + angleSeries square count (index + 2) (-(mul term square / (index * (index + 1))))

def terms : Nat := 120

/-- Half the logarithm of `(1 + value) / (1 - value)`. -/
def halfLog : Int := oddSeries (mul value value) terms 1 value
def logTwo : Int := 2 * halfLog (one / 3)
def logOf : Int := 2 * halfLog (div (value - one) (value + one))

def arcTangent : Int :=
  let half (t : Int) : Int := div t (one + sqrt (one + mul t t))
  let small := half (half value)
  4 * oddSeries (-(mul small small)) terms 1 small

def quarter : Int := 2 * arcTangent one
def expNear : Int := powerSeries value terms 1 one
def sineNear : Int := angleSeries (mul value value) terms 2 value
def cosineNear : Int := angleSeries (mul value value) terms 1 one

def sineCosine (angle : Int) : Int × Int :=
  let turns := (angle + quarter / 2) / quarter
  let rest := angle - turns * quarter
  let (sine, cosine) := (sineNear rest, cosineNear rest)
  match (turns % 4).toNat with
  | 0 => (sine, cosine)
  | 1 => (cosine, -sine)
  | 2 => (-sine, -cosine)
  | _ => (-cosine, sine)
end Fixed

namespace Binary64
def toFixed : Binary64 -> Int
  | finite negative significand exponent =>
    let (p, q) := toRatio negative significand exponent
    p * Fixed.one / q
  | _ => 0

def ofFixed (value : Int) (exponent : Int) : Binary64 := if value = 0 then zero false
  else ofParts (value < 0) false value.natAbs (exponent - Fixed.places)

def fixedLog : Binary64 -> Int
  | finite _ significand exponent =>
    let width := significand.log2
    let value : Int := significand * Fixed.one / (Nat.pow 2 width)
    Fixed.logOf value + (exponent + width) * Fixed.logTwo
  | _ => 0

def ofFixedExp (value : Int) : Binary64 :=
  let whole := (value + Fixed.logTwo / 2) / Fixed.logTwo
  if 5000 < whole then .infinite false
  else if whole < -5000 then zero false
  else ofFixed (Fixed.expNear (value - whole * Fixed.logTwo)) whole

def one : Binary64 := ofRatio false 1 1
def abs (number : Binary64) : Binary64 := if number.isNegative then number.neg else number

def isInfinite : Binary64 -> Bool
  | infinite _ => true
  | _ => false

def exp : Binary64 -> Binary64
  | infinite negative => if negative then zero false else .infinite false
  | undefined => .undefined
  | number => ofFixedExp number.toFixed

def log : Binary64 -> Binary64
  | infinite _ => .infinite false
  | undefined => .undefined
  | number => ofFixed number.fixedLog 0

def powerOf (base exponent : Binary64) : Binary64 := match exponent.toInt?, exponent with
  | some whole, _ => base.power whole
  | none, finite negative significand binary =>
    let (p, q) := toRatio negative significand binary
    ofFixedExp (base.fixedLog * p / q)
  | none, _ => .undefined

def pow (base exponent : Binary64) : Binary64 := if exponent.isZero || base = one then one
  else match base, exponent with
  | undefined, _ | _, undefined => .undefined
  | _, infinite toZero =>
    if (base.compare? one = some .gt) = toZero then zero false else .infinite false
  | infinite _, _ => if exponent.isNegative then zero false else .infinite false
  | _, _ =>
    if base.isZero then if exponent.isNegative then .infinite false else zero false
    else base.powerOf exponent

def hypot : Binary64 -> Binary64 -> Binary64
  | finite a m e, finite b n f =>
    let (p, q) := toRatio a m e
    let (r, s) := toRatio b n f
    let above := p.natAbs * p.natAbs * (s * s) + r.natAbs * r.natAbs * (q * q)
    let below := q * s
    if above = 0 then zero false
    else
      let shift := 2 * Fixed.places
      ofRatio false (Fixed.root (above * Nat.pow 2 shift)) (below * Nat.pow 2 Fixed.places)
  | infinite _, _ | _, infinite _ => .infinite false
  | _, _ => .undefined

def sineCosine (angle : Binary64) : Binary64 × Binary64 := match angle with
  | finite _ significand exponent =>
    if significand = 0 then (angle, one)
    else if exponent + significand.log2 < -100 then (angle, one)
    else
      let (sine, cosine) := Fixed.sineCosine angle.toFixed
      (ofFixed sine 0, ofFixed cosine 0)
  | _ => (.undefined, .undefined)

def arcTangent (up right : Binary64) : Binary64 :=
  let withSign (number : Binary64) := if up.isNegative then number.neg else number
  let quarters (n : Int) := withSign (ofFixed (n * Fixed.quarter / 2) 0)
  match up, right with
  | undefined, _ | _, undefined => .undefined
  | infinite _, infinite toLeft => quarters (if toLeft then 3 else 1)
  | infinite _, finite .. => quarters 2
  | finite .., infinite toLeft => if toLeft then quarters 4 else withSign (zero false)
  | finite a m e, finite toLeft n f =>
    if m = 0 then if toLeft then quarters 4 else withSign (zero false)
    else if n = 0 then quarters 2
    else
      let (p, q) := toRatio a m e
      let (r, s) := toRatio toLeft n f
      let (rise, run) := (p.natAbs * s, r.natAbs * q)
      let angle : Int := if rise <= run then Fixed.arcTangent (rise * Fixed.one / run)
        else Fixed.quarter - Fixed.arcTangent (run * Fixed.one / rise)
      if toLeft then withSign (ofFixed (2 * Fixed.quarter - angle) 0)
      else if rise * Nat.pow 2 100 < run then withSign (ofRatio false rise run)
      else withSign (ofFixed angle 0)
end Binary64

structure Complex where
  real : Binary64
  imaginary : Binary64

namespace Complex
def ofReal (real : Binary64) : Complex := ⟨real, .zero false⟩
def isZero (number : Complex) : Bool := number.real.isZero && number.imaginary.isZero

def isInfinite (number : Complex) : Bool := number.real.isInfinite || number.imaginary.isInfinite

def add (first second : Complex) : Complex :=
  ⟨first.real.add second.real, first.imaginary.add second.imaginary⟩

def sub (first second : Complex) : Complex :=
  ⟨first.real.sub second.real, first.imaginary.sub second.imaginary⟩

def mul (first second : Complex) : Complex :=
  ⟨(first.real.mul second.real).sub (first.imaginary.mul second.imaginary),
    (first.real.mul second.imaginary).add (first.imaginary.mul second.real)⟩

def isAtLeast (first second : Binary64) : Bool := match first.abs.compare? second.abs with
  | some .lt | none => false
  | _ => true

def div? (first second : Complex) : Option Complex := if isAtLeast second.real second.imaginary then
    if second.real.isZero then none
    else
      let ratio := second.imaginary.div second.real
      let divisor := second.real.add (second.imaginary.mul ratio)
      some ⟨(first.real.add (first.imaginary.mul ratio)).div divisor,
        (first.imaginary.sub (first.real.mul ratio)).div divisor⟩
  else if isAtLeast second.imaginary second.real then
    let ratio := second.real.div second.imaginary
    let divisor := (second.real.mul ratio).add second.imaginary
    some ⟨((first.real.mul ratio).add first.imaginary).div divisor,
      ((first.imaginary.mul ratio).sub first.real).div divisor⟩
  else some ⟨.undefined, .undefined⟩

def timesPower (result base : Complex) (exponent : Nat) : Complex := if exponent = 0 then result
  else timesPower (if exponent % 2 = 1 then result.mul base else result) (base.mul base)
    (exponent / 2)
termination_by exponent

def wholePower? (base : Complex) (exponent : Int) : Option Complex :=
  let power := timesPower (ofReal .one) base exponent.natAbs
  if 0 < exponent then some power else (ofReal .one).div? power

def isSmallExponent (exponent : Complex) : Option Int := if exponent.imaginary.isZero then
    exponent.real.toInt?.filter fun whole => decide (whole.natAbs <= 100)
  else none

def abs (number : Complex) : Binary64 := number.real.hypot number.imaginary

def anglePower? (base exponent : Complex) : Option Complex :=
  if exponent.isZero then some (ofReal .one)
  else if base.isZero then
    if !exponent.imaginary.isZero || exponent.real.isNegative then none
    else some (ofReal (.zero false))
  else
    let size := base.abs
    let angle := base.imaginary.arcTangent base.real
    let length := size.pow exponent.real
    let phase := angle.mul exponent.real
    let (length, phase) := if exponent.imaginary.isZero then (length, phase)
      else (length.mul (angle.neg.mul exponent.imaginary).exp,
        phase.add (exponent.imaginary.mul size.log))
    let (sine, cosine) := phase.sineCosine
    some ⟨length.mul cosine, length.mul sine⟩

def power? (base exponent : Complex) : Option Complex := match isSmallExponent exponent with
  | some whole => base.wholePower? whole
  | none => base.anglePower? exponent
end Complex
end RouteDocs.Number
