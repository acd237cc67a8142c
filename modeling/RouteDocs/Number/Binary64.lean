/-! # Real numbers of double precision -/

namespace RouteDocs.Number
inductive Binary64 where
  /-- `significand * 2 ^ exponent`, with a sign that zero has too. -/
  | finite (negative : Bool) (significand : Nat) (exponent : Int)
  | infinite (negative : Bool)
  | undefined
deriving DecidableEq, Inhabited

namespace Binary64
def leastExponent : Int := -1074
def greatestExponent : Int := 971
def significandLimit : Nat := Nat.pow 2 53

variable (negative : Bool) (numerator denominator : Nat)

def zero : Binary64 := .finite negative 0 leastExponent

def roundedQuotient : Nat :=
  let quotient := numerator / denominator
  let remainder := numerator % denominator
  if denominator < 2 * remainder || (denominator == 2 * remainder && quotient % 2 == 1) then
    quotient + 1
  else quotient

/-- `numerator / denominator` in units of `2 ^ exponent`, as a ratio. -/
def inUnits (exponent : Int) : Nat × Nat :=
  if 0 <= exponent then (numerator, denominator * Nat.pow 2 exponent.toNat)
  else (numerator * Nat.pow 2 (-exponent).toNat, denominator)

def ofRatio : Binary64 :=
  if numerator = 0 then zero negative
  else
    let estimate : Int := (Nat.log2 numerator : Int) - Nat.log2 denominator - 53
    let (n, d) := inUnits numerator denominator estimate
    let fitted := if n / d < significandLimit then estimate else estimate + 1
    let exponent := max fitted leastExponent
    let (n, d) := inUnits numerator denominator exponent
    let rounded := roundedQuotient n d
    let (significand, exponent) :=
      if rounded = significandLimit then (rounded / 2, exponent + 1) else (rounded, exponent)
    if greatestExponent < exponent then .infinite negative
    else .finite negative significand exponent

def digitCount (n : Nat) : Nat := (Nat.toDigits 10 n).length

/-- The number nearest to `digits * 10 ^ exponent`. Magnitudes far outside the
range are settled before any power of ten is computed. -/
def ofDecimal (digits : Nat) (exponent : Int) : Binary64 :=
  if digits = 0 then zero negative
  else if 400 < exponent + digitCount digits then .infinite negative
  else if exponent + digitCount digits < -400 then zero negative
  else if 0 <= exponent then ofRatio negative (digits * Nat.pow 10 exponent.toNat) 1
  else ofRatio negative digits (Nat.pow 10 (-exponent).toNat)

def toRatio (significand : Nat) (exponent : Int) : Int × Nat :=
  let sign : Int := if negative then -1 else 1
  if 0 <= exponent then (sign * (significand * Nat.pow 2 exponent.toNat : Nat), 1)
  else (sign * (significand : Int), Nat.pow 2 (-exponent).toNat)

/-- The number nearest to a signed ratio; `zeroSign` is the sign of a zero. -/
def ofSignedRatio (zeroSign : Bool) (numerator : Int) (denominator : Nat) : Binary64 :=
  if numerator = 0 then zero zeroSign
  else ofRatio (numerator < 0) numerator.natAbs denominator

def neg : Binary64 -> Binary64
  | finite negative significand exponent => .finite (!negative) significand exponent
  | infinite negative => .infinite (!negative)
  | undefined => .undefined

def add : Binary64 -> Binary64 -> Binary64
  | finite a m e, finite b n f =>
    let (p, q) := toRatio a m e
    let (r, s) := toRatio b n f
    ofSignedRatio (a && b) (p * s + r * q) (q * s)
  | infinite a, infinite b => if a = b then .infinite a else .undefined
  | infinite a, finite .. => .infinite a
  | finite .., infinite b => .infinite b
  | undefined, _ | _, undefined => .undefined

def mul : Binary64 -> Binary64 -> Binary64
  | finite a m e, finite b n f =>
    let (p, q) := toRatio a m e
    let (r, s) := toRatio b n f
    ofSignedRatio (a != b) (p * r) (q * s)
  | infinite a, infinite b => .infinite (a != b)
  | infinite a, finite b n _ => if n = 0 then .undefined else .infinite (a != b)
  | finite a m _, infinite b => if m = 0 then .undefined else .infinite (a != b)
  | undefined, _ | _, undefined => .undefined

def ofNat? (n : Nat) : Option Binary64 := match ofRatio false n 1 with
  | infinite _ => none
  | number => some number

def toInt? : Binary64 -> Option Int
  | finite negative significand exponent =>
    let (p, q) := toRatio negative significand exponent
    if p % q = 0 then some (p / q) else none
  | _ => none

def isFinite : Binary64 -> Bool
  | finite .. => true
  | _ => false

def isZero : Binary64 -> Bool
  | finite _ significand _ => significand == 0
  | _ => false
end Binary64

/-- Digits and a power of ten: `digits * 10 ^ exponent`. -/
structure Decimal where
  digits : Nat
  exponent : Int

/-- The reals that round to a positive number, as multiples of `1 / unit`. -/
structure RoundingInterval where
  low : Nat
  value : Nat
  high : Nat
  unit : Nat
  closed : Bool

/-- The interval of reals that round to `significand * 2 ^ exponent`. Below a
power of two the neighbours are twice as dense. -/
def roundingInterval (significand : Nat) (exponent : Int) : RoundingInterval :=
  let isPower := significand == Binary64.significandLimit / 2 && Binary64.leastExponent < exponent
  let low := if isPower then 4 * significand - 1 else 4 * significand - 2
  let shift := exponent - 2
  let factor := Nat.pow 2 shift.toNat
  { low := low * factor
    value := 4 * significand * factor
    high := (4 * significand + 2) * factor
    unit := Nat.pow 2 (-shift).toNat
    closed := significand % 2 == 0 }

namespace RoundingInterval
variable (interval : RoundingInterval)

/-- Whether `digits * 10 ^ exponent` lies in the interval. -/
def contains (decimal : Decimal) : Bool :=
  let point := decimal.digits * Nat.pow 10 decimal.exponent.toNat * interval.unit
  let scale := Nat.pow 10 (-decimal.exponent).toNat
  if interval.closed then interval.low * scale <= point && point <= interval.high * scale
  else interval.low * scale < point && point < interval.high * scale

def leadingZeros (numerator denominator : Nat) : Nat -> Nat
  | 0 => 0
  | fuel + 1 =>
    if denominator <= numerator then 0 else leadingZeros (10 * numerator) denominator fuel + 1

/-- The least `k` with the value below `10 ^ k`. -/
def magnitude : Int :=
  if interval.unit <= interval.value then Binary64.digitCount (interval.value / interval.unit)
  else 1 - (leadingZeros interval.value interval.unit 400 : Nat)

def nearest? (count : Nat) : Option Decimal :=
  let exponent := interval.magnitude - count
  let numerator := interval.value * Nat.pow 10 (-exponent).toNat
  let denominator := interval.unit * Nat.pow 10 exponent.toNat
  let below : Decimal := ⟨numerator / denominator, exponent⟩
  let above : Decimal := ⟨numerator / denominator + 1, exponent⟩
  let belowFits := interval.contains below
  let aboveFits := interval.contains above
  let remainder := numerator % denominator
  if belowFits && aboveFits then
    if denominator < 2 * remainder || (denominator == 2 * remainder && below.digits % 2 == 1)
    then some above else some below
  else if belowFits then some below
  else if aboveFits then some above
  else none

/-- The first decimal in the interval among those of `count`, `count + 1`, …
digits. Seventeen digits always suffice. -/
def search (interval : RoundingInterval) (count : Nat) : Nat -> Decimal
  | 0 => ⟨0, 0⟩
  | fuel + 1 => (interval.nearest? count).getD (interval.search (count + 1) fuel)
end RoundingInterval

def Decimal.strip (decimal : Decimal) : Nat -> Decimal
  | 0 => decimal
  | fuel + 1 =>
    if decimal.digits ≠ 0 && decimal.digits % 10 = 0 then
      Decimal.strip ⟨decimal.digits / 10, decimal.exponent + 1⟩ fuel
    else decimal

def shortest (significand : Nat) (exponent : Int) : Decimal :=
  ((roundingInterval significand exponent).search 1 17).strip 20

structure RealStyle where
  leastPositional : Int
  greatestPositional : Int
  plusSign : Bool
  exponentWidth : Nat
  infinite : String
  undefined : String

def positional (digits : List Char) (whole : Int) : List Char :=
  if whole <= 0 then '0' :: '.' :: (List.replicate (-whole).toNat '0' ++ digits)
  else
    let before := digits.take whole.toNat
    let behind := digits.drop whole.toNat
    before ++ List.replicate (whole.toNat - before.length) '0' ++
      '.' :: (if behind.isEmpty then ['0'] else behind)

def scientific (style : RealStyle) (digits : List Char) (power : Int) : List Char :=
  let mantissa := match digits with
    | first :: second :: rest => first :: '.' :: second :: rest
    | short => short
  let sign := if power < 0 then ['-'] else if style.plusSign then ['+'] else []
  let written := Nat.toDigits 10 power.natAbs
  mantissa ++ 'e' :: sign ++ List.replicate (style.exponentWidth - written.length) '0' ++ written

def Binary64.write (style : RealStyle) : Binary64 -> String
  | finite negative significand exponent =>
    let body := if significand = 0 then ['0', '.', '0'] else
        let decimal := shortest significand exponent
        let digits := Nat.toDigits 10 decimal.digits
        let power := decimal.exponent + digits.length - 1
        if style.leastPositional <= power && power <= style.greatestPositional then
          positional digits (power + 1)
        else scientific style digits power
    String.ofList (if negative then '-' :: body else body)
  | infinite negative => if negative then "-" ++ style.infinite else style.infinite
  | undefined => style.undefined
end RouteDocs.Number
