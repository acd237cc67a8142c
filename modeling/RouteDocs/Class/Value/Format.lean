import RouteDocs.Class.Operation
import RouteDocs.Text.Search

/-! # Classes of values, and their texts -/

namespace RouteDocs.Class
open Text

namespace Builtin
def object : Builtin := .standard "object"

def type : Builtin := .standard "type"
end Builtin

namespace Hint
def classOf : Hint -> Builtin
  | nothing => .none
  | builtin _ | declared _ _ => .type
  | generic .. | unpacked .. => .standard "GenericAlias"
  | form given => .library "typing" given.className
  | formOf given _ => .library "typing" given.filledName
  | union _ => .library "typing" "_UnionGenericAlias"
  | classField _ => .library "typing" Form.classField.filledName
  | leftOpen .. => .library "typing" "TypeVar"
  | bars _ => .standard "UnionType"
  | reference _ => .library "typing" "ForwardRef"
  | dots => .standard "ellipsis"
  | notImplemented => .standard "NotImplementedType"
  | truth _ => .bool
  | int _ => .int
  | real _ => .float
  | complex .. => .standard "complex"
  | text _ => .str
  | octets _ => .bytes
  | octetList _ | cell .octets _ => .standard "bytearray"
  | row _ => .tuple
  | list _ | cell .list _ => .list
  | set _ | cell .set _ => .set
  | frozenSet _ => .frozenset
  | dict _ | cell .dict _ => .dict
  | proxy _ => .standard "mappingproxy"
  | view .keys _ => .standard "dict_keys"
  | view .values _ => .standard "dict_values"
  | view .entries _ => .standard "dict_items"
  | range .. => .standard "range"
  | slice .. => .standard "slice"
  | cell (.stream name) _ => .standard name
  | routine name =>
    .standard (if Library.isFunction name then "function" else "builtin_function_or_method")
  | bound .. => .standard "builtin_function_or_method"
  | method .method .. => .standard "method_descriptor"
  | method .op .. => .standard "wrapper_descriptor"
  | method .value .. => .standard "getset_descriptor"
  | method .place .. => .standard "member_descriptor"
  | fn .. => .standard "function"
  | cell .code _ => .standard "code"
  | error cls _ _ => cls
  | thing _ (.builtin cls) _ | inst (.builtin cls) _ _ => cls
  | const .. | thing .. | record .. | inst .. => .object

def classHint : Hint -> Hint
  | inst cls _ _ | thing _ cls _ | record _ cls _ | const cls _ _ => cls
  | hint => builtin hint.classOf

def className (hint : Hint) : String := hint.classHint.plainName
def ofChars (chars : Chars) : Hint := text (pieces chars)

def chars? : Hint -> Option Chars
  | text pieces => ofPieces? pieces
  | _ => none

def shownText (hint : Hint) : Tried (List Piece) :=
  if hint.isTooLong then .error (.badValue DigitOverflow.written.message)
  else .ok (pieces hint.shown.toList)

def showsPart (cls : Builtin) : Bool := cls.name = "KeyError"

def asText : Hint -> Tried (List Piece)
  | text pieces => .ok pieces
  | error _ _ [] => .ok []
  | error cls _ [alone] =>
    match alone with
    | text pieces => if showsPart cls then alone.shownText else .ok pieces
    | _ => alone.shownText
  | error _ _ args => (row args).shownText
  | const owner name _ => .ok (pieces (owner.plainName ++ "." ++ name).toList)
  | record .model cls fields =>
    if (record .model cls fields).isTooLong then
      .error (.badValue DigitOverflow.written.message)
    else .ok (pieces (" ".intercalate (fieldTexts fields)).toList)
  | hint => hint.shownText

def plainText (hint : Hint) : Tried (List Piece) := do
  let pieces <- hint.shownText
  return pieces.flatMap fun piece => match piece with
    | .char c => if c.toNat < 128 then [piece] else Text.pieces (numbered c)
    | .surrogate _ => Text.pieces piece.escaped

def converted (hint : Hint) : Option Char -> Tried (List Piece)
  | some 'r' => hint.shownText
  | some 'a' => hint.plainText
  | _ => hint.asText
end Hint

open Number (Binary64)

structure Format where
  fill : Char := ' '
  align : Char
  sign? : Option Char := none
  dropsZeroSign : Bool := false
  isAlternate : Bool := false
  width? : Option Nat := none
  separator? : Option Char := none
  precision? : Option Nat := none
  type? : Option Char := none

namespace Format
def refuse {α : Type} (message : String) : Tried α := .error (.badValue message)
def isAlign (c : Char) : Bool := c ∈ ['<', '>', '=', '^']

def number (text : Chars) : Tried (Option Nat × Chars) :=
  let digits := text.takeWhile isDigit
  if digits.isEmpty then .ok (none, text)
  else if Hint.placeLimit <= numeral digits then
    refuse "Too many decimal digits in format string"
  else .ok (some (numeral digits), text.drop digits.length)

def shownLetter (c : Char) : String := if 32 < c.toNat && c.toNat < 128 then String.ofList [c]
  else "\\x" ++ String.ofList (Nat.toDigits 16 c.toNat)

def alignment (text : Chars) : Option Char × Option Char × Chars := match text with
  | fill :: align :: rest =>
    if isAlign align then (some fill, some align, rest)
    else if isAlign fill then (none, some fill, align :: rest)
    else (none, none, text)
  | [align] => if isAlign align then (none, some align, []) else (none, none, text)
  | [] => (none, none, [])

def takes (c : Char) (text : Chars) : Bool × Chars :=
  if text.head? = some c then (true, text.tail) else (false, text)

def grouping (text : Chars) : Tried (Option Char × Chars) :=
  let both : Tried (Option Char × Chars) := refuse "Cannot specify both ',' and '_'."
  match text with
  | ',' :: '_' :: _ | '_' :: ',' :: _ => both
  | ',' :: rest => .ok (some ',', rest)
  | '_' :: rest => .ok (some '_', rest)
  | _ => .ok (none, text)

def groupedTypes : Chars := ['d', 'e', 'f', 'g', 'E', 'G', '%', 'F']
def baseTypes : Chars := ['b', 'o', 'x', 'X']

def checkGrouping (separator? type? : Option Char) : Tried Unit :=
  match separator?, type? with
  | some separator, some type =>
    if type ∈ groupedTypes || (separator = '_' && type ∈ baseTypes) then .ok ()
    else
      let separator := String.ofList [separator]
      let type := shownLetter type
      refuse s!"Cannot specify '{separator}' with '{type}'."
  | _, _ => .ok ()

def read (normal : Char) (type? : Option Char) (className : String) (text : Chars) :
    Tried Format := do
  let (fill?, align?, rest) := alignment text
  let (sign?, rest) := match rest with
    | c :: behind => if c ∈ [' ', '+', '-'] then (some c, behind) else (none, rest)
    | [] => (none, [])
  let (dropsZeroSign, rest) := takes 'z' rest
  let (isAlternate, rest) := takes '#' rest
  let (isPadded, rest) := if fill?.isNone then takes '0' rest else (false, rest)
  let (width?, rest) <- number rest
  let (separator?, rest) <- grouping rest
  let (precision?, rest) <- match rest with
    | '.' :: behind => do
      let (found?, behind) <- number behind
      if found?.isNone then refuse "Format specifier missing precision"
      pure (found?, behind)
    | _ => pure (none, rest)
  if 1 < rest.length then
    let given := String.ofList text
    refuse s!"Invalid format specifier '{given}' for object of type '{className}'"
  let type? := rest.head?.or type?
  checkGrouping separator? type?
  let fill := if isPadded then '0' else fill?.getD ' '
  let align := align?.getD (if isPadded && normal = '>' then '=' else normal)
  return { fill, align, sign?, dropsZeroSign, isAlternate, width?, separator?, precision?, type? }

def unknownType {α : Type} (type : Char) (className : String) : Tried α :=
  let type := shownLetter type
  refuse s!"Unknown format code '{type}' for object of type '{className}'"

variable (format : Format)

def paddings (missing : Nat) : Nat × Nat × Nat := match format.align with
  | '<' => (0, 0, missing)
  | '^' => (missing / 2, 0, missing - missing / 2)
  | '=' => (0, missing, 0)
  | _ => (missing, 0, 0)

def checkWidth : Tried Unit :=
  if Hint.sizeBound < format.width?.getD 0 || Hint.sizeBound < format.precision?.getD 0 then
    .error .tooLarge
  else .ok ()

def filled (pieces : List Piece) : List Piece :=
  let (left, _, right) := format.paddings (format.width?.getD 0 - pieces.length)
  List.replicate left (.char format.fill) ++ pieces ++ List.replicate right (.char format.fill)

def ofText (pieces : List Piece) : Tried (List Piece) := do
  match format.sign? with
  | some ' ' => refuse "Space not allowed in string format specifier"
  | some _ => refuse "Sign not allowed in string format specifier"
  | none => pure ()
  if format.dropsZeroSign then
    refuse "Negative zero coercion (z) not allowed in string format specifier"
  if format.isAlternate then
    refuse "Alternate form (#) not allowed in string format specifier"
  if format.align = '=' then refuse "'=' alignment not allowed in string format specifier"
  if Hint.sizeBound < format.width?.getD 0 then throw .tooLarge
  let kept := match format.precision? with
    | some count => pieces.take count
    | none => pieces
  return format.filled kept

def groupedFrom (size : Nat) (separator : Char) :
    Nat -> (digits : Chars) -> (width : Int) -> Chars
  | 0, digits, _ => digits
  | fuel + 1, digits, width =>
    let count := min size (max (max digits.length width.toNat) 1)
    let taken := digits.take count
    let group := taken ++ List.replicate (count - taken.length) '0'
    let rest := digits.drop count
    let left := width - count
    if rest.isEmpty && left <= 0 then group
    else group ++ separator :: groupedFrom size separator fuel rest (left - 1)

def grouped (digits : Chars) (width : Int) : Chars := match format.separator? with
  | none => List.replicate (max width 0 - digits.length).toNat '0' ++ digits
  | some separator =>
    let size := match format.type? with
      | some type => if type ∈ baseTypes then 4 else 3
      | none => 3
    (groupedFrom size separator (digits.length + width.toNat + 1) digits.reverse width).reverse

def signText (isNegative : Bool) : Chars := if isNegative then ['-']
  else match format.sign? with
    | some '+' => ['+']
    | some ' ' => [' ']
    | _ => []

def ofParts (isNegative : Bool) (mark digits rest : Chars) : Chars :=
  let sign := format.signText isNegative
  let others := sign.length + mark.length + rest.length
  let width : Int := (format.width?.getD 0 : Int) - others
  let isZeroFilled := format.fill = '0' && format.align = '='
  let groups := if digits.isEmpty then []
    else format.grouped digits (if isZeroFilled then width else 0)
  let missing := format.width?.getD 0 - (others + groups.length)
  let (left, middle, right) := format.paddings missing
  let pad (count : Nat) := List.replicate count format.fill
  pad left ++ sign ++ mark ++ pad middle ++ groups ++ rest ++ pad right

def baseOf (type : Char) : Nat × Chars := match type with
  | 'b' => (2, ['0', 'b'])
  | 'o' => (8, ['0', 'o'])
  | 'x' => (16, ['0', 'x'])
  | 'X' => (16, ['0', 'X'])
  | _ => (10, [])

def ofWhole (value : Int) : Tried Chars := do
  if format.precision?.isSome then refuse "Precision not allowed in integer format specifier"
  if format.dropsZeroSign then
    refuse "Negative zero coercion (z) not allowed in integer format specifier"
  let type := format.type?.getD 'd'
  if type = 'c' then
    if format.sign?.isSome then refuse "Sign not allowed with integer format specifier 'c'"
    if format.isAlternate then
      refuse "Alternate form (#) not allowed with integer format specifier 'c'"
    if value < 0 || 0x110000 <= value then throw .outOfRange
    format.checkWidth
    return format.ofParts false [] [] [Char.ofNat value.toNat]
  format.checkWidth
  let (base, mark) := baseOf type
  if base = 10 && Hint.isLongNumber value then refuse DigitOverflow.written.message
  let digits := Nat.toDigits base value.natAbs
  let digits := if type = 'X' then digits.map Char.toUpper else digits
  return format.ofParts (value < 0) (if format.isAlternate then mark else []) digits []

def withPoint (text : Chars) : Chars := if text.contains '.' then text else
    let whole := text.takeWhile Char.isDigit
    whole ++ '.' :: text.drop whole.length

def realText (type? : Option Char) (precision? : Option Nat) (isAlternate : Bool)
    (number : Binary64) : Chars :=
  match number with
  | .infinite _ => "inf".toList
  | .undefined => "nan".toList
  | .finite _ significand exponent =>
    let (above, below) := Binary64.toRatio false significand exponent
    let laidOut (layout : Number.DigitLayout) :=
      Number.laidOut layout (precision?.getD 6) isAlternate above.natAbs below
    match type?, precision? with
    | none, none =>
      let text := (number.abs.write realStyle).toList
      if isAlternate then withPoint text else text
    | none, some precision => Number.laidOutReal precision isAlternate above.natAbs below
    | some 'e', _ | some 'E', _ => laidOut .exponent
    | some 'f', _ | some 'F', _ | some '%', _ => laidOut .fixed
    | _, _ => laidOut .general

def isZeroText (text : Chars) : Bool :=
  text.head?.any Char.isDigit && (text.takeWhile (· ≠ 'e')).all fun c => !('1' <= c && c <= '9')

def inTypeCase (type? : Option Char) (text : Chars) : Chars :=
  if type?.any fun type => type ∈ ['E', 'F', 'G'] then text.map Char.toUpper else text

def ofReal (value : Binary64) : Chars :=
  let isPercent := format.type? = some '%'
  let value := if isPercent then value.mul (.ofRatio false 100 1) else value
  let text := realText format.type? format.precision? format.isAlternate value
  let isNegative := value.isNegative && !(format.dropsZeroSign && isZeroText text)
  let digits := text.takeWhile Char.isDigit
  let rest := inTypeCase format.type? (text.drop digits.length)
  format.ofParts isNegative [] digits (rest ++ (if isPercent then ['%'] else []))

def ofComplex (first second : Binary64) : Tried Chars := do
  if format.fill = '0' then
    refuse "Zero padding is not allowed in complex format specifier"
  if format.align = '=' then
    refuse "'=' alignment flag is not allowed in complex format specifier"
  format.checkWidth
  let bare := { format with width? := none, align := '<', fill := ' ' }
  let isShort := format.type?.isNone && first = .zero false
  /- Parts without a type are written without the fraction of a whole number. -/
  let part (format : Format) (value : Binary64) : Chars := if format.type?.isNone then
      let text := match format.precision? with
        | none => shortReal value.abs
        | some precision => realText (some 'g') (some precision) format.isAlternate value
      let text := if format.isAlternate && format.precision?.isNone && value.isFinite then
          withPoint text else text
      let isNegative := value.isNegative && !(format.dropsZeroSign && isZeroText text)
      let digits := text.takeWhile Char.isDigit
      format.ofParts isNegative [] digits (text.drop digits.length)
    else format.ofReal value
  let real := if isShort then [] else part bare first
  let imaginary := part (if isShort then bare else { bare with sign? := some '+' }) second
  let body := real ++ imaginary ++ ['j']
  let body := if format.type?.isNone && !isShort then '(' :: body ++ [')'] else body
  let (left, _, right) := format.paddings (format.width?.getD 0 - body.length)
  return List.replicate left format.fill ++ body ++ List.replicate right format.fill
end Format

namespace Hint
def realTypes : Chars := ['e', 'E', 'f', 'F', 'g', 'G', '%']

def wholeInFormat (name : String) (value : Int) (text : Chars) : Tried Chars := do
  let format <- Format.read '>' (some 'd') name text
  let type := format.type?.getD 'd'
  if type ∈ ['b', 'c', 'd', 'o', 'x', 'X', 'n'] then format.ofWhole value
  else if type ∈ realTypes then
    format.checkWidth
    let some number := Binary64.ofInt? value | throw .outOfRange
    return format.ofReal number
  else Format.unknownType type name

def realInFormat (value : Binary64) (text : Chars) : Tried Chars := do
  let format <- Format.read '>' none "float" text
  format.checkWidth
  let some type := format.type? | return format.ofReal value
  if type ∈ realTypes || type = 'n' then return format.ofReal value
  else Format.unknownType type "float"

def complexInFormat (first second : Binary64) (text : Chars) : Tried Chars := do
  let format <- Format.read '>' none "complex" text
  match format.type? with
  | none => format.ofComplex first second
  | some type =>
    if (type ∈ realTypes && type ≠ '%') || type = 'n' then format.ofComplex first second
    else Format.unknownType type "complex"

def textInFormat (name : String) (pieces : List Piece) (text : Chars) :
    Tried (List Piece) := do
  let format <- Format.read '<' (some 's') name text
  match format.type? with
  | some 's' => format.ofText pieces
  | some type => Format.unknownType type name
  | none => format.ofText pieces

def inFormat (hint : Hint) (text : Chars) : Tried (List Piece) :=
  if text.isEmpty then hint.asText
  else match hint with
  | .text pieces => textInFormat "str" pieces text
  | real value => (realInFormat value text).map pieces
  | complex first second => (complexInFormat first second text).map pieces
  | const owner name _ =>
    textInFormat "str" (pieces (owner.plainName ++ "." ++ name).toList) text
  | _ =>
    match hint.int? with
    | some value => (wholeInFormat hint.className value text).map pieces
    | none => .error .misfit
end Hint
end RouteDocs.Class
