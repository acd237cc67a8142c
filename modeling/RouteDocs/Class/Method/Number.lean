import RouteDocs.Class.Method.Text
import RouteDocs.Class.Value.Format

/-! # Methods of bytes and numbers -/

/-! ## Numerals -/

namespace RouteDocs.Class
open Text
open Number (Binary64)

namespace Numeral
def common (c : Char) : Char := if c.toNat < 128 then c else match digitValue? c with
    | some value => Char.ofNat (48 + value)
    | none => '?'

variable (chars : Chars)

def prepared : Chars := (trimWhile isOuterBlank chars).map common

def signed : Bool × Chars := match chars with
  | '-' :: rest => (true, rest)
  | '+' :: rest => (false, rest)
  | _ => (false, chars)

variable (base : Nat) (value : Hint) (chars : Chars)

def digitIn (c : Char) : Option Nat :=
  let value? := if c.isDigit then some (c.toNat - 48)
    else if 'a' <= c && c <= 'z' then some (c.toNat - 87)
    else if 'A' <= c && c <= 'Z' then some (c.toNat - 55)
    else none
  value?.filter (· < base)

def digitsIn (base : Nat) : (isBehindDigit : Bool) -> Chars -> Option (List Nat)
  | isBehindDigit, [] => if isBehindDigit then some [] else none
  | isBehindDigit, c :: rest =>
    if c = '_' then
      if isBehindDigit then digitsIn base false rest else none
    else match digitIn base c with
      | some value => (digitsIn base true rest).map (value :: ·)
      | none => none

def marked? : Chars -> Option (Nat × Chars)
  | '0' :: mark :: rest =>
    (match mark with
      | 'x' | 'X' => some 16
      | 'o' | 'O' => some 8
      | 'b' | 'B' => some 2
      | _ => none).map fun base => (base, rest)
  | _ => none

def unmarked : Option (Nat × Chars) :=
  let behind (rest : Chars) : Chars := if rest.head? = some '_' then rest.tail else rest
  match marked? chars with
  | some (found, rest) =>
    if base = 0 || base = found then some (found, behind rest) else some (base, chars)
  | none =>
    if base ≠ 0 then some (base, chars)
    else if chars.head? = some '0' && chars.any fun c => c ≠ '0' && c ≠ '_' then none
    else some (10, chars)

def isFreeBase : Bool := base ∈ [2, 4, 8, 16, 32]

def wholeMessage : String :=
  let shown := String.ofList (value.shown.toList.take 200)
  s!"invalid literal for int() with base {base}: {shown}"

def whole (base : Nat) (chars : Chars) : Tried Int :=
  let (isNegative, body) := signed (prepared chars)
  let digits? := unmarked base body >>= fun (found, rest) =>
    (digitsIn found false rest).map fun digits => (found, digits)
  match digits? with
  | none => .error (.badValue (wholeMessage base value))
  | some (found, digits) =>
    if !isFreeBase found && digitLimit < digits.length then
      .error (.badValue (DigitOverflow.read digits.length).message)
    else
      let size : Int := (digits.foldl (fun n digit => n * found + digit) 0 : Nat)
      .ok (if isNegative then -size else size)

def joined? : (before : Char) -> Chars -> Option Chars
  | before, [] => if before = '_' then none else some []
  | before, c :: rest =>
    if c = '_' then if before.isDigit then joined? c rest else none
    else if before = '_' && !c.isDigit then none
    else (joined? c rest).map (c :: ·)

def words : List (String × Binary64) :=
  [("infinity", .infinite false), ("inf", .infinite false), ("nan", .undefined)]

def word? : Option (Binary64 × Chars) :=
  words.findSome? fun (word, number) =>
    if word.toList.isPrefixOf (chars.map Char.toLower) then
      some (number, chars.drop word.length)
    else none

def exponent : Int × Chars := match chars with
  | mark :: rest =>
    let (isNegative, digits) := signed rest
    let found := digits.takeWhile Char.isDigit
    if (mark = 'e' || mark = 'E') && !found.isEmpty then
      let size : Int := numeral found
      (if isNegative then -size else size, digits.drop found.length)
    else (0, chars)
  | [] => (0, [])

def realAt? : Option (Binary64 × Chars) :=
  let (isNegative, body) := signed chars
  let signOf (number : Binary64) : Binary64 := if isNegative then number.neg else number
  match word? body with
  | some (number, rest) => some (signOf number, rest)
  | none =>
    let whole := body.takeWhile Char.isDigit
    let behind := body.drop whole.length
    let (fraction, rest) := match behind with
      | '.' :: more => (more.takeWhile Char.isDigit, more.dropWhile Char.isDigit)
      | _ => ([], behind)
    if whole.isEmpty && fraction.isEmpty then none
    else
      let (power, rest) := exponent rest
      some (.ofDecimal isNegative (numeral (whole ++ fraction)) (power - fraction.length),
        rest)

def real : Tried Binary64 :=
  match joined? ' ' (prepared chars) >>= realAt? with
  | some (number, []) => .ok number
  | _ =>
    let shown := value.shown
    .error (.badValue s!"could not convert string to float: {shown}")

def unit? : Chars -> Option (Binary64 × Chars)
  | '+' :: rest => some (.ofRatio false 1 1, rest)
  | '-' :: rest => some (.ofRatio true 1 1, rest)
  | _ => none

def behindMark? : Chars -> Option Chars
  | 'j' :: rest | 'J' :: rest => some rest
  | _ => none

def complexAt? : Option (Binary64 × Binary64 × Chars) := do
  match realAt? chars with
  | some (first, rest) =>
    match realAt? rest, unit? rest, behindMark? rest with
    | some (second, behind), some _, _ => return (first, second, <- behindMark? behind)
    | _, some (second, behind), _ => return (first, second, <- behindMark? behind)
    | _, none, some behind => return (.zero false, first, behind)
    | _, none, none => return (first, .zero false, rest)
  | none =>
    let (second, behind) := (unit? chars).getD (.ofRatio false 1 1, chars)
    return (.zero false, second, <- behindMark? behind)

def complex : Tried (Binary64 × Binary64) :=
  let trimmed := trimWhile isOuterBlank
  let inner? : Option Chars := joined? ' ' (prepared chars) >>= fun text =>
    match text with
    | '(' :: rest =>
      if rest.getLast? = some ')' then some (trimmed rest.dropLast) else none
    | _ => some text
  match inner? >>= complexAt? with
  | some (first, second, []) => .ok (first, second)
  | _ => .error (.badValue "complex() arg is a malformed string")
end Numeral
end RouteDocs.Class

namespace RouteDocs.Class.VM
open Eval

def bytesArgument (value : Hint) : Eval (List Nat) := do
  match <- opened value with
  | .octets bytes | .octetList bytes => return bytes
  | _ => misfit

def byteOf (shown : String) (value : Hint) : Eval Nat := do
  let some n := value.int? | misfit
  if 0 <= n && n < 256 then return n.toNat
  else throw (.badValue (shown ++ " must be in range(0, 256)"))

def byteArgument : Hint -> Eval Nat := byteOf "byte"

def innerBytes (value : Hint) : Eval (List Nat) := do
  if value.int?.isSome then return [<- byteArgument value]
  bytesArgument value

def isSmallByte (byte : Nat) : Bool := 97 <= byte && byte <= 122
def isLargeByte (byte : Nat) : Bool := 65 <= byte && byte <= 90

def isLetterByte (byte : Nat) : Bool := isSmallByte byte || isLargeByte byte
def isDigitByte (byte : Nat) : Bool := 48 <= byte && byte <= 57

def isBlankByte (byte : Nat) : Bool := byte = 32 || (9 <= byte && byte <= 13)
def smallByte (byte : Nat) : Nat := if isLargeByte byte then byte + 32 else byte
def largeByte (byte : Nat) : Nat := if isSmallByte byte then byte - 32 else byte

def titleBytes : (isInWord : Bool) -> List Nat -> List Nat
  | _, [] => []
  | isInWord, byte :: rest =>
    (if isInWord then smallByte byte else largeByte byte) :: titleBytes (isLetterByte byte) rest

/-- Whether the words of bytes begin with large letters, of which there are some if
`isSome`. -/
def areTitles : (isInWord isSome : Bool) -> List Nat -> Bool
  | _, isSome, [] => isSome
  | isInWord, isSome, byte :: rest =>
    if isLargeByte byte then !isInWord && areTitles true true rest
    else if isSmallByte byte then isInWord && areTitles true true rest
    else areTitles false isSome rest

def hexValue? (c : Char) : Option Nat := if c.isDigit then some (c.toNat - 48)
  else if 'a' <= c && c <= 'f' then some (c.toNat - 87)
  else if 'A' <= c && c <= 'F' then some (c.toNat - 55)
  else none

def readHex : (place : Nat) -> Chars -> Except Nat (List Nat)
  | _, [] => .ok []
  | place, [c] => if isBlankByte c.toNat then .ok []
    else .error (if (hexValue? c).isSome then place + 1 else place)
  | place, c :: d :: rest =>
    if isBlankByte c.toNat then readHex (place + 1) (d :: rest)
    else match hexValue? c, hexValue? d with
      | some high, some low => do return (high * 16 + low) :: (<- readHex (place + 2) rest)
      | none, _ => .error place
      | some _, none => .error (place + 1)

def bytesOfHex (args : Args) : Eval (List Nat) := do
  let .text pieces := (<- args.one) | misfit
  let chars := pieces.map fun piece => match piece with
    | .char c => c
    | .surrogate _ => '\x00'
  match readHex 0 chars with
  | .ok bytes => return bytes
  | .error place =>
    throw (.badValue s!"non-hexadecimal number found in fromhex() arg at position {place}")

def groupsFromEnd {α : Type} (size : Nat) (items : List α) : List (List α) :=
  let first := items.length % size
  let rec cut : Nat -> List α -> List (List α)
    | 0, _ => []
    | fuel + 1, rest => if rest.isEmpty then [] else rest.take size :: cut fuel (rest.drop size)
  (if first = 0 then [] else [items.take first]) ++ cut items.length (items.drop first)

def hexText (bytes : List Nat) (args : Args) : Eval Hint := do
  let [separator?, size?] <- args.fit 0 ["sep", "bytes_per_sep"] | misfit
  let pairs := bytes.map fun byte => Text.hexDigits 2 byte
  let size <- placeOr 1 size?
  let some separator := separator? | return .ofChars pairs.flatten
  let code <- match <- opened separator with
    | .text [piece] => pure (Hint.pieceCode piece)
    | .octets [byte] | .octetList [byte] => pure byte
    | .text _ | .octets _ | .octetList _ => throw (.badValue "sep must be length 1.")
    | _ => misfit
  if 128 <= code then throw (.badValue "sep must be ASCII.")
  if size = 0 then return .ofChars pairs.flatten
  let groups := if 0 < size then groupsFromEnd size.natAbs pairs
    else (groupsFromEnd size.natAbs pairs.reverse).reverse.map List.reverse
  return .ofChars (Text.joinBy [Char.ofNat code] (groups.map List.flatten))

variable (make : List Nat -> Eval Hint)

def octetTest? (bytes : List Nat) : (name : String) -> Answer
  | "isalnum" => some (truth (isSome && bytes.all fun b => isLetterByte b || isDigitByte b))
  | "isalpha" => some (truth (isSome && bytes.all isLetterByte))
  | "isascii" => some (truth (bytes.all (· < 128)))
  | "isdigit" => some (truth (isSome && bytes.all isDigitByte))
  | "islower" => some (truth (bytes.any isSmallByte && !bytes.any isLargeByte))
  | "isspace" => some (truth (isSome && bytes.all isBlankByte))
  | "istitle" => some (truth (areTitles false false bytes))
  | "isupper" => some (truth (bytes.any isLargeByte && !bytes.any isSmallByte))
  | "capitalize" => some (make ((bytes.take 1).map largeByte ++ (bytes.drop 1).map smallByte))
  | "lower" => some (make (bytes.map smallByte))
  | "upper" => some (make (bytes.map largeByte))
  | "swapcase" =>
    some (make (bytes.map fun b => if isSmallByte b then largeByte b else smallByte b))
  | "title" => some (make (titleBytes false bytes))
  | _ => none
where
  truth (value : Bool) : Eval Hint := return .truth value
  isSome : Bool := !bytes.isEmpty

def octetScript : Script Nat where
  read := bytesArgument
  readPart := innerBytes
  make := make
  ofChar := Char.toNat
  isBlank := isBlankByte
  lineEnds := {
    isReturn := (· = 13)
    isFeed := (· = 10)
    isBreak := fun byte => byte = 10 || byte = 13 }
  missing := "subsection not found"

def translatedBytes (bytes : List Nat) (args : Args) : Eval Hint := do
  let [some table, dropped?] <- args.fit 1 ["", "delete"] | misfit
  let table? <- match table with
    | .nothing => pure none
    | value => some <$> bytesArgument value
  if table?.any fun table => table.length ≠ 256 then
    throw (.badValue "translation table must be 256 characters long")
  let dropped <- match dropped? with
    | some value => bytesArgument value
    | none => pure []
  let kept := bytes.filter fun byte => !dropped.contains byte
  make (kept.map fun byte => (table?.bind fun table => table[byte]?).getD byte)

def byteTable (args : Args) : Eval Hint := do
  let (old, new) <- args.two
  let old <- bytesArgument old
  let new <- bytesArgument new
  if old.length ≠ new.length then
    throw (.badValue "maketrans arguments must have same length")
  return .octets ((old.zip new).foldl (fun table (a, b) => table.set a b) (List.range 256))

def octetMethod? (vm : VM) (make : List Nat -> Eval Hint) (bytes : List Nat)
    (name : String) (args : Args) : Answer :=
  match octetTest? make bytes name with
  | some found => some do
    args.none
    found
  | none => (scriptMethod? (octetScript make) bytes args vm name).or <| match name with
  | "decode" => some do
    let [encoding?, errors?] <- args.fit 0 ["encoding", "errors"] | misfit
    decodedText bytes encoding? errors?
  | "hex" => some (hexText bytes args)
  | "translate" => some (translatedBytes make bytes args)
  | "maketrans" => some (byteTable args)
  | "fromhex" => some do make (<- bytesOfHex args)
  | "__getnewargs__" => some do
    args.none
    return .row [.octets bytes]
  | "__bytes__" => some do
    args.none
    return .octets bytes
  | _ => none

def octetChange? (vm : VM) (number : Nat) (name : String) (args : Args) : Answer :=
  let change (action : List Nat -> Eval (List Nat)) : Eval Hint := do
    store number (.octets (<- action (<- octetsOf number)))
    return .nothing
  match name with
  | "append" => some do
    let value <- args.one
    change fun bytes => do return bytes ++ [<- byteArgument value]
  | "extend" => some do
    let value <- args.one
    change fun bytes => do return bytes ++ (<- (<- vm.items value).mapM byteArgument)
  | "insert" => some do
    let (place, value) <- args.two
    let place <- placeArgument place
    let byte <- byteArgument value
    change fun bytes => do
      let place := if place < 0 then max 0 (place + bytes.length) else place
      return bytes.take place.toNat ++ byte :: bytes.drop place.toNat
  | "pop" => some do
    let given <- args.between 0 1
    let bytes <- octetsOf number
    let place <- placeIn bytes.length ((given.head?).getD (.int (-1)))
    store number (.octets (bytes.eraseIdx place))
    return .int ((bytes[place]?).getD 0)
  | "remove" => some do
    let byte <- byteArgument (<- args.one)
    change fun bytes =>
      if bytes.contains byte then return bytes.erase byte
      else throw (.badValue "value not found in bytearray")
  | "reverse" => some do
    args.none
    change fun bytes => return bytes.reverse
  | "clear" => some do
    args.none
    change fun _ => return []
  | "copy" => some do
    args.none
    newOctets (<- octetsOf number)
  | _ => none
end RouteDocs.Class.VM

namespace RouteDocs.Class
open Number (Binary64)

namespace VM
open Eval

/-- A whole number of which a real one is a part; `toWhole` says which. -/
def nearbyWhole (toWhole : Int -> Nat -> Int) : Binary64 -> Eval Hint
  | .finite negative significand exponent =>
    let (above, below) := Binary64.toRatio negative significand exponent
    return .int (toWhole above below)
  | .infinite _ => throw .outOfRange
  | .undefined => throw (.badValue "cannot convert float NaN to integer")

variable (above : Int) (below : Nat) (chars : Chars) (number : Binary64)

def nearestWhole : Int :=
  let size : Int := Binary64.roundedQuotient above.natAbs below
  if above < 0 then -size else size

def cutWhole : Int := above.tdiv below
def floorWhole : Int := above.fdiv below
def ceilWhole : Int := -((-above).fdiv below)

def roundWhole (n places : Int) : Int := if 0 <= places then n
  else if (n.natAbs.log2 : Int) < -3 * places - 3 && 100 < -places then 0
  else
    let unit := Nat.pow 10 (-places).toNat
    nearestWhole n unit * unit

def mostPlaces : Int := 323
def leastPlaces : Int := -308

def roundReal (places : Int) : Eval Hint :=
  if !number.isFinite || mostPlaces < places then return .real number
  else if places < leastPlaces then return .real (.zero number.isNegative)
  else match number.roundedTo places with
    | .infinite _ => throw .outOfRange
    | found => return .real found

def rounded (value : Hint) (places? : Option Hint) : Eval Hint := do
  let places? <- match places? with
    | none | some .nothing => pure none
    | some given => match given.int? with
      | some n => pure (some n)
      | none => misfit
  match value, value.int?, places? with
  | .real number, _, none => nearbyWhole nearestWhole number
  | .real number, _, some places => roundReal number places
  | _, some n, none => return .int n
  | _, some n, some places => return .int (roundWhole n places)
  | _, none, _ => misfit

def absolute (value : Hint) : Eval Hint := match value, value.int? with
  | .real number, _ => return .real number.abs
  | .complex first second, _ =>
    let size := (Number.Complex.mk first second).abs
    if size.isInfinite && !first.isInfinite && !second.isInfinite then throw .outOfRange
    else return .real size
  | _, some n => return .int n.natAbs
  | _, none => misfit

def isBigOrder : Option Hint -> Eval Bool
  | none => return true
  | some value =>
    match nameOf? value with
    | some "big" => return true
    | some "little" => return false
    | some _ => throw (.badValue "byteorder must be either 'little' or 'big'")
    | none => misfit

def flagArgument : Option Hint -> Eval Bool
  | none => return false
  | some value => Eval.isTrue value

def bytesOfWhole (n : Int) (args : Args) : Eval Hint := do
  let [length?, order?, signed?] <- args.fit 0 ["length", "byteorder"] ["signed"] | misfit
  let length <- placeOr 1 length?
  let isBig <- isBigOrder order?
  let isSigned <- flagArgument signed?
  if length < 0 then throw (.badValue "length argument must be non-negative")
  if (Hint.sizeBound : Int) < length then throw .tooLarge
  if n < 0 && !isSigned then throw .outOfRange
  let limit := Int.pow 256 length.toNat
  let fits := if isSigned then -limit <= 2 * n && 2 * n < limit else n < limit
  if !fits then throw .outOfRange
  return .octets (Encoding.numberBytes isBig length.toNat (n % limit).toNat)

def wholeOfBytes (vm : VM) (args : Args) : Eval Hint := do
  let [some given, order?, signed?] <- args.fit 1 ["bytes", "byteorder"] ["signed"] | misfit
  let isBig <- isBigOrder order?
  let isSigned <- flagArgument signed?
  let bytes <- match given with
    | .octets bytes => pure bytes
    | .cell .octets number => octetsOf number
    | .text _ => misfit
    | _ => (<- vm.items given).mapM (byteOf "bytes")
  let n : Int := Encoding.bytesNumber isBig bytes
  let limit := Int.pow 256 bytes.length
  return .int (if isSigned && limit <= 2 * n then n - limit else n)

def realHex : Binary64 -> Chars
  | .undefined => "nan".toList
  | .infinite negative => (if negative then "-inf" else "inf").toList
  | .finite negative significand exponent =>
    let sign := if negative then ['-'] else []
    if significand = 0 then sign ++ "0x0.0p+0".toList
    else
      let isNormal := Nat.pow 2 52 <= significand
      let lead := if isNormal then '1' else '0'
      let power : Int := exponent + 52
      let powerSign := if power < 0 then '-' else '+'
      sign ++ ['0', 'x', lead, '.'] ++ Text.hexDigits 13 (significand % Nat.pow 2 52) ++
        'p' :: powerSign :: (toString power.natAbs).toList

def hexRow : Chars × Chars :=
  let isHex (c : Char) : Bool := (hexValue? c).isSome
  (chars.takeWhile isHex, chars.dropWhile isHex)

def hexPower : Option (Int × Chars) := match chars with
  | mark :: rest =>
    if mark ≠ 'p' && mark ≠ 'P' then some (0, chars)
    else
      let (isNegative, digits) := Numeral.signed rest
      let found := digits.takeWhile Char.isDigit
      if found.isEmpty then none
      else
        let size : Int := Text.numeral found
        some (if isNegative then -size else size, digits.drop found.length)
  | [] => some (0, [])

def realOfHex? : Option Binary64 := do
  let (isNegative, body) := Numeral.signed (Text.trimWhile (fun c => isBlankByte c.toNat) chars)
  let signOf (number : Binary64) : Binary64 := if isNegative then number.neg else number
  match Numeral.word? body with
  | some (number, rest) => if rest.isEmpty then some (signOf number) else none
  | none =>
    let body := match body with
      | '0' :: 'x' :: rest | '0' :: 'X' :: rest => rest
      | _ => body
    let (whole, rest) := hexRow body
    let (fraction, rest) := match rest with
      | '.' :: more => hexRow more
      | _ => ([], rest)
    let (power, rest) <- hexPower rest
    if (whole.isEmpty && fraction.isEmpty) || !rest.isEmpty then none
    let digits := (whole ++ fraction).foldl (fun n c => n * 16 + (hexValue? c).getD 0) 0
    let scale : Int := power - 4 * fraction.length
    if digits = 0 || scale + digits.log2 < -1200 then some (.zero isNegative)
    else if 1200 < scale + digits.log2 then some (.infinite isNegative)
    else if 0 <= scale then some (.ofRatio isNegative (digits * Nat.pow 2 scale.toNat) 1)
    else some (.ofRatio isNegative digits (Nat.pow 2 (-scale).toNat))

def realOfHex (args : Args) : Eval Hint := do
  let .text pieces := (<- args.one) | misfit
  match Text.ofPieces? pieces >>= realOfHex? with
  | some (.infinite negative) =>
    let isWord := pieces.any fun piece => piece.is (fun c => c = 'i' || c = 'I')
    if isWord then return .real (.infinite negative) else throw .outOfRange
  | some number => return .real number
  | none => throw (.badValue "invalid hexadecimal floating-point string")

def ratioRow : Hint :=
  let common := Nat.gcd above.natAbs below
  .row [.int (above / common), .int ((below : Int) / common)]

def onesIn : Nat -> Nat -> Nat
  | 0, _ => 0
  | fuel + 1, n => if n = 0 then 0 else n % 2 + onesIn fuel (n / 2)

def wholeMethod? (n : Int) (name : String) (args : Args) : Answer :=
  let width := if n = 0 then 0 else n.natAbs.log2 + 1
  let alone? : Option (Tried Hint) := match name with
    | "bit_length" => some (.ok (.int width))
    | "bit_count" => some (.ok (.int (onesIn width n.natAbs)))
    | "conjugate" | "__trunc__" | "__floor__" | "__ceil__" | "__int__" | "__index__"
    | "__pos__" => some (.ok (.int n))
    | "as_integer_ratio" => some (.ok (.row [.int n, .int 1]))
    | "__abs__" => some (.ok (.int n.natAbs))
    | "__neg__" => some (.ok (.int (-n)))
    | "__invert__" => some (.ok (.int (-n - 1)))
    | "__float__" => some (((Hint.int n).asReal?.getD (.error .misfit)).map .real)
    | "__getnewargs__" => some (.ok (.row [.int n]))
    | _ => none
  match alone? with
  | some found => some do
    args.none
    lift found
  | none => match name with
    | "to_bytes" => some (bytesOfWhole n args)
    | "__round__" => some do
      let given <- args.between 0 1
      if (given.head?).any fun value => value.int?.isNone then misfit
      rounded (.int n) given.head?
    | _ => none

def realMethod? (name : String) (args : Args) : Answer :=
  let alone? : Answer := match name with
    | "is_integer" => some (return .truth number.toInt?.isSome)
    | "as_integer_ratio" => some <| match number with
      | .finite negative significand exponent =>
        let (above, below) := Binary64.toRatio negative significand exponent
        return ratioRow above below
      | .infinite _ => throw .outOfRange
      | .undefined => throw (.badValue "cannot convert NaN to integer ratio")
    | "hex" => some (return .ofChars (realHex number))
    | "conjugate" | "__float__" | "__pos__" => some (return .real number)
    | "__trunc__" | "__int__" => some (nearbyWhole cutWhole number)
    | "__floor__" => some (nearbyWhole floorWhole number)
    | "__ceil__" => some (nearbyWhole ceilWhole number)
    | "__abs__" => some (return .real number.abs)
    | "__neg__" => some (return .real number.neg)
    | "__getnewargs__" => some (return .row [.real number])
    | _ => none
  match alone? with
  | some found => some do
    args.none
    found
  | none => match name with
    | "__round__" => some do
      rounded (.real number) (<- args.between 0 1).head?
    | _ => none

def complexMethod? (first second : Binary64) (name : String) (args : Args) : Answer :=
  let alone? : Answer := match name with
    | "conjugate" => some (return .complex first second.neg)
    | "__complex__" | "__pos__" => some (return .complex first second)
    | "__neg__" => some (return .complex first.neg second.neg)
    | "__abs__" => some (absolute (.complex first second))
    | "__getnewargs__" => some (return .row [.real first, .real second])
    | _ => none
  alone?.map fun found => do
    args.none
    found
end VM
end RouteDocs.Class
