import RouteDocs.Text.Case
import RouteDocs.Yaml.Scalar

/-! # What plain text stands for -/

namespace RouteDocs.Yaml
inductive Tag where
  | null
  | bool
  | int
  | real
  | text
  | moment
  | merge
  | value
  | binary
  | list
  | map
  | set
  | orderedMap
  | pairs
  | unknown
deriving DecidableEq

def standardTag : String := "tag:yaml.org,2002:"

def standardTags : List (String × Tag) := [
  ("null", .null), ("bool", .bool), ("int", .int), ("float", .real), ("str", .text),
  ("timestamp", .moment), ("binary", .binary), ("seq", .list), ("map", .map), ("set", .set),
  ("omap", .orderedMap), ("pairs", .pairs), ("merge", .merge), ("value", .value)]

def Tag.ofName (name : String) : Tag :=
  ((standardTags.find? fun (short, _) => standardTag ++ short == name).map Prod.snd).getD .unknown

def truthOf? (word : String) : Option Bool :=
  if word ∈ ["yes", "true", "on"] then some true
  else if word ∈ ["no", "false", "off"] then some false
  else none

def truthWords : List String := [
  "yes", "Yes", "YES", "no", "No", "NO", "true", "True", "TRUE", "false", "False", "FALSE",
  "on", "On", "ON", "off", "Off", "OFF"]

def nullWords : List String := ["~", "null", "Null", "NULL", ""]

def dropSign : Chars -> Chars
  | '+' :: rest | '-' :: rest => rest
  | text => text

variable (text : Chars) (base : Nat) (c : Char) (tag : Tag)

def isGrouped : Bool := c.isDigit || c == '_'

def isSixtieth : Chars -> Bool
  | [d] => d.isDigit
  | [t, d] => '0' <= t && t <= '5' && d.isDigit
  | _ => false

def isSixtieths : Chars -> Bool
  | ':' :: rest => (Text.splitAt ':' rest).all isSixtieth
  | _ => false

def isHexDigit : Bool := c.isDigit || ('a' <= c && c <= 'f') || ('A' <= c && c <= 'F')

def isInt : Bool :=
  match dropSign text with
  | '0' :: 'b' :: rest => !rest.isEmpty && rest.all fun c => c == '0' || c == '1' || c == '_'
  | '0' :: 'x' :: rest => !rest.isEmpty && rest.all fun c => isHexDigit c || c == '_'
  | '0' :: rest => rest.all fun c => ('0' <= c && c <= '7') || c == '_'
  | c :: rest =>
    c.isDigit &&
      (let behind := rest.dropWhile isGrouped
       behind.isEmpty || isSixtieths behind)
  | [] => false

def isExponent : Chars -> Bool
  | [] => true
  | e :: sign :: digits =>
    (e == 'e' || e == 'E') && (sign == '+' || sign == '-') && !digits.isEmpty &&
      digits.all Char.isDigit
  | _ => false

def startsDigit : Chars -> Bool
  | c :: _ => c.isDigit
  | [] => false

def isReal : Bool :=
  let digits := dropSign text
  let pointed := match digits.dropWhile isGrouped with
    | '.' :: rest => startsDigit digits && isExponent (rest.dropWhile isGrouped)
    | _ => false
  let bare := match text with
    | '.' :: rest => startsDigit rest && isExponent (rest.dropWhile isGrouped)
    | _ => false
  let sixty := match Text.splitFirst '.' (digits.dropWhile isGrouped) with
    | some (before, behind) => startsDigit digits && isSixtieths before && behind.all isGrouped
    | none => false
  pointed || bare || sixty ||
    String.ofList digits ∈ [".inf", ".Inf", ".INF"] ||
    String.ofList text ∈ [".nan", ".NaN", ".NAN"]

def dropFinalFeed : Chars :=
  if 1 < text.length && text.getLast? = some '\n' then text.dropLast else text

def markWords : List String := ["!", "&", "*"]

def Tag.ofPlain : Tag :=
  let text := dropFinalFeed text
  let word := String.ofList text
  if word ∈ truthWords then .bool
  else if isReal text then .real
  else if isInt text then .int
  else if word = "<<" then .merge
  else if word ∈ nullWords then .null
  else if isMoment text then .moment
  else if word = "=" then .value
  else if word ∈ markWords then .unknown
  else .text

open Text Number

def digitIn? : Option Nat :=
  let value? := match digitValue? c with
    | some value => some value
    | none => hexValue? c
  value?.filter (· < base)

def dropBaseMark : Chars -> Chars
  | '0' :: mark :: rest =>
    if (base == 2 && (mark == 'b' || mark == 'B')) || (base == 8 && (mark == 'o' || mark == 'O')) ||
        (base == 16 && (mark == 'x' || mark == 'X')) then rest
    else '0' :: mark :: rest
  | digits => digits

def wholeIn (text : Chars) : Except Fault Int :=
  let refuse : Except Fault Int := .error (.integer base (quoted (String.ofList text)))
  let trimmed := trimWhile isOuterBlank text
  let digits := dropBaseMark base (dropSign trimmed)
  let sign : Int := if trimmed.head? = some '-' then -1 else 1
  let run := digits.takeWhile fun c => (digitIn? base c).isSome
  if base == 10 && digitLimit < run.length then .error (.overflow (.read run.length))
  else if digits.isEmpty then refuse
  else
    match digits.foldlM (fun n c => (digitIn? base c).map (base * n + ·)) 0 with
    | some n => .ok (sign * n)
    | none => refuse

def sixties (parts : List Int) : Int := parts.foldl (fun n part => 60 * n + part) 0

def wholeOf (pieces : List Piece) : Except Fault Int := match ofPieces? pieces with
  | some text => wholeIn base text
  | none => .error (.integer base (quotedPieces pieces))

def dropPieceSign : List Piece -> List Piece
  | .char c :: rest => if c == '+' || c == '-' then rest else .char c :: rest
  | pieces => pieces

def intOf (text : List Piece) : Except Fault Int := do
  let plain := text.filter (· != .char '_')
  let digits := dropPieceSign plain
  let sign : Int := if plain.head? = some (.char '-') then -1 else 1
  match digits with
  | [] => throw .noDigits
  | [.char '0'] => return 0
  | .char '0' :: .char 'b' :: rest => return sign * (<- wholeOf 2 rest)
  | .char '0' :: .char 'x' :: rest => return sign * (<- wholeOf 16 rest)
  | .char '0' :: _ => return sign * (<- wholeOf 8 digits)
  | _ =>
    if digits.contains (.char ':') then
      return sign * sixties (<- (splitAt (.char ':') digits).mapM (wholeOf 10))
    else return sign * (<- wholeOf 10 digits)

def decimal? (negative : Bool) (text : Chars) : Option Binary64 := do
  let whole := text.takeWhile isDigit
  let (fraction, rest) := match text.dropWhile isDigit with
    | '.' :: rest => (rest.takeWhile isDigit, rest.dropWhile isDigit)
    | rest => ([], rest)
  let exponent <- match rest with
    | [] => some (0 : Int)
    | e :: rest =>
      let digits := dropSign rest
      if (e == 'e' || e == 'E') && !digits.isEmpty && digits.all isDigit then
        some (if rest.head? = some '-' then -(numeral digits : Int) else numeral digits)
      else none
  if whole.isEmpty && fraction.isEmpty then none
  else some (.ofDecimal negative (numeral (whole ++ fraction)) (exponent - fraction.length))

def realIn : Except Fault Binary64 :=
  let trimmed := trimWhile isOuterBlank text
  let negative := trimmed.head? = some '-'
  let body := dropSign trimmed
  let word := (String.ofList body).map Char.toLower
  if word ∈ ["inf", "infinity"] then .ok (.infinite negative)
  else if word = "nan" then .ok .undefined
  else match decimal? negative body with
    | some number => .ok number
    | none => .error (.real (quoted (String.ofList text)))

def sumPlaces (worth : Nat) (sum : Binary64) : List Binary64 -> Except Fault Binary64
  | [] => .ok sum
  | number :: rest =>
    match Binary64.ofNat? worth with
    | none => .error .placeValue
    | some factor => sumPlaces (60 * worth) (sum.add (number.mul factor)) rest

def realSixties (parts : List Binary64) : Except Fault Binary64 :=
  sumPlaces 1 (.zero false) parts.reverse

def realPart (pieces : List Piece) : Except Fault Binary64 := match ofPieces? pieces with
  | some text => realIn text
  | none => .error (.real (quotedPieces pieces))

/-- Pieces in small letters: `run` are the characters in front of them. -/
def lowerPieces (run : Chars) : List Piece -> List Piece
  | [] => pieces (lower run)
  | .char c :: rest => lowerPieces (run ++ [c]) rest
  | piece :: rest => pieces (lower run) ++ piece :: lowerPieces [] rest

def unsigned (text : List Piece) : List Piece :=
  let plain := text.filter (· != .char '_')
  dropPieceSign <| match ofPieces? plain with
    | some text => pieces (lower text)
    | none => lowerPieces [] plain

def namesUndefined (text : List Piece) : Bool := unsigned text = pieces ".nan".toList

def realOf (text : List Piece) : Except Fault Binary64 := do
  let plain := text.filter (· != .char '_')
  if plain.isEmpty then throw .noDigits
  let digits := unsigned text
  let signed (number : Binary64) : Binary64 :=
    if plain.head? = some (.char '-') then number.neg else number
  if digits = pieces ".inf".toList then return signed (.infinite false)
  else if namesUndefined text then return .undefined
  else if digits.contains (.char ':') then
    return signed (<- realSixties (<- (splitAt (.char ':') digits).mapM realPart))
  else return signed (<- realPart digits)

def base64Value? : Option Nat := if 'A' <= c && c <= 'Z' then some (c.toNat - 'A'.toNat)
  else if 'a' <= c && c <= 'z' then some (c.toNat - 'a'.toNat + 26)
  else if '0' <= c && c <= '9' then some (c.toNat - '0'.toNat + 52)
  else if c == '+' then some 62
  else if c == '/' then some 63
  else none

/-- The octets of a text, of which `place` digits of a group of four have been read.
`left` are the bits of the last one that are not used yet, and `fill` counts the
equal signs behind it: a group that is filled up with them is the last one. Other
characters do not count. -/
def octetsFrom (place left fill : Nat) : Chars -> Option (List UInt8)
  | [] => if place = 0 then some [] else none
  | '=' :: rest =>
    if place < 2 then octetsFrom place left fill rest
    else if 4 <= place + (fill + 1) then some []
    else octetsFrom place left (fill + 1) rest
  | c :: rest =>
    match base64Value? c with
    | none => octetsFrom place left fill rest
    | some digit =>
      if place = 0 then octetsFrom 1 digit 0 rest
      else if place = 1 then
        (octetsFrom 2 (digit % 16) 0 rest).map ((left * 4 + digit / 16).toUInt8 :: ·)
      else if place = 2 then
        (octetsFrom 3 (digit % 4) 0 rest).map ((left * 16 + digit / 4).toUInt8 :: ·)
      else (octetsFrom 0 0 0 rest).map ((left * 64 + digit).toUInt8 :: ·)

def binaryOf : Except Fault (List UInt8) :=
  if text.any fun c => 128 <= c.toNat then .error .malformed
  else match octetsFrom 0 0 0 text with
    | some octets => .ok octets
    | none => .error .malformed

def textValue (text : Chars) : Except Fault Scalar := match tag with
  | .bool => match truthOf? (String.ofList (lower text)) with
    | some truth => .ok (.bool truth)
    | none => .error .noTruth
  | .moment => match MomentDigits.read? (dropFinalFeed text) with
    | none => .error .noMoment
    | some digits => (digits.check.mapError .calendar).map .moment
  | .binary => (binaryOf text).map .bytes
  | _ => .error .malformed

def brokenValue : Except Fault Scalar := match tag with
  | .bool => .error .noTruth
  | .moment => .error .noMoment
  | _ => .error .malformed

def scalarValue (pieces : List Piece) : Except Fault Scalar := match tag with
  | .null => .ok .null
  | .int => (intOf pieces).map .int
  | .real => (realOf pieces).map .real
  | _ =>
    match tag, ofPieces? pieces with
    | .text, some text => .ok (.text (String.ofList text))
    | .text, none => .ok (.brokenText pieces)
    | _, some text => textValue tag text
    | _, none => brokenValue tag
end RouteDocs.Yaml
