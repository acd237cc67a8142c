import RouteDocs.Json.Writer

/-!
# Reading JSON text

The reader takes one value from the front of a text and returns it with what is left.
-/

namespace RouteDocs.Json
open Text

/-- Why a text is not read. Only the first says that it is not JSON. -/
inductive ReadFault where
  | malformed
  | overflow (overflow : DigitOverflow)
  /-- Containers stand deeper in one another than there is room for. -/
  | nesting
deriving DecidableEq

namespace Reader
def isSpace (c : Char) : Bool := c == ' ' || c == '\t' || c == '\n' || c == '\r'
def skipSpaces (text : Chars) : Chars := text.dropWhile isSpace

def unit16? : Chars -> Option (Nat × Chars)
  | a :: b :: c :: d :: rest => do
    let a <- hexValue? a
    let b <- hexValue? b
    let c <- hexValue? c
    let d <- hexValue? d
    return (((a * 16 + b) * 16 + c) * 16 + d, rest)
  | _ => none

def surrogatePair (high low : Nat) : Nat := 0x10000 + (high - 0xD800) * 0x400 + (low - 0xDC00)

def shortEscape? (c : Char) : Option Char := if c = '"' || c = '\\' || c = '/' then some c
  else if c = 'b' then some (Char.ofNat 8)
  else if c = 'f' then some (Char.ofNat 12)
  else if c = 'n' then some '\n'
  else if c = 'r' then some '\r'
  else if c = 't' then some '\t'
  else none

def escape? : Chars -> Option (Piece × Chars)
  | 'u' :: rest => do
    let (unit, rest) <- unit16? rest
    if 0xD800 <= unit && unit < 0xDC00 then
      match rest with
      | '\\' :: 'u' :: behind =>
        match unit16? behind with
        | some (low, behind) =>
          if 0xDC00 <= low && low < 0xE000 then
            return (.ofCode (surrogatePair unit low), behind)
          else return (.ofCode unit, rest)
        | none => none
      | _ => return (.ofCode unit, rest)
    else return (.ofCode unit, rest)
  | c :: rest => (shortEscape? c).map fun c => (.char c, rest)
  | [] => none

def stringBody? : Nat -> Chars -> Option (List Piece × Chars)
  | 0, _ => none
  | fuel + 1, text =>
    match text with
    | [] => none
    | '"' :: rest => some ([], rest)
    | '\\' :: rest => do
      let (piece, rest) <- escape? rest
      let (body, rest) <- stringBody? fuel rest
      return (piece :: body, rest)
    | c :: rest =>
      if c.toNat < 32 then none
      else (stringBody? fuel rest).map fun (body, rest) => (.char c :: body, rest)

variable (text : Chars)

def string? : Option (List Piece × Chars) := stringBody? (text.length + 1) text
def spanDigits : Chars × Chars := (text.takeWhile Char.isDigit, text.dropWhile Char.isDigit)

def wholeDigits? : Option (Chars × Chars) := match text with
  | '0' :: rest => some (['0'], rest)
  | _ =>
    match spanDigits text with
    | ([], _) => none
    | found => some found

def fractionDigits : Chars × Chars := match text with
  | '.' :: rest =>
    match spanDigits rest with
    | ([], _) => ([], text)
    | found => found
  | _ => ([], text)

def exponent? : Option Int × Chars := match text with
  | mark :: rest =>
    if mark = 'e' || mark = 'E' then
      let (negative, digits) := match rest with
        | '-' :: rest => (true, rest)
        | '+' :: rest => (false, rest)
        | _ => (false, rest)
      match spanDigits digits with
      | ([], _) => (none, text)
      | (digits, rest) =>
        let size : Int := (numeral digits : Nat)
        (some (if negative then -size else size), rest)
    else (none, text)
  | [] => (none, text)

def number (negative : Bool) (text : Chars) : Except ReadFault (Json × Chars) :=
  match wholeDigits? text with
  | none => .error .malformed
  | some (whole, rest) =>
    let (fraction, rest) := fractionDigits rest
    let (exponent, rest) := exponent? rest
    if fraction.isEmpty && exponent.isNone then
      match readNumeral whole with
      | .ok n => .ok (.int (if negative then -(n : Int) else n), rest)
      | .error overflow => .error (.overflow overflow)
    else
      let digits := numeral (whole ++ fraction)
      let power := exponent.getD 0 - fraction.length
      .ok (.real (Number.Binary64.ofDecimal negative digits power), rest)

def name? (name text : Chars) : Option Chars :=
  if name.isPrefixOf text then some (text.drop name.length) else none

def scalar : Except ReadFault (Json × Chars) :=
  let named : Option (Json × Chars) := (name? "null".toList text).map (Json.null, ·) <|>
    (name? "true".toList text).map (Json.bool true, ·) <|>
    (name? "false".toList text).map (Json.bool false, ·) <|>
    (name? "NaN".toList text).map (Json.real .undefined, ·) <|>
    (name? "Infinity".toList text).map (Json.real (.infinite false), ·) <|>
    (name? "-Infinity".toList text).map (Json.real (.infinite true), ·)
  match named with
  | some found => .ok found
  | none =>
    match text with
    | '-' :: rest => number true rest
    | _ => number false text

/-- The rest of a container behind its first item. Each item takes a comma at least, so the length
of a text is enough fuel. -/
def row {α : Type} (closing : Char) (item : Chars -> Except ReadFault (α × Chars)) :
    Nat -> Chars -> Except ReadFault (List α × Chars)
  | 0, _ | _ + 1, [] => .error .malformed
  | fuel + 1, c :: rest =>
    if c = closing then .ok ([], rest)
    else if c = ',' then do
      let (first, rest) <- item (skipSpaces rest)
      let (others, rest) <- row closing item fuel (skipSpaces rest)
      return (first :: others, rest)
    else .error .malformed

/-- The items of a container whose opening bracket is read. -/
def enclosed {α : Type} (closing : Char) (item : Chars -> Except ReadFault (α × Chars))
    (text : Chars) : Except ReadFault (List α × Chars) :=
  match skipSpaces text with
  | [] => .error .malformed
  | c :: rest =>
    if c = closing then .ok ([], rest)
    else do
      let (first, rest) <- item (c :: rest)
      let (others, rest) <- row closing item (rest.length + 1) (skipSpaces rest)
      return (first :: others, rest)

def entry (value : Chars -> Except ReadFault (Json × Chars)) :
    Chars -> Except ReadFault ((List Piece × Json) × Chars)
  | '"' :: rest =>
    match string? rest with
    | none => .error .malformed
    | some (name, rest) =>
      match skipSpaces rest with
      | ':' :: rest => do
        let (found, rest) <- value (skipSpaces rest)
        return ((name, found), rest)
      | _ => .error .malformed
  | _ => .error .malformed

/-- The value at the front of a text, with room for so many containers in one another. -/
def value (room : Nat) (text : Chars) : Except ReadFault (Json × Chars) :=
  match text, room with
  | '"' :: rest, _ =>
    match string? rest with
    | some (body, rest) => .ok (ofPieces body, rest)
    | none => .error .malformed
  | '[' :: _, 0 | '\x7b' :: _, 0 => .error .nesting
  | '[' :: rest, room + 1 => do
    let (items, rest) <- enclosed ']' (value room) rest
    return (.array items, rest)
  | '\x7b' :: rest, room + 1 => do
    let (members, rest) <- enclosed '\x7d' (entry (value room)) rest
    return (ofPieceMembers members, rest)
  | text, _ => scalar text
end Reader

/-- The value of a text in which no more than so many containers stand in one another. -/
def readWithin (room : Nat) (text : Chars) : Except ReadFault Json := do
  let (found, rest) <- Reader.value room (Reader.skipSpaces text)
  if (Reader.skipSpaces rest).isEmpty then return found else .error .malformed

/-- The value of a text, however deep it goes: each container takes a character. -/
def read (text : Chars) : Except ReadFault Json := readWithin text.length text
end RouteDocs.Json
