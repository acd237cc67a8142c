import RouteDocs.Class.Hint
import RouteDocs.Text.Lines

/-! # Encodings -/

namespace RouteDocs.Class
open Text

inductive Encoding where
  | utf8
  | marked8
  | utf16 (isBig? : Option Bool)
  | utf32 (isBig? : Option Bool)
  | direct (limit : Nat)
  | escaped

inductive FaultHandling where
  | strict
  | ignore
  | replace
  | backslash
  | reference
  | escape
  | pass
  | unknown

namespace FaultHandling
def ofName (name : String) : FaultHandling := match name with
  | "strict" => strict
  | "ignore" => ignore
  | "replace" => replace
  | "backslashreplace" => backslash
  | "xmlcharrefreplace" => reference
  | "surrogateescape" => escape
  | "surrogatepass" => pass
  | _ => unknown
end FaultHandling

namespace Encoding
def commonName (name : String) : Chars :=
  let chars := name.toList.map fun c => if c.isAlphanum || c = '.' then c.toLower else '_'
  let parts := (splitAt '_' chars).filter fun part => !part.isEmpty
  joinWith ['_'] parts

def ofName? (name : String) : Option Encoding := match String.ofList (commonName name) with
  | "utf_8" | "utf8" | "u8" | "utf" | "cp65001" | "utf8_ucs2" | "utf8_ucs4" => some utf8
  | "utf_8_sig" => some marked8
  | "utf_16" | "utf16" | "u16" => some (utf16 none)
  | "utf_16_le" | "utf_16le" | "unicodelittleunmarked" => some (utf16 (some false))
  | "utf_16_be" | "utf_16be" | "unicodebigunmarked" => some (utf16 (some true))
  | "utf_32" | "utf32" | "u32" => some (utf32 none)
  | "utf_32_le" | "utf_32le" => some (utf32 (some false))
  | "utf_32_be" | "utf_32be" => some (utf32 (some true))
  | "ascii" | "us_ascii" | "646" | "us" | "ansi_x3.4_1968" | "iso646_us" => some (direct 128)
  | "latin_1" | "latin1" | "latin" | "l1" | "iso_8859_1" | "iso8859_1" | "iso8859" | "8859"
  | "cp819" => some (direct 256)
  | "unicode_escape" | "unicodeescape" => some escaped
  | _ => none

def numberBytes (isBig : Bool) (width n : Nat) : List Nat :=
  let bytes := (List.range width).map fun (place : Nat) => n / Nat.pow 256 place % 256
  if isBig then bytes.reverse else bytes

def bytesNumber (isBig : Bool) (bytes : List Nat) : Nat :=
  (if isBig then bytes else bytes.reverse).foldl (fun n byte => n * 256 + byte) 0

def code8 (code : Nat) : List Nat :=
  let inner (shift : Nat) := 0x80 + code / Nat.pow 64 shift % 64
  if code < 0x80 then [code]
  else if code < 0x800 then [0xC0 + code / 64, inner 0]
  else if code < 0x10000 then [0xE0 + code / 4096, inner 1, inner 0]
  else [0xF0 + code / 262144, inner 2, inner 1, inner 0]

def code16 (isBig : Bool) (code : Nat) : List Nat := if code < 0x10000 then numberBytes isBig 2 code
  else
    let rest := code - 0x10000
    numberBytes isBig 2 (0xD800 + rest / 1024) ++ numberBytes isBig 2 (0xDC00 + rest % 1024)

def plainBytes (text : Chars) : List Nat := text.map Char.toNat

def escapedCode (code : Nat) : List Nat :=
  let (letter, width) := if code < 0x100 then ('x', 2) else if code < 0x10000 then ('u', 4)
    else ('U', 8)
  plainBytes ('\\' :: letter :: hexDigits width code)

variable (encoding : Encoding)

def codeBytes? (code : Nat) : Option (List Nat) := match encoding with
  | utf8 | marked8 => if isSurrogate code then none else some (code8 code)
  | utf16 isBig? =>
    if isSurrogate code then none else some (code16 (isBig?.getD false) code)
  | utf32 isBig? =>
    if isSurrogate code then none else some (numberBytes (isBig?.getD false) 4 code)
  | direct limit => if code < limit then some [code] else none
  | escaped =>
    some (if code = 92 then [92, 92] else if code = 9 then plainBytes ['\\', 't']
      else if code = 10 then plainBytes ['\\', 'n']
      else if code = 13 then plainBytes ['\\', 'r']
      else if 32 <= code && code < 127 then [code]
      else escapedCode code)

def mark : Encoding -> List Nat
  | marked8 => code8 0xFEFF
  | utf16 none => numberBytes false 2 0xFEFF
  | utf32 none => numberBytes false 4 0xFEFF
  | _ => []

def commonBytes (text : Chars) : List Nat :=
  text.flatMap fun c => (encoding.codeBytes? c.toNat).getD []

variable (handling : FaultHandling) (bytes : List Nat)

def handled (code : Nat) : Tried (List Nat) :=
  match handling with
  | .strict => .error (.text .surrogate)
  | .ignore => .ok []
  | .replace => .ok (encoding.commonBytes ['?'])
  | .backslash => .ok (encoding.commonBytes ((escapedCode code).map Char.ofNat))
  | .reference => .ok (encoding.commonBytes ("&#" ++ toString code ++ ";").toList)
  | .escape =>
    if 0xDC80 <= code && code <= 0xDCFF then .ok [code - 0xDC00] else .error (.text .surrogate)
  | .pass =>
    if !isSurrogate code then .error (.text .surrogate)
    else match encoding with
      | utf8 | marked8 => .ok (code8 code)
      | utf16 isBig? => .ok (numberBytes (isBig?.getD false) 2 code)
      | utf32 isBig? => .ok (numberBytes (isBig?.getD false) 4 code)
      | _ => .error (.text .surrogate)
  | .unknown => .error .unknownEncoding

def encode (codes : List Nat) : Tried (List Nat) := do
  let found <- codes.mapM fun code =>
    match encoding.codeBytes? code with
    | some bytes => .ok bytes
    | none => encoding.handled handling code
  return encoding.mark ++ found.flatten

inductive Decoded where
  | code (value : Nat) (length : Nat)
  | wrong (length : Nat)

def secondRange (first : Nat) : Nat × Nat :=
  if first = 0xE0 then (0xA0, 0xBF) else if first = 0xED then (0x80, 0x9F)
  else if first = 0xF0 then (0x90, 0xBF) else if first = 0xF4 then (0x80, 0x8F)
  else (0x80, 0xBF)

def first8 : Decoded :=
  let inside (byte? : Option Nat) : Bool := byte?.any fun byte => 0x80 <= byte && byte <= 0xBF
  match bytes with
  | [] => .wrong 0
  | first :: rest =>
    let (low, high) := secondRange first
    let isSecond := rest.head?.any fun byte => low <= byte && byte <= high
    let part (place : Nat) : Nat := (rest[place]?).getD 0 % 64
    if first < 0x80 then .code first 1
    else if first < 0xC2 || 0xF4 < first then .wrong 1
    else if !isSecond then .wrong 1
    else if first < 0xE0 then .code (first % 32 * 64 + part 0) 2
    else if !inside rest[1]? then .wrong 2
    else if first < 0xF0 then .code (first % 16 * 4096 + part 0 * 64 + part 1) 3
    else if !inside rest[2]? then .wrong 3
    else .code (first % 8 * 262144 + part 0 * 4096 + part 1 * 64 + part 2) 4

def first16 (isBig : Bool) (bytes : List Nat) : Decoded :=
  let unit (start : Nat) : Nat := bytesNumber isBig ((bytes.drop start).take 2)
  let high := unit 0
  let low := unit 2
  if bytes.length < 2 then .wrong bytes.length
  else if high < 0xD800 || 0xE000 <= high then .code high 2
  else if 0xDC00 <= high then .wrong 2
  else if bytes.length < 4 then .wrong bytes.length
  else if 0xDC00 <= low && low < 0xE000 then
    .code (0x10000 + (high - 0xD800) * 1024 + (low - 0xDC00)) 4
  else .wrong 2

def first32 (isBig : Bool) (bytes : List Nat) : Decoded :=
  let code := bytesNumber isBig (bytes.take 4)
  if bytes.length < 4 then .wrong bytes.length
  else if isSurrogate code || 0x110000 <= code then .wrong 4
  else .code code 4

def firstOf : Decoded := match encoding with
  | utf8 | marked8 => first8 bytes
  | utf16 isBig? => first16 (isBig?.getD false) bytes
  | utf32 isBig? => first32 (isBig?.getD false) bytes
  | direct limit =>
    match bytes with
    | byte :: _ => if byte < limit then .code byte 1 else .wrong 1
    | [] => .wrong 0
  | escaped =>
    match bytes with
    | byte :: _ => .code byte 1
    | [] => .wrong 0

def handledBytes : Tried (List Nat) :=
  match handling with
  | .ignore => .ok []
  | .replace => .ok [0xFFFD]
  | .backslash => .ok (bytes.flatMap fun byte => escapedCode byte)
  | .escape => if bytes.all (128 <= ·) then .ok (bytes.map (0xDC00 + ·)) else .error .undecodable
  | .unknown => .error .unknownEncoding
  | .reference => .error .misfit
  | .strict | .pass => .error .undecodable

def decodeWithin (encoding : Encoding) (handling : FaultHandling) :
    Nat -> List Nat -> Tried (List Nat)
  | _, [] => .ok []
  | 0, _ => .ok []
  | fuel + 1, bytes =>
    match encoding.firstOf bytes with
    | .code value length => do
      return value :: (<- decodeWithin encoding handling fuel (bytes.drop length))
    | .wrong length => do
      let found <- handledBytes handling (bytes.take (max length 1))
      return found ++ (<- decodeWithin encoding handling fuel (bytes.drop (max length 1)))

def unmarked : Encoding × List Nat := match encoding with
  | marked8 => (encoding, if (code8 0xFEFF).isPrefixOf bytes then bytes.drop 3 else bytes)
  | utf16 none =>
    if (numberBytes true 2 0xFEFF).isPrefixOf bytes then (utf16 (some true), bytes.drop 2)
    else if (numberBytes false 2 0xFEFF).isPrefixOf bytes then (utf16 (some false), bytes.drop 2)
    else (encoding, bytes)
  | utf32 none =>
    if (numberBytes true 4 0xFEFF).isPrefixOf bytes then (utf32 (some true), bytes.drop 4)
    else if (numberBytes false 4 0xFEFF).isPrefixOf bytes then (utf32 (some false), bytes.drop 4)
    else (encoding, bytes)
  | _ => (encoding, bytes)

def decode : Tried (List Nat) :=
  let (encoding, rest) := encoding.unmarked bytes
  decodeWithin encoding handling rest.length rest
end Encoding
end RouteDocs.Class
