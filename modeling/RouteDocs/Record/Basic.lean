import RouteDocs.Yaml.Value

/-!
# Records from data

A record is read from loosely typed data field by field. All faults of a record
are collected, each with the place where it was found and its kind. Reading is
lenient where no information is lost: a whole number may be given as text or
with a point, a truth value as a word. No result rests on that, and the messages
of faults are left out.
-/

namespace RouteDocs.Record
open Text
open Yaml (Value)

inductive Step where
  | name (text : String)
  | index (position : Int)
deriving DecidableEq

inductive Kind where
  | missing
  | stringType
  | stringUnicode
  | intType
  | intParsing
  | intParsingSize
  | intFromFloat
  | finiteNumber
  | boolType
  | boolParsing
  | dictType
  | listType
  | tupleType
  | tooLong
  | modelType
  | modelAttributesType
  | literalError
  | unionTagNotFound
  | unionTagInvalid
deriving DecidableEq

def Kind.word : Kind -> String
  | missing => "missing"
  | stringType => "string_type"
  | stringUnicode => "string_unicode"
  | intType => "int_type"
  | intParsing => "int_parsing"
  | intParsingSize => "int_parsing_size"
  | intFromFloat => "int_from_float"
  | finiteNumber => "finite_number"
  | boolType => "bool_type"
  | boolParsing => "bool_parsing"
  | dictType => "dict_type"
  | listType => "list_type"
  | tupleType => "tuple_type"
  | tooLong => "too_long"
  | modelType => "model_type"
  | modelAttributesType => "model_attributes_type"
  | literalError => "literal_error"
  | unionTagNotFound => "union_tag_not_found"
  | unionTagInvalid => "union_tag_invalid"

/-- A kind of fault and its place. -/
structure Fault where
  place : List Step
  kind : Kind
deriving DecidableEq

/-- A value, or all its faults. -/
inductive Checked (α : Type) where
  | valid (value : α)
  | faulty (faults : List Fault)

namespace Checked
variable {α β : Type}

def fault (kind : Kind) : Checked α := .faulty [⟨[], kind⟩]

def map (f : α -> β) : Checked α -> Checked β
  | valid value => .valid (f value)
  | faulty faults => .faulty faults

def apply (f : Checked (α -> β)) (a : Unit -> Checked α) : Checked β := match f, a () with
  | valid f, valid value => .valid (f value)
  | valid _, faulty faults => .faulty faults
  | faulty faults, valid _ => .faulty faults
  | faulty faults, faulty others => .faulty (faults ++ others)

instance : Applicative Checked where
  pure := .valid
  map := map
  seq := apply

def below (step : Step) : Checked α -> Checked α
  | valid value => .valid value
  | faulty faults => .faulty (faults.map fun fault => { fault with place := step :: fault.place })

def toExcept : Checked α -> Except (List Fault) α
  | valid value => .ok value
  | faulty faults => .error faults
end Checked

abbrev Reading (α : Type) := Value -> Checked α

def decodeOctets? (octets : List UInt8) : Option String := String.fromUTF8? ⟨octets.toArray⟩

def text : Reading String
  | .text s => .valid s
  | .brokenText _ => .fault .stringUnicode
  | .bytes octets => match decodeOctets? octets with
    | some s => .valid s
    | none => .fault .stringUnicode
  | _ => .fault .stringType

def plainInteger (text : Chars) : Checked Int :=
  let (sign, digits) : Int × Chars := match text with
    | '-' :: rest => (-1, rest)
    | _ => (1, text)
  let run := digits.takeWhile Char.isDigit
  match run with
  | [] => .fault .intParsing
  | first :: others =>
    if first == '0' && !others.isEmpty then .fault .intParsing
    else if digitLimit < text.length - (digits.length - run.length) then
      .fault .intParsingSize
    else if run.length < digits.length then .fault .intParsing
    else .valid (sign * numeral run)

def dropZeros? (last : Char) : Chars -> Option Chars
  | [] => some [last]
  | c :: rest =>
    if c == '0' || c == '_' then dropZeros? c rest
    else if c.isDigit || c == '-' then some (c :: rest)
    else if c == '.' then some (last :: c :: rest)
    else none

def dropLeadingZeros? : Chars -> Option Chars
  | [] => none
  | c :: rest =>
    if c == '0' then dropZeros? c rest
    else if c.isDigit then some (c :: rest)
    else none

def dropZeroFraction (text : Chars) : Chars := match splitFirst '.' text with
  | some (whole, fraction) =>
    if !fraction.isEmpty && fraction.all (· == '0') then whole else text
  | none => text

def hasDoubleUnderscore : Chars -> Bool
  | '_' :: '_' :: _ => true
  | _ :: rest => hasDoubleUnderscore rest
  | [] => false

def dropUnderscores (text : Chars) : Chars :=
  if text.head? = some '_' || text.getLast? = some '_' || hasDoubleUnderscore text then text
  else text.filter (· != '_')

def plainForm? (text : Chars) : Option Chars := do
  let trimmed := trimWhile isOuterBlank text
  let (sign, digits) := match trimmed with
    | '+' :: rest => ([], rest)
    | '-' :: rest => (['-'], rest)
    | _ => ([], trimmed)
  return sign ++ dropUnderscores (dropZeroFraction (<- dropLeadingZeros? digits))

def integerOfText (text : Chars) : Checked Int := match plainInteger text with
  | .faulty [⟨[], .intParsing⟩] =>
    match plainForm? text with
    | some plain => plainInteger plain
    | none => .fault .intParsing
  | checked => checked

variable {α : Type} (n : Int) (read : Reading α)

def isWordSized : Bool := n.natAbs < Nat.pow 2 63

def integer : Reading Int
  | .int n => .valid n
  | .bool b => .valid (if b then 1 else 0)
  | .real r =>
    if !r.isFinite then .fault .finiteNumber
    else match r.toInt? with
      | some n => if isWordSized n then .valid n else .fault .intParsingSize
      | none => .fault .intFromFloat
  | .text s => integerOfText s.toList
  | .brokenText _ => .fault .stringUnicode
  | .bytes octets => match decodeOctets? octets with
    | some s => integerOfText s.toList
    | none => .fault .intParsing
  | _ => .fault .intType

def isKeyNumber : Bool := -Int.pow 2 63 <= n && n < Int.pow 2 63

def truthOfNumber : Checked Bool := if n = 0 then .valid false
  else if n = 1 then .valid true
  else .fault .boolParsing

def truthOfText (s : String) : Checked Bool :=
  let word := s.map Char.toLower
  if word ∈ ["0", "off", "f", "false", "n", "no"] then .valid false
  else if word ∈ ["1", "on", "t", "true", "y", "yes"] then .valid true
  else .fault .boolParsing

def truth : Reading Bool
  | .bool b => .valid b
  | .text s => truthOfText s
  | .brokenText _ => .fault .stringUnicode
  | .bytes octets => match decodeOctets? octets with
    | some s => truthOfText s
    | none => .fault .boolParsing
  | .int n => if isKeyNumber n then truthOfNumber n else .fault .boolType
  | .real r => match r.toInt?.filter isWordSized with
    | some n => truthOfNumber n
    | none => .fault .boolType
  | _ => .fault .boolType

def literal (word : String) : Reading Unit
  | .text s => if s = word then .valid () else .fault .literalError
  | _ => .fault .literalError

def oneOf (ofWord? : String -> Option α) : Reading α
  | .text s => match ofWord? s with
    | some value => .valid value
    | none => .fault .literalError
  | _ => .fault .literalError

def nullable : Reading (Option α)
  | .null => .valid none
  | value => (read value).map some

def itemsFrom {α : Type} (read : Reading α) (position : Nat) : List Value -> Checked (List α)
  | [] => .valid []
  | item :: rest =>
    (Checked.map List.cons ((read item).below (.index position))).apply
      fun _ => itemsFrom read (position + 1) rest

def listOf (value : Value) : Checked (List α) :=
  match value.opened with
  | .list items | .set items => itemsFrom read 0 items
  | _ => .fault .listType

def textPair : Reading (String × String)
  | .list items =>
    match items with
    | [] => .faulty [⟨[.index 0], .missing⟩, ⟨[.index 1], .missing⟩]
    | [first] =>
      (Checked.map Prod.mk ((text first).below (.index 0))).apply
        fun _ => .faulty [⟨[.index 1], .missing⟩]
    | first :: second :: rest =>
      if rest.isEmpty then
        (Checked.map Prod.mk ((text first).below (.index 0))).apply
          fun _ => (text second).below (.index 1)
      else .fault .tooLong
  | _ => .fault .tupleType

def stepOf : Value -> Step
  | .text s => .name s
  | .brokenText pieces => .name (escapedText pieces)
  | .int n =>
    if isKeyNumber n then .index n
    else match writeInteger n with
      | .ok digits => .name digits
      | .error _ => .name "<unprintable int object>"
  | .bool b => .index (if b then 1 else 0)
  | value => .name (value.shown.toOption.getD "")

def entriesOf {κ υ : Type} (readKey : Reading κ) (readValue : Reading υ) :
    List (Value × Value) -> Checked (List (κ × υ))
  | [] => .valid []
  | (key, value) :: rest =>
    let step := stepOf key
    let entry := (Checked.map Prod.mk (((readKey key).below (.name "[key]")).below step)).apply
      fun _ => (readValue value).below step
    (Checked.map List.cons entry).apply fun _ => entriesOf readKey readValue rest

def mapOf {κ υ : Type} [DecidableEq κ] (readKey : Reading κ) (readValue : Reading υ)
    (value : Value) : Checked (OrderedMap κ υ) :=
  match value.opened with
  | .map entries => (entriesOf readKey readValue entries).map OrderedMap.ofList
  | _ => .fault .dictType

abbrev Fields := List (Value × Value)

def required (fields : Fields) (name : String) (read : Reading α) : Checked α :=
  match Value.find? name fields with
  | some value => (read value).below (.name name)
  | none => .faulty [⟨[.name name], .missing⟩]

def defaulted (fields : Fields) (name : String) (read : Reading α) (default : α) : Checked α :=
  match Value.find? name fields with
  | some value => (read value).below (.name name)
  | none => .valid default

def record (read : Fields -> Checked α) (value : Value) : Checked α :=
  match value.opened with
  | .map entries => read entries
  | _ => .fault .modelType

def kindField : String := "kind"

def tagged (readKind : String -> Option (Fields -> Checked α)) : Reading α
  | .map entries =>
    match Value.find? kindField entries with
    | none => .fault .unionTagNotFound
    | some (.text kind) =>
      match readKind kind with
      | some read => (read entries).below (.name kind)
      | none => .fault .unionTagInvalid
    | some _ => .fault .unionTagInvalid
  | _ => .fault .modelAttributesType
end RouteDocs.Record
