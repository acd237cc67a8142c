import RouteDocs.Json.Writer
import RouteDocs.Text.Lines

/-!
# Dates and times

The modules of `Yaml` read data from texts and write it. No result looks into them: what is proved
of declarations holds of any data. The messages of faults are left out.
-/

namespace RouteDocs.Yaml
open Text

structure Date where
  year : Nat
  month : Nat
  day : Nat
deriving DecidableEq

structure Clock where
  hour : Nat
  minute : Nat
  second : Nat
  microsecond : Nat
  offset? : Option Int
deriving DecidableEq

inductive Moment where
  | day (date : Date)
  | time (date : Date) (clock : Clock)
deriving DecidableEq

def daysBefore (year : Nat) : Nat :=
  365 * (year - 1) + (year - 1) / 4 - (year - 1) / 100 + (year - 1) / 400

def isLeap (year : Nat) : Bool := year % 4 == 0 && (year % 100 != 0 || year % 400 == 0)

def monthLength (year month : Nat) : Nat := if month = 2 then if isLeap year then 29 else 28
  else if month = 4 || month = 6 || month = 9 || month = 11 then 30
  else 31

def Date.number (date : Date) : Nat :=
  let monthDays := (List.range (date.month - 1)).map fun month => monthLength date.year (month + 1)
  monthDays.foldl (· + ·) (daysBefore date.year) + date.day

def Clock.minutes (clock : Clock) (date : Date) (offset : Int) : Int :=
  1440 * date.number + 60 * clock.hour + clock.minute - offset

def Moment.same : Moment -> Moment -> Bool
  | time date clock, time otherDate other =>
    match clock.offset?, other.offset? with
    | some offset, some distance =>
      clock.minutes date offset == other.minutes otherDate distance &&
        clock.second == other.second && clock.microsecond == other.microsecond
    | _, _ => time date clock == time otherDate other
  | first, second => first == second

def padded : (width : Nat) -> Nat -> String
  | 0, _ => ""
  | width + 1, n => (padded width (n / 10)).push (Nat.digitChar (n % 10))

def Date.text (date : Date) : String :=
  s!"{padded 4 date.year}-{padded 2 date.month}-{padded 2 date.day}"

def offsetText (offset : Int) : String := (if offset < 0 then "-" else "+") ++
    s!"{padded 2 (offset.natAbs / 60)}:{padded 2 (offset.natAbs % 60)}"

def Clock.text (clock : Clock) : String :=
  s!"{padded 2 clock.hour}:{padded 2 clock.minute}:{padded 2 clock.second}" ++
    (if clock.microsecond = 0 then "" else s!".{padded 6 clock.microsecond}") ++
    (match clock.offset? with
      | none => ""
      | some offset => offsetText offset)

def Moment.text (between : String) : Moment -> String
  | day date => date.text
  | time date clock => date.text ++ between ++ clock.text

def spanShown (minutes : Int) : String :=
  let days := minutes.fdiv 1440
  let seconds := minutes.fmod 1440 * 60
  let parts := (if days = 0 then [] else [s!"days={days}"]) ++
    (if seconds = 0 then [] else [s!"seconds={seconds}"])
  let shown := if parts.isEmpty then "0" else ", ".intercalate parts
  s!"datetime.timedelta({shown})"

def offsetShown (offset : Int) : String :=
  if offset = 0 then "datetime.timezone.utc" else s!"datetime.timezone({spanShown offset})"

def Moment.shown : Moment -> String
  | day date => s!"datetime.date({date.year}, {date.month}, {date.day})"
  | time date clock =>
    let seconds := if clock.microsecond ≠ 0 then s!", {clock.second}, {clock.microsecond}"
      else if clock.second ≠ 0 then s!", {clock.second}"
      else ""
    let zone := match clock.offset? with
      | none => ""
      | some offset => s!", tzinfo={offsetShown offset}"
    s!"datetime.datetime({date.year}, {date.month}, {date.day}, {clock.hour}, {clock.minute}" ++
      s!"{seconds}{zone})"

abbrev Digits := Chars

structure ClockDigits where
  hour : Digits
  minute : Digits
  second : Digits
  fraction : Digits
  offset? : Option (Bool × Digits × Digits)

structure MomentDigits where
  year : Digits
  month : Digits
  day : Digits
  clock? : Option ClockDigits

/-- At least `least` and at most `most` digits, and the rest. -/
def takeDigits? (least most : Nat) (text : Chars) : Option (Digits × Chars) :=
  let digits := (text.takeWhile Char.isDigit).take most
  if least <= digits.length then some (digits, text.drop digits.length) else none

def expect? (c : Char) : Chars -> Option Chars
  | [] => none
  | d :: rest => if c = d then some rest else none

def dropTimeMark? : Chars -> Option Chars
  | 'T' :: rest | 't' :: rest => some rest
  | ' ' :: rest | '\t' :: rest => some (rest.dropWhile fun c => c == ' ' || c == '\t')
  | _ => none

def readOffset? (text : Chars) : Option (Option (Bool × Digits × Digits)) :=
  if text.isEmpty then some none
  else match text.dropWhile fun c => c == ' ' || c == '\t' with
    | ['Z'] => some (some (false, ['0'], ['0']))
    | sign :: rest =>
      if sign = '+' || sign = '-' then do
        let (hours, rest) <- takeDigits? 1 2 rest
        match rest with
        | [] => return some (sign == '-', hours, ['0'])
        | _ =>
          let (minutes, rest) <- takeDigits? 2 2 (<- expect? ':' rest)
          if rest.isEmpty then return some (sign == '-', hours, minutes) else none
      else none
    | [] => none

def readFraction : Chars -> Digits × Chars
  | '.' :: rest => (rest.takeWhile Char.isDigit, rest.dropWhile Char.isDigit)
  | text => ([], text)

def readClock? (text : Chars) : Option ClockDigits := do
  let (hour, rest) <- takeDigits? 1 2 text
  let (minute, rest) <- takeDigits? 2 2 (<- expect? ':' rest)
  let (second, rest) <- takeDigits? 2 2 (<- expect? ':' rest)
  let (fraction, rest) := readFraction rest
  return ⟨hour, minute, second, fraction, <- readOffset? rest⟩

def MomentDigits.read? (text : Chars) : Option MomentDigits := do
  let (year, rest) <- takeDigits? 4 4 text
  let (month, rest) <- takeDigits? 1 2 (<- expect? '-' rest)
  let (day, rest) <- takeDigits? 1 2 (<- expect? '-' rest)
  match rest with
  | [] => return ⟨year, month, day, none⟩
  | _ => return ⟨year, month, day, some (<- readClock? (<- dropTimeMark? rest))⟩

def isMoment (text : Chars) : Bool := match MomentDigits.read? text with
  | none => false
  | some digits => digits.clock?.isSome || (digits.month.length == 2 && digits.day.length == 2)

inductive CalendarFault where
  | year (number : Nat)
  | month
  | day
  | hour
  | minute
  | second
  | offset (minutes : Int)
deriving DecidableEq

def CalendarFault.message : CalendarFault -> String
  | .year number => s!"year {number} is out of range"
  | .month => "month must be in 1..12"
  | .day => "day is out of range for month"
  | .hour => "hour must be in 0..23"
  | .minute => "minute must be in 0..59"
  | .second => "second must be in 0..59"
  | .offset minutes =>
    "offset must be a timedelta strictly between -timedelta(hours=24) and " ++
      s!"timedelta(hours=24), not {spanShown minutes}."

def numberOf (digits : Digits) : Nat := digits.foldl (fun n c => 10 * n + (c.toNat - '0'.toNat)) 0

def Date.check (year month day : Nat) : Except CalendarFault Date :=
  if year = 0 then .error (.year year)
  else if month = 0 || 12 < month then .error .month
  else if day = 0 || monthLength year month < day then .error .day
  else .ok ⟨year, month, day⟩

def checkOffset : Option (Bool × Digits × Digits) -> Except CalendarFault (Option Int)
  | none => .ok none
  | some (west, hours, minutes) =>
    let span : Int := 60 * numberOf hours + numberOf minutes
    let signed := if west then -span else span
    if span < 1440 then .ok (some signed) else .error (.offset signed)

def microseconds (fraction : Digits) : Nat := numberOf ((fraction ++ List.replicate 6 '0').take 6)

def MomentDigits.check (digits : MomentDigits) : Except CalendarFault Moment :=
  let date := Date.check (numberOf digits.year) (numberOf digits.month) (numberOf digits.day)
  match digits.clock? with
  | none => return .day (<- date)
  | some clock => do
    let offset? <- checkOffset clock.offset?
    let date <- date
    if 23 < numberOf clock.hour then throw .hour
    if 59 < numberOf clock.minute then throw .minute
    if 59 < numberOf clock.second then throw .second
    return .time date ⟨numberOf clock.hour, numberOf clock.minute, numberOf clock.second,
      microseconds clock.fraction, offset?⟩

inductive Scalar where
  | null
  | bool (value : Bool)
  | int (value : Int)
  | real (value : Number.Binary64)
  | text (value : String)
  | brokenText (pieces : List Piece)
  | moment (value : Moment)
  | bytes (octets : List UInt8)
deriving Inhabited

inductive Part where
  | scalar (value : Scalar)
  | container (number : Nat)
deriving Inhabited

inductive Shape where
  | list (items : List Part)
  | pairs (items : List (Part × Part))
  | map (entries : List (Part × Part))
  | set (items : List Part)
deriving Inhabited

abbrev Graph := Array Shape

inductive Value where
  | null
  | bool (value : Bool)
  | int (value : Int)
  | real (value : Number.Binary64)
  | text (value : String)
  | brokenText (pieces : List Piece)
  | moment (value : Moment)
  | bytes (octets : List UInt8)
  | list (items : List Value)
  | pair (key value : Value)
  | map (entries : List (Value × Value))
  | set (items : List Value)
  | node (graph : Graph) (number : Nat)
deriving Inhabited

namespace Value
def ofScalar : Scalar -> Value
  | .null => .null
  | .bool value => .bool value
  | .int value => .int value
  | .real value => .real value
  | .text value => .text value
  | .brokenText pieces => .brokenText pieces
  | .moment value => .moment value
  | .bytes octets => .bytes octets

def ofPart (graph : Graph) : Part -> Value
  | .scalar value => ofScalar value
  | .container number => .node graph number

def ofEntry (graph : Graph) : Part × Part -> Value × Value
  | (key, value) => (ofPart graph key, ofPart graph value)

def ofShape (graph : Graph) : Shape -> Value
  | .list items => .list (items.map (ofPart graph))
  | .pairs items => .list (items.map fun entry =>
      .pair (ofEntry graph entry).1 (ofEntry graph entry).2)
  | .map entries => .map (entries.map (ofEntry graph))
  | .set items => .set (items.map (ofPart graph))

def opened : Value -> Value
  | node graph number => ofShape graph (graph.getD number default)
  | value => value

def asNumber? : Value -> Option Int
  | bool true => some 1
  | bool false => some 0
  | int n => some n
  | real r => r.toInt?
  | _ => none

def sameKey (first second : Value) : Bool := match first.asNumber?, second.asNumber? with
  | some m, some n => m == n
  | none, none =>
    match first, second with
    | null, null => true
    | real r, real s => r == s && r != .undefined
    | text s, text t => s == t
    | brokenText s, brokenText t => s == t
    | moment m, moment n => m.same n
    | bytes b, bytes c => b == c
    | _, _ => false
  | _, _ => false

def find? (name : String) : List (Value × Value) -> Option Value
  | [] => none
  | (text key, value) :: rest => if key = name then some value else find? name rest
  | _ :: rest => find? name rest

def isTrue (value : Value) : Bool := match value.opened with
  | null => false
  | bool b => b
  | int n => n != 0
  | real r => !r.isZero
  | text s => !s.isEmpty
  | brokenText pieces => !pieces.isEmpty
  | moment _ => true
  | bytes octets => !octets.isEmpty
  | list items | set items => !items.isEmpty
  | map entries => !entries.isEmpty
  | pair .. | node .. => true

def realStyle : Number.RealStyle := { Json.realStyle with infinite := "inf", undefined := "nan" }

def octetShown (quote : Char) (octet : UInt8) : Chars :=
  let n := octet.toNat
  let c := Char.ofNat n
  if c = quote || c = '\\' then ['\\', c]
  else if c = '\n' then ['\\', 'n']
  else if c = '\r' then ['\\', 'r']
  else if c = '\t' then ['\\', 't']
  else if 0x20 <= n && n < 0x7F then [c]
  else '\\' :: 'x' :: hexDigits 2 n

def bytesShown (octets : List UInt8) : String :=
  let quote := quoteFor (octets.map fun octet => Char.ofNat octet.toNat)
  String.ofList ('b' :: quote :: (octets.flatMap (octetShown quote) ++ [quote]))

def scalarShown : Scalar -> Except DigitOverflow String
  | .null => return "None"
  | .bool true => return "True"
  | .bool false => return "False"
  | .int n => writeInteger n
  | .real r => return r.write realStyle
  | .text s => return quoted s
  | .brokenText pieces => return quotedPieces pieces
  | .moment m => return m.shown
  | .bytes octets => return bytesShown octets

def listShown (items : List String) : String := "[" ++ ", ".intercalate items ++ "]"

def mapShown (entries : List (String × String)) : String :=
  "\x7b" ++ ", ".intercalate (entries.map fun (key, value) => key ++ ": " ++ value) ++ "\x7d"

def setShown (items : List String) : String :=
  if items.isEmpty then "set()" else "\x7b" ++ ", ".intercalate items ++ "\x7d"

def pairShown (entry : String × String) : String := "(" ++ entry.1 ++ ", " ++ entry.2 ++ ")"

def ellipsis : Shape -> String
  | .list _ | .pairs _ => "[...]"
  | _ => "\x7b...\x7d"

/-- A part of a container as messages show it. `around` are the containers around it;
there are no more of them than there are containers, which bounds `fuel`. -/
def partShown (graph : Graph) :
    Nat -> (around : List Nat) -> Part -> Except DigitOverflow String
  | _, _, .scalar value => scalarShown value
  | 0, _, .container number => return ellipsis (graph.getD number default)
  | fuel + 1, around, .container number =>
    let shape := graph.getD number default
    if number ∈ around then return ellipsis shape
    else
      let inner := partShown graph fuel (number :: around)
      let entry : Part × Part -> Except DigitOverflow (String × String) :=
        fun (key, value) => return (<- inner key, <- inner value)
      match shape with
      | .list items => return listShown (<- items.mapM inner)
      | .pairs items => return listShown ((<- items.mapM entry).map pairShown)
      | .map entries => return mapShown (<- entries.mapM entry)
      | .set items => return setShown (<- items.mapM inner)

mutual
def shown : Value -> Except DigitOverflow String
  | null => scalarShown .null
  | bool b => scalarShown (.bool b)
  | int n => scalarShown (.int n)
  | real r => scalarShown (.real r)
  | text s => scalarShown (.text s)
  | brokenText pieces => scalarShown (.brokenText pieces)
  | moment m => scalarShown (.moment m)
  | bytes octets => scalarShown (.bytes octets)
  | list items => return listShown (<- shownItems items)
  | pair key value => return pairShown (<- key.shown, <- value.shown)
  | map entries => return mapShown (<- shownEntries entries)
  | set items => return setShown (<- shownItems items)
  | node graph number => partShown graph (graph.size + 1) [] (.container number)

def shownItems : List Value -> Except DigitOverflow (List String)
  | [] => return []
  | item :: rest => return (<- item.shown) :: (<- shownItems rest)

def shownEntries : List (Value × Value) -> Except DigitOverflow (List (String × String))
  | [] => return []
  | (key, value) :: rest => return (<- key.shown, <- value.shown) :: (<- shownEntries rest)
end

def words : Value -> Except DigitOverflow String
  | text s => return s
  | brokenText pieces => return escapedText pieces
  | moment m => return m.text " "
  | value => value.shown

mutual
def depth : Value -> Nat
  | list items | set items => depthOfItems items + 1
  | map entries => depthOfEntries entries + 1
  | pair _ value => value.depth + 1
  | node graph _ => graph.size + 1
  | _ => 1

def depthOfItems : List Value -> Nat
  | [] => 0
  | item :: rest => max item.depth (depthOfItems rest)

def depthOfEntries : List (Value × Value) -> Nat
  | [] => 0
  | (_, value) :: rest => max value.depth (depthOfEntries rest)
end

def ofPieces (pieces : List Piece) : Value := match ofPieces? pieces with
  | some chars => .text (String.ofList chars)
  | none => .brokenText pieces

mutual
def ofJson : Json -> Value
  | .null => .null
  | .bool b => .bool b
  | .int n => .int n
  | .real r => .real r
  | .string s => .text s
  | .array items => .list (ofItems items)
  | .object members => .map (ofMembers members)
  | .brokenString pieces => .brokenText pieces
  | .brokenObject members => .map (ofBrokenMembers members)

def ofItems : List Json -> List Value
  | [] => []
  | item :: rest => ofJson item :: ofItems rest

def ofMembers : List (String × Json) -> List (Value × Value)
  | [] => []
  | (name, value) :: rest => (.text name, ofJson value) :: ofMembers rest

def ofBrokenMembers : List (List Piece × Json) -> List (Value × Value)
  | [] => []
  | (name, value) :: rest => (ofPieces name, ofJson value) :: ofBrokenMembers rest
end

mutual
def toJson : Value -> Json
  | null | node .. => .null
  | bool b => .bool b
  | int n => .int n
  | real r => .real r
  | text s => .string s
  | brokenText pieces => .brokenString pieces
  | moment m => .string (m.text "T")
  | bytes octets => .string (bytesShown octets)
  | list items | set items => .array (toItems items)
  | pair key value => .array [key.toJson, value.toJson]
  | map entries => .object (toMembers entries)

def toItems : List Value -> List Json
  | [] => []
  | item :: rest => item.toJson :: toItems rest

def toMembers : List (Value × Value) -> List (String × Json)
  | [] => []
  | (text name, value) :: rest => (name, value.toJson) :: toMembers rest
  | _ :: rest => toMembers rest
end
end Value

inductive Fault where
  | malformed
  | codePoint (code : Nat)
  | integer (base : Nat) (shown : String)
  | overflow (cause : DigitOverflow)
  | real (shown : String)
  | placeValue
  | calendar (cause : CalendarFault)
  | noDigits
  | noTruth
  | noMoment
  | momentMap
deriving DecidableEq

def Fault.message : Fault -> String
  | malformed => "the text is malformed"
  | codePoint _ => "chr() arg not in range(0x110000)"
  | integer base shown =>
    String.ofList (s!"invalid literal for int() with base {base}: ".toList ++ shown.toList.take 200)
  | overflow cause => cause.message
  | real shown => s!"could not convert string to float: {shown}"
  | placeValue => "a place between colons is worth too much"
  | calendar cause => cause.message
  | noDigits => "a number has no digits"
  | noTruth => "the text is no truth value"
  | noMoment => "the text is no moment"
  | momentMap => "a mapping is no moment"

def breaksLine (c : Char) : Bool :=
  c == '\n' || c == '\r' || c.toNat == 0x85 || c.toNat == 0x2028 || c.toNat == 0x2029

def isSpace (c : Char) : Bool := c == ' ' || c == '\t'

def startsBlank : Chars -> Bool
  | [] => true
  | c :: _ => isSpace c || breaksLine c

def startsBreak : Chars -> Bool
  | [] => true
  | c :: _ => breaksLine c

def byteOrderMark : Char := Char.ofNat 0xFEFF

structure Cursor where
  rest : Chars
  index : Nat := 0
  line : Nat := 0
  column : Nat := 0

namespace Cursor
variable (cursor : Cursor)

def peek? : Option Char := cursor.rest.head?

def step : Cursor := match cursor.rest with
  | [] => cursor
  | c :: rest =>
    if breaksLine c && !(c == '\r' && rest.head? == some '\n') then
      ⟨rest, cursor.index + 1, cursor.line + 1, 0⟩
    else
      ⟨rest, cursor.index + 1, cursor.line,
        if c == byteOrderMark then cursor.column else cursor.column + 1⟩

def forward (cursor : Cursor) : (count : Nat) -> Cursor
  | 0 => cursor
  | count + 1 => cursor.step.forward count

def skip (passes : Char -> Bool) : Cursor := cursor.forward (cursor.rest.takeWhile passes).length
def skipLine : Cursor := cursor.skip fun c => !breaksLine c

def lineBreak? : Option (Char × Cursor) := match cursor.rest with
  | [] => none
  | '\r' :: '\n' :: _ => some ('\n', cursor.forward 2)
  | c :: _ =>
    if c.toNat == 0x2028 || c.toNat == 0x2029 then some (c, cursor.step)
    else if breaksLine c then some ('\n', cursor.step)
    else none

def skipBreak : Cursor := match cursor.lineBreak? with
  | some (_, behind) => behind
  | none => cursor

def skipIndent (column : Nat) : Cursor :=
  cursor.forward (min (column - cursor.column) (cursor.rest.takeWhile (· == ' ')).length)

def atDocumentMark : Bool :=
  (cursor.rest.take 3 == ['-', '-', '-'] || cursor.rest.take 3 == ['.', '.', '.']) &&
    startsBlank (cursor.rest.drop 3)

def skipRemark : Except Fault Cursor :=
  let behind := cursor.skip (· == ' ')
  let behind := if behind.peek? = some '#' then behind.skipLine else behind
  if startsBreak behind.rest then .ok behind.skipBreak else .error .malformed
end Cursor
end RouteDocs.Yaml
