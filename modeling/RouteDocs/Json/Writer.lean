import RouteDocs.Number.Binary64
import RouteDocs.OrderedMap
import RouteDocs.Text.Quoted

/-!
# JSON values

Documents and example values are JSON values whose members keep their order. Whole numbers and
numbers of double precision are kept apart, because they are written differently.
-/

namespace RouteDocs
open Text

inductive Json where
  | null
  | bool (value : Bool)
  | int (value : Int)
  | real (value : Number.Binary64)
  | string (value : String)
  | array (items : List Json)
  | object (members : List (String × Json))
  | brokenString (pieces : List Piece)
  | brokenObject (members : List (List Piece × Json))
deriving Inhabited

namespace Json
def ofMembers (members : List (String × Json)) : Json := .object (OrderedMap.ofList members).entries

def ofPieces (pieces : List Piece) : Json := match ofPieces? pieces with
  | some text => .string (String.ofList text)
  | none => .brokenString pieces

variable (members : List (List Piece × Json))

def soundMembers? : Option (List (String × Json)) :=
  members.mapM fun (name, value) =>
    (ofPieces? name).map fun text => (String.ofList text, value)

def ofPieceMembers : Json :=
  match soundMembers? members with
  | some members => ofMembers members
  | none => .brokenObject (OrderedMap.ofList members).entries

mutual
def isSound : Json -> Bool
  | .null | .bool _ | .int _ | .real _ | .string _ => true
  | .array items => areSound items
  | .object members => membersSound members
  | .brokenString _ | .brokenObject _ => false

def areSound : List Json -> Bool
  | [] => true
  | item :: rest => item.isSound && areSound rest

def membersSound : List (String × Json) -> Bool
  | [] => true
  | (_, value) :: rest => value.isSound && membersSound rest
end

mutual

/-- How many containers stand in one another. -/
def depth : Json -> Nat
  | .array items => itemsDepth items + 1
  | .object members => membersDepth members + 1
  | .brokenObject members => brokenMembersDepth members + 1
  | _ => 0

def itemsDepth : List Json -> Nat
  | [] => 0
  | item :: rest => max item.depth (itemsDepth rest)

def membersDepth : List (String × Json) -> Nat
  | [] => 0
  | (_, value) :: rest => max value.depth (membersDepth rest)

def brokenMembersDepth : List (List Piece × Json) -> Nat
  | [] => 0
  | (_, value) :: rest => max value.depth (brokenMembersDepth rest)
end

mutual

/-- All whole numbers in a value, in the order in which they are written. -/
def wholeNumbers : Json -> List Int
  | .int n => [n]
  | .array items => itemNumbers items
  | .object members => memberNumbers members
  | .brokenObject members => brokenMemberNumbers members
  | _ => []

def itemNumbers : List Json -> List Int
  | [] => []
  | item :: rest => item.wholeNumbers ++ itemNumbers rest

def memberNumbers : List (String × Json) -> List Int
  | [] => []
  | (_, value) :: rest => value.wholeNumbers ++ memberNumbers rest

def brokenMemberNumbers : List (List Piece × Json) -> List Int
  | [] => []
  | (_, value) :: rest => value.wholeNumbers ++ brokenMemberNumbers rest
end

def texts (items : List String) : Json := .array (items.map .string)

def member? (key : String) : Json -> Option Json
  | .object members => OrderedMap.find? key members
  | _ => none
end Json
end RouteDocs

/-!
## JSON text

A value is written either on one line without any blank, or with one member or item to a line and an
indentation of two spaces for each level. Empty containers stay on one line.
-/

namespace RouteDocs.Json
open Text

structure Style where
  lines : Bool
  real : Number.Binary64 -> String

def realStyle : Number.RealStyle where
  leastPositional := -4
  greatestPositional := 15
  plusSign := true
  exponentWidth := 2
  infinite := "Infinity"
  undefined := "NaN"

def compact : Style where
  lines := false
  real := Number.Binary64.write realStyle

def pretty : Style where
  lines := true
  real := Number.Binary64.write realStyle

def stringChar (c : Char) : Chars := if c = '"' then ['\\', '"']
  else if c = '\\' then ['\\', '\\']
  else if c = '\n' then ['\\', 'n']
  else if c = '\r' then ['\\', 'r']
  else if c = '\t' then ['\\', 't']
  else if c.toNat = 8 then ['\\', 'b']
  else if c.toNat = 12 then ['\\', 'f']
  else if c.toNat < 32 then '\\' :: 'u' :: hexDigits 4 c.toNat
  else [c]

def stringChars (text : String) : Chars := '"' :: (text.toList.flatMap stringChar ++ ['"'])

def stringPiece : Piece -> Chars
  | .char c => stringChar c
  | .surrogate unit => (Piece.surrogate unit).escaped

def pieceChars (pieces : List Piece) : Chars :=
  '"' :: (pieces.flatMap stringPiece ++ ['"'])

def intChars (n : Int) : Chars := match n with
  | .ofNat n => Nat.toDigits 10 n
  | .negSucc n => '-' :: Nat.toDigits 10 (n + 1)

variable (style : Style) (depth : Nat)

def Style.lineBreak : Chars :=
  if style.lines then '\n' :: List.replicate (2 * depth) ' ' else []

def Style.colon : Chars := if style.lines then [':', ' '] else [':']

def Style.others (items : List Chars) : Chars :=
  items.flatMap fun item => ',' :: (style.lineBreak depth ++ item)

def Style.enclosed (opening closing : Char) : List Chars -> Chars
  | [] => [opening, closing]
  | first :: rest =>
    opening :: (style.lineBreak (depth + 1) ++ first ++ style.others (depth + 1) rest ++
      style.lineBreak depth ++ [closing])

mutual
def chars (style : Style) (depth : Nat) : Json -> Chars
  | .null => ['n', 'u', 'l', 'l']
  | .bool true => ['t', 'r', 'u', 'e']
  | .bool false => ['f', 'a', 'l', 's', 'e']
  | .int n => intChars n
  | .real r => (style.real r).toList
  | .string s => stringChars s
  | .array items => style.enclosed depth '[' ']' (itemChars style (depth + 1) items)
  | .object members => style.enclosed depth '\x7b' '\x7d' (memberChars style (depth + 1) members)
  | .brokenString pieces => pieceChars pieces
  | .brokenObject members =>
    style.enclosed depth '\x7b' '\x7d' (brokenMemberChars style (depth + 1) members)

def itemChars (style : Style) (depth : Nat) : List Json -> List Chars
  | [] => []
  | item :: rest => chars style depth item :: itemChars style depth rest

def memberChars (style : Style) (depth : Nat) : List (String × Json) -> List Chars
  | [] => []
  | (name, value) :: rest =>
    (stringChars name ++ style.colon ++ chars style depth value) :: memberChars style depth rest

def brokenMemberChars (style : Style) (depth : Nat) :
    List (List Piece × Json) -> List Chars
  | [] => []
  | (name, value) :: rest =>
    (pieceChars name ++ style.colon ++ chars style depth value) ::
      brokenMemberChars style depth rest
end

def write (value : Json) : String := String.ofList (chars style 0 value)

/-- Why a value has no text: a whole number has too many digits, or containers stand too deep. -/
inductive WriteFault where
  | overflow (cause : DigitOverflow)
  | nesting
deriving DecidableEq

/-- How many calls may be open at once. Readers and writers take one for each container around the
value that they are at. -/
def callLimit : Nat := 1000

/-- Whether a whole number has no more digits than are written or read. -/
def isShort (n : Int) : Bool := n.natAbs < Nat.pow 10 digitLimit

def writeWithin (room : Nat) (value : Json) : Except WriteFault String :=
  if room < value.depth then .error .nesting
  else if value.wholeNumbers.all isShort then .ok (write style value)
  else .error (.overflow .written)
end RouteDocs.Json
