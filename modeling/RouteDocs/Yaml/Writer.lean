import RouteDocs.Yaml.Meaning

/-! # YAML text -/

namespace RouteDocs.Yaml
open Text

def lineWidth : Nat := 80
def nameLimit : Nat := 123

def isBreak (c : Char) : Bool :=
  c == '\n' || c.toNat == 0x85 || c.toNat == 0x2028 || c.toNat == 0x2029

def endsToken : Chars -> Bool
  | [] => true
  | c :: _ => c == ' ' || c == '\t' || c == '\r' || isBreak c

structure Pen where
  written : Chars := []
  column : Nat := 0
  spaced : Bool := true
  fresh : Bool := true

namespace Pen
variable (pen : Pen)

def put (text : Chars) : Pen :=
  { pen with written := text.reverse ++ pen.written, column := pen.column + text.length }

def breakLine (c : Char := '\n') : Pen := ⟨c :: pen.written, 0, true, true⟩

def indent (depth : Nat) : Pen :=
  let pen :=
    if !pen.fresh || depth < pen.column || (pen.column == depth && !pen.spaced) then pen.breakLine
    else pen
  if pen.column < depth then
    { pen.put (List.replicate (depth - pen.column) ' ') with spaced := true }
  else pen

def indicator (text : Chars) (apart : Bool) (keepsFresh : Bool := false) : Pen :=
  let pen := if pen.spaced || !apart then pen.put text else pen.put (' ' :: text)
  { pen with spaced := false, fresh := pen.fresh && keepsFresh }

def settle : Pen := { pen with spaced := false, fresh := false }
end Pen

variable (pen : Pen) (depth : Nat) (folds : Bool) (c : Char)

def isUnescaped : Bool :=
  let n := c.toNat
  c == '\n' || (0x20 <= n && n <= 0x7E) || n == 0x85 ||
    (0xA0 <= n && n <= 0xFFFD && n != 0xFEFF) || (0x10000 <= n && n < 0x10FFFF)

def hasPair (first second : Char -> Bool) : Chars -> Bool
  | a :: b :: rest => (first a && second b) || hasPair first second (b :: rest)
  | _ => false

def hasInnerIndicator (previous : Char) : Chars -> Bool
  | [] => false
  | c :: rest =>
    (c == ':' && endsToken rest) || (c == '#' && endsToken [previous]) || hasInnerIndicator c rest

def hasLeadingIndicator : Chars -> Bool
  | [] => false
  | c :: rest =>
    "#,[]\x7b\x7d&*!|>'\"%@\x60".toList.contains c ||
      ((c == '?' || c == ':' || c == '-') && endsToken rest)

def startsDocument (text : Chars) : Bool :=
  text.take 3 == ['-', '-', '-'] || text.take 3 == ['.', '.', '.']

def hasOuterSpace (text : Chars) : Bool :=
  let outer (c : Char) := c == ' ' || isBreak c
  text.head?.any outer || text.getLast?.any outer

def fitsSingleQuotes (text : Chars) : Bool :=
  text.all isUnescaped && !hasPair (· == ' ') isBreak text && !hasPair isBreak (· == ' ') text

def fitsPlain (text : Chars) : Bool :=
  fitsSingleQuotes text && !text.any isBreak && !hasOuterSpace text && !startsDocument text &&
    !hasLeadingIndicator text && !hasInnerIndicator 'a' text

inductive Quoting where
  | plain
  | single
  | double

def quotingOf (text : Chars) : Quoting :=
  if Tag.ofPlain text = .text && fitsPlain text then .plain
  else if fitsSingleQuotes text then .single
  else .double

def runs : Chars -> List Chars
  | [] => []
  | c :: rest =>
    match runs rest with
    | [] => [[c]]
    | (d :: run) :: others =>
      if (c == ' ') == (d == ' ') && isBreak c == isBreak d then (c :: d :: run) :: others
      else [c] :: (d :: run) :: others
    | [] :: others => [c] :: others

def Pen.plainRuns (depth : Nat) (folds : Bool) (pen : Pen) : List Chars -> Pen
  | [] => pen
  | run :: rest =>
    if run = [' '] && folds && lineWidth < pen.column then
      ((pen.indent depth).settle).plainRuns depth folds rest
    else (pen.put run).plainRuns depth folds rest

def Pen.plain (text : Chars) : Pen :=
  let pen := if pen.spaced then pen else pen.put [' ']
  pen.settle.plainRuns depth folds (runs text)

def doubleQuotes (text : Chars) : Chars :=
  text.flatMap fun c => if c == '\'' then ['\'', '\''] else [c]

def Pen.breaks (run : Chars) : Pen :=
  let pen := if run.head? = some '\n' then pen.breakLine else pen
  run.foldl (fun pen c => pen.breakLine c) pen

/-- Write the pieces of a text in single quotes; `first` says that nothing of the
text has been written. -/
def Pen.singleRuns (depth : Nat) (folds first : Bool) (pen : Pen) : List Chars -> Pen
  | [] => pen
  | run :: rest =>
    if run.head?.any isBreak then
      ((pen.breaks run).indent depth).singleRuns depth folds false rest
    else if run = [' '] && folds && lineWidth < pen.column && !first && !rest.isEmpty then
      (pen.indent depth).singleRuns depth folds false rest
    else (pen.put (doubleQuotes run)).singleRuns depth folds false rest

def Pen.single (text : Chars) : Pen :=
  ((pen.indicator ['\''] true).singleRuns depth folds true (runs text)).indicator ['\''] false

def shortEscapes : List (Nat × Char) := [
  (0, '0'), (7, 'a'), (8, 'b'), (9, 't'), (10, 'n'), (11, 'v'), (12, 'f'), (13, 'r'), (27, 'e'),
  (34, '"'), (92, '\\'), (0x85, 'N'), (0xA0, '_'), (0x2028, 'L'), (0x2029, 'P')]

def escapeOf (n : Nat) : Chars :=
  let digits (width : Nat) := (hexDigits width n).map Char.toUpper
  match shortEscapes.lookup n with
  | some letter => ['\\', letter]
  | none =>
    if n <= 0xFF then '\\' :: 'x' :: digits 2
    else if n <= 0xFFFF then '\\' :: 'u' :: digits 4
    else '\\' :: 'U' :: digits 8

def isEscaped : Bool :=
  let n := c.toNat
  c == '"' || c == '\\' || n == 0x2028 || n == 0x2029 || n == 0xFEFF ||
    !((0x20 <= n && n <= 0x7E) || (0xA0 <= n && n <= 0xFFFD))

def pieceEscape? : Piece -> Option Chars
  | .char c => if isEscaped c then some (escapeOf c.toNat) else none
  | .surrogate unit => some (escapeOf unit)

/-- Write pieces in double quotes, without the quotes. `held` are characters that
have been passed but not written, last one first. A fold takes a backslash at the end
of the line, and one at the start of the next if a blank follows. -/
def Pen.doublePieces (depth : Nat) (folds first : Bool) (held : Chars) (pen : Pen) :
    List Piece -> Pen
  | [] => pen.put held.reverse
  | piece :: rest =>
    let escape? := pieceEscape? piece
    let pen := match escape? with
      | some escape => (pen.put held.reverse).put escape
      | none => pen
    let held := if escape?.isSome then [] else held
    let current := if escape?.isSome then [] else piece.escaped
    let width := if escape?.isSome then pen.column - 1 else pen.column + held.length
    if folds && !first && !rest.isEmpty && (piece == .char ' ' || held.isEmpty) &&
        lineWidth < width then
      let pen := ((pen.put (held.reverse ++ ['\\'])).indent depth).settle
      let next := if escape?.isSome then rest.head? else some piece
      let pen := if next = some (.char ' ') then pen.put ['\\'] else pen
      pen.doublePieces depth folds false current rest
    else pen.doublePieces depth folds false (current ++ held) rest

def Pen.double (pieces : List Piece) : Pen :=
  ((pen.indicator ['"'] true).doublePieces depth folds true [] pieces).indicator ['"'] false

def Pen.text (pen : Pen) (depth : Nat) (folds : Bool) (text : Chars) : Pen :=
  match quotingOf text with
  | .plain => pen.plain depth folds text
  | .single => pen.single depth folds text
  | .double => pen.double depth folds (pieces text)

def realStyle : Number.RealStyle := { Json.realStyle with infinite := ".inf", undefined := ".nan" }

def pointed : Chars -> Chars
  | [] => []
  | 'e' :: rest => '.' :: '0' :: 'e' :: rest
  | c :: rest => c :: pointed rest

def realChars (number : Number.Binary64) : Chars :=
  let text := (number.write realStyle).toList
  if text.contains '.' || !text.contains 'e' then text else pointed text

def isSimpleName (name : List Piece) : Bool :=
  name.length < nameLimit && !name.isEmpty && !name.any (Piece.is isBreak)

def Pen.name (isSimple : Bool) (write : (folds : Bool) -> Pen -> Pen) : Pen :=
  if isSimple then (write false pen).indicator [':'] false
  else ((write true (pen.indicator ['?'] true true)).indent depth).indicator [':'] true true

mutual

/-- Write a value inside a container of a given indentation. `member` says that
the value is a member's. -/
def Pen.value (depth : Nat) (member : Bool) (pen : Pen) : Json -> Pen
  | .null => pen.plain (depth + 2) true ['n', 'u', 'l', 'l']
  | .bool true => pen.plain (depth + 2) true ['t', 'r', 'u', 'e']
  | .bool false => pen.plain (depth + 2) true ['f', 'a', 'l', 's', 'e']
  | .int n => pen.plain (depth + 2) true (Json.intChars n)
  | .real r => pen.plain (depth + 2) true (realChars r)
  | .string s => pen.text (depth + 2) true s.toList
  | .array [] => pen.indicator ['[', ']'] true
  | .array (item :: rest) =>
    Pen.items (if member && !pen.fresh then depth else depth + 2) pen (item :: rest)
  | .object [] => pen.indicator ['\x7b', '\x7d'] true
  | .object (entry :: rest) => Pen.members (depth + 2) pen (entry :: rest)
  | .brokenString pieces => pen.double (depth + 2) true pieces
  | .brokenObject [] => pen.indicator ['\x7b', '\x7d'] true
  | .brokenObject (entry :: rest) => Pen.brokenMembers (depth + 2) pen (entry :: rest)

def Pen.items (depth : Nat) (pen : Pen) : List Json -> Pen
  | [] => pen
  | item :: rest =>
    Pen.items depth (Pen.value depth false ((pen.indent depth).indicator ['-'] true true) item) rest

def Pen.members (depth : Nat) (pen : Pen) : List (String × Json) -> Pen
  | [] => pen
  | (name, value) :: rest =>
    let pen := (pen.indent depth).name depth (isSimpleName (pieces name.toList))
      fun folds pen => pen.text (depth + 2) folds name.toList
    Pen.members depth (Pen.value depth true pen value) rest

def Pen.brokenMembers (depth : Nat) (pen : Pen) : List (List Piece × Json) -> Pen
  | [] => pen
  | (name, value) :: rest =>
    let pen := (pen.indent depth).name depth (isSimpleName name) fun folds pen =>
      match ofPieces? name with
      | some text => pen.text (depth + 2) folds text
      | none => pen.double (depth + 2) folds name
    Pen.brokenMembers depth (Pen.value depth true pen value) rest
end

def write (value : Json) : String :=
  let pen := match value with
    | .array (item :: rest) => Pen.items 0 {} (item :: rest)
    | .object (entry :: rest) => Pen.members 0 {} (entry :: rest)
    | .brokenObject (entry :: rest) => Pen.brokenMembers 0 {} (entry :: rest)
    | scalar => Pen.value 0 false {} scalar
  String.ofList ((pen.indent 0).written.reverse)
end RouteDocs.Yaml
