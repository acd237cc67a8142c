import RouteDocs.Text.Lines

/-! # Searching, cutting and filling -/

namespace RouteDocs.Text
variable {α : Type}

def findFrom [BEq α] (inner : List α) : (place : Nat) -> List α -> Option Nat
  | place, [] => if inner.isEmpty then some place else none
  | place, c :: rest =>
    if inner.isPrefixOf (c :: rest) then some place else findFrom inner (place + 1) rest

def findFirst [BEq α] (inner text : List α) : Option Nat := findFrom inner 0 text

def findLast [BEq α] (inner text : List α) : Option Nat :=
  (findFirst inner.reverse text.reverse).map fun place => text.length - place - inner.length

/-- How often a text stands inside another one. Behind an occurrence `skip` characters are
passed over. -/
def countFrom [BEq α] (inner : List α) : (skip : Nat) -> List α -> Nat
  | _, [] => 0
  | skip + 1, _ :: rest => countFrom inner skip rest
  | 0, c :: rest =>
    if inner.isPrefixOf (c :: rest) then countFrom inner (inner.length - 1) rest + 1
    else countFrom inner 0 rest

def countOf [BEq α] (inner text : List α) : Nat :=
  if inner.isEmpty then text.length + 1 else countFrom inner 0 text

/-- The parts of a text between the occurrences of a separator, of which the first `limit`
count. Behind an occurrence `skip` characters are passed over. -/
def splitFrom [BEq α] (separator : List α) : (limit skip : Nat) -> List α -> List (List α)
  | _, _, [] => [[]]
  | limit, skip + 1, _ :: rest => splitFrom separator limit skip rest
  | 0, 0, rest => [rest]
  | limit + 1, 0, c :: rest =>
    if separator.isPrefixOf (c :: rest) then
      [] :: splitFrom separator limit (separator.length - 1) rest
    else consFirst c (splitFrom separator (limit + 1) 0 rest)

def splitBy [BEq α] (separator : List α) (limit : Nat) (text : List α) : List (List α) :=
  splitFrom separator limit 0 text

def turned (parts : List (List α)) : List (List α) := (parts.map List.reverse).reverse

def splitByLast [BEq α] (separator : List α) (limit : Nat) (text : List α) : List (List α) :=
  turned (splitBy separator.reverse limit text.reverse)

/-- The words of a text between blanks, as many as `limit`, and then the rest of it. -/
def splitWordsWithin (isBlank : α -> Bool) : (fuel limit : Nat) -> List α -> List (List α)
  | 0, _, _ => []
  | fuel + 1, limit, text =>
    match text.dropWhile isBlank, limit with
    | [], _ => []
    | rest, 0 => [rest]
    | rest, limit + 1 =>
      rest.takeWhile (fun c => !isBlank c) ::
        splitWordsWithin isBlank fuel limit (rest.dropWhile fun c => !isBlank c)

def splitWordsBy (isBlank : α -> Bool) (limit : Nat) (text : List α) : List (List α) :=
  splitWordsWithin isBlank (text.length + 1) limit text

def splitLastWordsBy (isBlank : α -> Bool) (limit : Nat) (text : List α) : List (List α) :=
  turned (splitWordsBy isBlank limit text.reverse)

def interleaved (new : List α) : (limit : Nat) -> List α -> List α
  | 0, rest => rest
  | _ + 1, [] => new
  | limit + 1, c :: rest => new ++ c :: interleaved new limit rest

def joinBy (separator : List α) : List (List α) -> List α
  | [] => []
  | [part] => part
  | part :: rest => part ++ separator ++ joinBy separator rest

def replaceIn [BEq α] (old new : List α) (limit : Nat) (text : List α) : List α :=
  if old.isEmpty then interleaved new limit text
  else joinBy new (splitBy old limit text)

def partitionAt [BEq α] (separator text : List α) : List α × List α × List α :=
  match findFirst separator text with
  | some place => (text.take place, separator, text.drop (place + separator.length))
  | none => (text, [], [])

def partitionAtLast [BEq α] (separator text : List α) : List α × List α × List α :=
  match findLast separator text with
  | some place => (text.take place, separator, text.drop (place + separator.length))
  | none => ([], [], text)

def fillRight (fill : α) (width : Nat) (text : List α) : List α :=
  text ++ List.replicate (width - text.length) fill

def fillLeft (fill : α) (width : Nat) (text : List α) : List α :=
  List.replicate (width - text.length) fill ++ text

def fillAround (fill : α) (width : Nat) (text : List α) : List α :=
  let missing := width - text.length
  let left := missing / 2 + (if missing % 2 = 1 && width % 2 = 1 then 1 else 0)
  List.replicate left fill ++ text ++ List.replicate (missing - left) fill

def fillZeros [BEq α] (zero : α) (signs : List α) (width : Nat) (text : List α) : List α :=
  match text with
  | first :: rest =>
    if signs.contains first then
      first :: (List.replicate (width - text.length) zero ++ rest)
    else fillLeft zero width text
  | [] => fillLeft zero width []

def expandTabsBy [BEq α] (tab blank : α) (ends : List α) (size : Nat) :
    (column : Nat) -> List α -> List α
  | _, [] => []
  | column, c :: rest =>
    if c == tab then
      let count := if size = 0 then 0 else size - column % size
      List.replicate count blank ++ expandTabsBy tab blank ends size (column + count) rest
    else c :: expandTabsBy tab blank ends size (if ends.contains c then 0 else column + 1) rest

structure LineEnds (α : Type) where
  isReturn : α -> Bool
  isFeed : α -> Bool
  isBreak : α -> Bool

def linesOf (ends : LineEnds α) (keepsBreaks : Bool) : List α -> List (List α)
  | [] => []
  | [c] => if ends.isBreak c && !keepsBreaks then [[]] else [[c]]
  | c :: d :: rest =>
    let broken (ending : List α) := if keepsBreaks then ending else []
    if ends.isReturn c && ends.isFeed d then broken [c, d] :: linesOf ends keepsBreaks rest
    else if ends.isBreak c then broken [c] :: linesOf ends keepsBreaks (d :: rest)
    else consFirst c (linesOf ends keepsBreaks (d :: rest))
end RouteDocs.Text
