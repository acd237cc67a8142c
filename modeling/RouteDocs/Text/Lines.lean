import RouteDocs.Text.Letter

/-! # Blank characters and trimming -/

namespace RouteDocs.Text
variable (text : Chars) (lines : List Chars) {α : Type} (c : Char)

def isBlank : Bool :=
  let n := c.toNat
  (9 <= n && n <= 13) || (28 <= n && n <= 32) || n == 0x85 || n == 0xA0 || n == 0x1680 ||
    (0x2000 <= n && n <= 0x200A) || n == 0x2028 || n == 0x2029 || n == 0x202F || n == 0x205F ||
    n == 0x3000

def isOuterBlank : Bool := isBlank c && !(28 <= c.toNat && c.toNat <= 31)

def dropEndWhile {α : Type} (drop : α -> Bool) : List α -> List α
  | [] => []
  | c :: rest =>
    match dropEndWhile drop rest with
    | [] => if drop c then [] else [c]
    | kept => c :: kept

def trimWhile (drop : α -> Bool) (text : List α) : List α := dropEndWhile drop (text.dropWhile drop)
def trimStart : Chars := text.dropWhile isBlank
def trimEnd : Chars := dropEndWhile isBlank text
def trim : Chars := trimWhile isBlank text
def isBlankText : Bool := text.all isBlank
def leadingSpaces : Nat := (text.takeWhile (· == ' ')).length

def isLineBreak : Bool :=
  let n := c.toNat
  (10 <= n && n <= 13) || (28 <= n && n <= 30) || n == 0x85 || n == 0x2028 || n == 0x2029

def consFirst (a : α) : List (List α) -> List (List α)
  | [] => [[a]]
  | piece :: rest => (a :: piece) :: rest

def splitLines : Chars -> List Chars
  | [] => []
  | '\r' :: '\n' :: rest => [] :: splitLines rest
  | c :: rest => if isLineBreak c then [] :: splitLines rest else consFirst c (splitLines rest)

def splitWhere {α : Type} (separates : α -> Bool) : List α -> List (List α)
  | [] => [[]]
  | a :: rest =>
    if separates a then [] :: splitWhere separates rest
    else consFirst a (splitWhere separates rest)

def splitAt [BEq α] (separator : α) (text : List α) : List (List α) :=
  splitWhere (· == separator) text

def joinWith (separator : Chars) : List Chars -> Chars
  | [] => []
  | [piece] => piece
  | piece :: rest => piece ++ separator ++ joinWith separator rest

def splitFirst (separator : Char) : Chars -> Option (Chars × Chars)
  | [] => none
  | c :: rest =>
    if c = separator then some ([], rest)
    else (splitFirst separator rest).map fun (before, behind) => (c :: before, behind)

def normalizeLineEnds : Chars -> Chars
  | [] => []
  | '\r' :: '\n' :: rest => '\n' :: normalizeLineEnds rest
  | c :: rest => (if c = '\r' then '\n' else c) :: normalizeLineEnds rest

def joinLineEnds : Chars -> Chars
  | [] => []
  | '\r' :: '\n' :: rest => '\n' :: joinLineEnds rest
  | c :: rest => c :: joinLineEnds rest

def tabWidth : Nat := 8

def expandTabsFrom : (column : Nat) -> Chars -> Chars
  | _, [] => []
  | column, c :: rest =>
    if c = '\t' then
      let width := tabWidth - column % tabWidth
      List.replicate width ' ' ++ expandTabsFrom (column + width) rest
    else if c = '\n' || c = '\r' then c :: expandTabsFrom 0 rest
    else c :: expandTabsFrom (column + 1) rest

def expandTabs : Chars := expandTabsFrom 0 text

def indentation? (line : Chars) : Option Nat :=
  if isBlankText line then none else some (line.takeWhile isBlank).length

def margin? : Option Nat := (lines.filterMap indentation?).min?

def dropEmptyEnds : List Chars :=
  ((lines.dropWhile List.isEmpty).reverse.dropWhile List.isEmpty).reverse

def cutMargin : List Chars -> List Chars
  | [] => []
  | first :: rest =>
    trimStart first :: match margin? rest with
      | some margin => rest.map (·.drop margin)
      | none => rest

def cleanBlock : Chars :=
  joinWith ['\n'] (dropEmptyEnds (cutMargin (splitAt '\n' (expandTabs text))))
end RouteDocs.Text
