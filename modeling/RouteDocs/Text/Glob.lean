/-! # Glob patterns -/

namespace RouteDocs.Text
inductive GlobPart where
  | run
  | any
  | char (c : Char)
  | set (negated : Bool) (chars : List Char) (ranges : List (Char × Char))
  | nothing

def GlobPart.accepts (part : GlobPart) (c : Char) : Bool := match part with
  | run | any => true
  | char d => c == d
  | set negated chars ranges =>
    negated != (chars.contains c || ranges.any fun (low, high) => low <= c && c <= high)
  | nothing => false

def setText? (text : List Char) : Option (List Char × List Char) :=
  let (mark, afterMark) := match text with
    | '!' :: rest => (['!'], rest)
    | _ => ([], text)
  let (first, rest) := match afterMark with
    | ']' :: rest => ([']'], rest)
    | _ => ([], afterMark)
  match rest.dropWhile (· != ']') with
  | [] => none
  | _ :: behind => some (mark ++ first ++ rest.takeWhile (· != ']'), behind)

/-- Cut a set at the hyphens that make ranges. `skip` is how many characters are
passed before the next such hyphen can stand. -/
def setChunks (skip : Nat) (chunk : List Char) : List Char -> List (List Char)
  | [] => if chunk.isEmpty then [] else [chunk]
  | c :: rest =>
    match skip with
    | 0 =>
      if c == '-' then
        match setChunks 2 [] rest with
        | [] => [chunk ++ ['-']]
        | chunks => chunk :: chunks
      else setChunks 0 (chunk ++ [c]) rest
    | skip + 1 => setChunks skip (chunk ++ [c]) rest

def joinReversed : List (List Char) -> List (List Char)
  | [] => []
  | chunk :: rest =>
    match joinReversed rest with
    | [] => [chunk]
    | next :: others =>
      match chunk.getLast?, next.head? with
      | some high, some low =>
        if low < high then (chunk.dropLast ++ next.tail) :: others else chunk :: next :: others
      | _, _ => chunk :: next :: others

def chunkRanges : List (List Char) -> List (Char × Char)
  | chunk :: next :: others =>
    match chunk.getLast?, next.head? with
    | some low, some high => (low, high) :: chunkRanges (next :: others)
    | _, _ => chunkRanges (next :: others)
  | _ => []

def setPart : List (List Char) -> GlobPart
  | [] | [[]] => .nothing
  | [['!']] => .any
  | ['!'] :: next :: others =>
    .set true ('-' :: next ++ others.flatten) (chunkRanges (next :: others))
  | ('!' :: chunk) :: others => .set true (chunk ++ others.flatten) (chunkRanges (chunk :: others))
  | chunks => .set false chunks.flatten (chunkRanges chunks)

def readSet (text : List Char) : GlobPart :=
  setPart (joinReversed (setChunks (if text.head? = some '!' then 2 else 1) [] text))

/-- The parts of a pattern; `fuel` bounds their number. -/
def globPartsWithin : Nat -> List Char -> List GlobPart
  | 0, _ => []
  | _, [] => []
  | fuel + 1, c :: rest =>
    if c == '*' then .run :: globPartsWithin fuel rest
    else if c == '?' then .any :: globPartsWithin fuel rest
    else if c == '[' then
      match setText? rest with
      | some (text, behind) => readSet text :: globPartsWithin fuel behind
      | none => .char '[' :: globPartsWithin fuel rest
    else .char c :: globPartsWithin fuel rest

def globParts (pattern : List Char) : List GlobPart := globPartsWithin pattern.length pattern

def suffixAny : List Bool -> List Bool
  | [] => []
  | answer :: rest => (answer || rest.any id) :: suffixAny rest

def globRow : List GlobPart -> List Char -> List Bool
  | [], text => text.map (fun _ => false) ++ [true]
  | .run :: parts, text => suffixAny (globRow parts text)
  | part :: parts, text =>
    List.zipWith (fun c behind => part.accepts c && behind) text (globRow parts text).tail ++
      [false]

def globMatches (pattern text : List Char) : Bool := (globRow (globParts pattern) text).headD false
end RouteDocs.Text
