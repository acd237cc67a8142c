import RouteDocs.Class.Evaluation.Operator
import RouteDocs.Class.Value.Encoding
import RouteDocs.Text.Case

/-! # Methods of texts -/

namespace RouteDocs.Class.VM
open Text Eval
open Text (Piece)

def placeArgument (value : Hint) : Eval Int := do
  let some n := value.int? | misfit
  if Hint.isPlace n then return n else throw .outOfRange

def placeOr (default : Int) : Option Hint -> Eval Int
  | some value => placeArgument value
  | none => return default

def limitArgument (value? : Option Hint) : Eval Nat := do
  let n <- placeOr (-1) value?
  return if n < 0 then Hint.placeLimit else n.toNat

def widthArgument (value : Hint) : Eval Nat := do
  let n <- placeArgument value
  if (Hint.sizeBound : Int) < n then throw .tooLarge
  return n.toNat

def partBetween {α : Type} (items : List α) (start? stop? : Option Hint) :
    Eval (Option (Nat × List α)) := do
  let size : Int := items.length
  let bound (value? : Option Hint) (default : Int) : Eval Int := do
    match value? with
    | none | some .nothing => return default
    | some value =>
      let some n := value.int? | misfit
      return if n < 0 then max 0 (n + size) else n
  let start <- bound start? 0
  let stop := min size (<- bound stop? size)
  if stop < start then return none
  return some (start.toNat, (items.drop start.toNat).take (stop - start).toNat)

def piecesOf (value : Hint) : Eval (List Piece) := match value with
  | .text pieces => return pieces
  | _ => misfit

inductive Sources where
  | args (given : Args)
  | table (given : Hint)

variable (vm : VM)

def placeValue (sources : Sources) (index? : Option Nat) (name : Chars) : Eval Hint :=
  match sources, index? with
  | .args given, some index =>
    match given.plain[index]? with
    | some value => return value
    | none => throw .noIndex
  | .args given, none =>
    match given.named.lookup (String.ofList name) with
    | some value => return value
    | none => throw .noKey
  | .table _, some _ => throw (.badValue "Format string contains positional fields")
  | .table given, none => vm.subscript given (.ofChars name)

def followSteps (vm : VM) : Nat -> Hint -> Chars -> Eval Hint
  | 0, value, _ => return value
  | fuel + 1, value, text => do
    if text.isEmpty then return value
    match <- lift (BracePlace.nextStep text) with
    | (.member name, rest) => followSteps vm fuel (<- vm.member value (String.ofList name)) rest
    | (.item key index?, rest) =>
      let key := match index? with
        | some index => .int index
        | none => .ofChars key
      followSteps vm fuel (<- vm.subscript value key) rest

def convertedBy (conversion? : Option Char) (value : Hint) : Eval Hint := do
  match conversion? with
  | none => return value
  | some 's' => return .text (<- vm.ownText value)
  | some _ => return .text (<- lift ((<- vm.settled value).converted conversion?))

def formatted (value : Hint) (format : List Piece) : Eval (List Piece) := do
  if isThing value then
    if let some method <- vm.special? value "__format__" then
      let .text pieces <- vm.call method { plain := [.text format] } | misfit
      return pieces
  let some chars := ofPieces? format | misfit
  if !isThing value then return <- lift ((<- vm.settled value).inFormat chars)
  match <- vm.core value with
  | .thing .. => if chars.isEmpty then vm.ownText value else misfit
  | .const .. => lift ((<- vm.settled value).inFormat chars)
  | inner =>
    if chars.isEmpty then vm.ownText value
    else lift ((<- vm.settled inner).inFormat chars)

/-- A text whose places in braces are filled, and how the places behind it are numbered.
`depth` bounds how deep places stand in formats of places. -/
def fillBraces (vm : VM) (sources : Sources) : (depth fuel : Nat) ->
    BracePlace.Numbering -> Chars -> Eval (List Piece × BracePlace.Numbering)
  | 0, _, _, _ => throw (.badValue "Max string recursion exceeded")
  | _, 0, numbering, _ => return ([], numbering)
  | depth + 1, fuel + 1, numbering, text => do
    if text.isEmpty then return ([], numbering)
    let (before, place?, behind) <- lift (BracePlace.nextPart text)
    match place? with
    | none =>
      let (others, numbering) <- fillBraces vm sources (depth + 1) fuel numbering behind
      return (pieces before ++ others, numbering)
    | some place =>
      let (first, steps) := BracePlace.split place.name
      let (index?, numbering) <- lift (numbering.next first)
      let value <- vm.placeValue sources index? first
      let value <- vm.followSteps place.name.length value steps
      if let some letter := place.conversion? then
        if letter ∉ ['r', 's', 'a'] then throw (BracePlace.unknownConversion letter)
      let value <- vm.convertedBy place.conversion? value
      let (format, numbering) <-
        if place.format.contains '\x7b' then
          fillBraces vm sources depth (place.format.length + 1) numbering place.format
        else pure (pieces place.format, numbering)
      let written <- vm.formatted value format
      let (others, numbering) <- fillBraces vm sources (depth + 1) fuel numbering behind
      return (pieces before ++ written ++ others, numbering)

def braceDepth : Nat := 2

def fillText (sources : Sources) (text : Chars) : Eval Hint := do
  let (pieces, _) <- vm.fillBraces sources braceDepth (text.length + 1) .open_ text
  return .text pieces

def translatedPiece (table : Hint) (piece : Piece) : Eval (List Piece) := do
  let found? <- Eval.attempt (fun fault => fault = .noKey || fault = .noIndex)
    (vm.subscript table (.int (Hint.pieceCode piece)))
  match found? with
  | none => return [piece]
  | some .nothing => return []
  | some (.text pieces) => return pieces
  | some found =>
    let some n := found.int? | misfit
    if 0 <= n && n < 0x110000 then return [Piece.ofCode n.toNat]
    else throw (.badValue "character mapping must be in range(0x110000)")

def tableOfOne (given : Hint) : Eval Hint := do
  let .cell .dict number := given | misfit
  let entries <- (<- tableOf number).toList.mapM fun (key, value) =>
    match key with
    | .text [piece] => pure (Hint.int (Hint.pieceCode piece), value)
    | .text _ => throw (.badValue "string keys in translate table must be of length 1")
    | _ => if key.int?.isSome then pure (key, value) else misfit
  newTable (.ofList entries)

def tableOfTexts (old new : Hint) (dropped? : Option Hint) : Eval Hint := do
  let old <- piecesOf old
  let new <- piecesOf new
  let dropped <- match dropped? with
    | some value => piecesOf value
    | none => pure []
  if old.length ≠ new.length then
    throw (.badValue "the first two maketrans arguments must have equal length")
  let code (piece : Piece) : Hint := .int (Hint.pieceCode piece)
  newTable (.ofList ((old.zip new).map (fun (a, b) => (code a, code b)) ++
    dropped.map fun piece => (code piece, .nothing)))

def characterTable (args : Args) : Eval Hint := do
  match <- args.between 1 3 with
  | [given] => tableOfOne given
  | [old, new] => tableOfTexts old new none
  | [old, new, dropped] => tableOfTexts old new (some dropped)
  | _ => misfit

def nameArgument (default : String) : Option Hint -> Eval String
  | none => return default
  | some value =>
    match nameOf? value with
    | some name => return name
    | none => misfit

def encodingOf (name : String) : Eval Encoding :=
  if name.toList.contains '\x00' then throw (.badValue "embedded null character")
  else match Encoding.ofName? name with
  | some encoding => return encoding
  | none => throw .unknownEncoding

def encodedText (pieces : List Piece) (encoding? errors? : Option Hint) : Eval (List Nat) := do
  let encoding <- nameArgument "utf-8" encoding?
  let errors <- nameArgument "strict" errors?
  let encoding <- encodingOf encoding
  lift (encoding.encode (.ofName errors) (pieces.map Hint.pieceCode))

def decodedText (bytes : List Nat) (encoding? errors? : Option Hint) : Eval Hint := do
  let encoding <- nameArgument "utf-8" encoding?
  let errors <- nameArgument "strict" errors?
  let encoding <- encodingOf encoding
  let codes <- lift (encoding.decode (.ofName errors) bytes)
  return .text (codes.map Piece.ofCode)

def mapChars (change : Chars -> Chars) (pieces : List Piece) : Hint :=
  match ofPieces? pieces with
  | some chars => .ofChars (change chars)
  | none => .text pieces

def holdsOf (test : Chars -> Bool) (pieces : List Piece) : Hint :=
  .truth ((ofPieces? pieces).any test)

def allOf (kind : Char -> Bool) : List Piece -> Hint :=
  holdsOf fun chars => !chars.isEmpty && chars.all kind

structure Script (α : Type) where
  read : Hint -> Eval (List α)
  readPart : Hint -> Eval (List α)
  make : List α -> Eval Hint
  ofChar : Char -> α
  isBlank : α -> Bool
  lineEnds : LineEnds α
  missing : String

section Scripts

variable {α : Type} [BEq α] (script : Script α) (items : List α) (args : Args)

def stripped (change : (α -> Bool) -> List α) : Eval Hint := do
  match <- args.between 0 1 with
  | [] | [.nothing] => script.make (change script.isBlank)
  | value :: _ =>
    let dropped <- script.read value
    script.make (change dropped.contains)

def filled (change : α -> Nat -> List α) : Eval Hint := do
  match <- args.between 1 2 with
  | width :: rest =>
    let width <- widthArgument width
    match <- rest.mapM script.read with
    | [] => script.make (change (script.ofChar ' ') width)
    | [[fill]] => script.make (change fill width)
    | _ => misfit
  | [] => misfit

def newParts (parts : List (List α)) : Eval Hint := do
  newList (<- parts.mapM script.make)

def separatorArgument (value : Hint) : Eval (List α) := do
  let separator <- script.read value
  if separator.isEmpty then throw (.badValue "empty separator")
  return separator

def partsOf (byText : List α -> Nat -> List (List α)) (byBlanks : Nat -> List (List α)) :
    Eval Hint := do
  let [separator?, limit?] <- args.fit 0 ["sep", "maxsplit"] | misfit
  let limit <- limitArgument limit?
  match separator? with
  | none | some .nothing => newParts script (byBlanks limit)
  | some separator => newParts script (byText (<- separatorArgument script separator) limit)

def partition (search : List α -> List α × List α × List α) : Eval Hint := do
  let (before, found, behind) := search (<- separatorArgument script (<- args.one))
  return .row [<- script.make before, <- script.make found, <- script.make behind]

def searched : Eval (List α × Option (Nat × List α)) := do
  match <- args.between 1 3 with
  | inner :: bounds =>
    let inner <- script.readPart inner
    return (inner, <- partBetween items bounds[0]? bounds[1]?)
  | [] => misfit

def placeWithin (search : List α -> List α -> Option Nat) : Eval (Option Nat) := do
  let (inner, part?) <- searched script items args
  return part? >>= fun (start, part) => (search inner part).map (start + ·)

def found (place? : Option Nat) : Eval Hint := match place? with
  | some place => return .int place
  | none => throw (.badValue script.missing)

def hasEdge (test : List α -> List α -> Bool) : Eval Hint := do
  match <- args.between 1 3 with
  | edge :: bounds =>
    let part? <- partBetween items bounds[0]? bounds[1]?
    let edges <- match edge with
      | .row edges => edges.mapM script.read
      | edge => do pure [<- script.read edge]
    return .truth (part?.any fun (_, part) => edges.any fun edge => test edge part)
  | [] => misfit

def scriptMethod? (vm : VM) (name : String) : Answer := match name with
  | "strip" => some (stripped script args fun test => trimWhile test items)
  | "lstrip" => some (stripped script args fun test => items.dropWhile test)
  | "rstrip" => some (stripped script args fun test => dropEndWhile test items)
  | "center" => some (filled script args fun fill width => fillAround fill width items)
  | "ljust" => some (filled script args fun fill width => fillRight fill width items)
  | "rjust" => some (filled script args fun fill width => fillLeft fill width items)
  | "zfill" => some do
    let width <- widthArgument (<- args.one)
    script.make (fillZeros (script.ofChar '0') (['+', '-'].map script.ofChar) width items)
  | "expandtabs" => some do
    let [size?] <- args.fit 0 ["tabsize"] | misfit
    let size <- placeOr 8 size?
    script.make (expandTabsBy (script.ofChar '\t') (script.ofChar ' ')
      (['\n', '\r'].map script.ofChar) size.toNat 0 items)
  | "removeprefix" => some do
    let start <- script.read (<- args.one)
    script.make (if start.isPrefixOf items then items.drop start.length else items)
  | "removesuffix" => some do
    let ending <- script.read (<- args.one)
    script.make
      (if ending.isSuffixOf items then items.take (items.length - ending.length) else items)
  | "split" => some (partsOf script args
      (fun separator limit => splitBy separator limit items)
      (fun limit => splitWordsBy script.isBlank limit items))
  | "rsplit" => some (partsOf script args
      (fun separator limit => splitByLast separator limit items)
      (fun limit => splitLastWordsBy script.isBlank limit items))
  | "splitlines" => some do
    let [keeps?] <- args.fit 0 ["keepends"] | misfit
    let keeps <- match keeps? with
      | some value => Eval.isTrue value
      | none => pure false
    newParts script (linesOf script.lineEnds keeps items)
  | "partition" => some (partition script args fun separator => partitionAt separator items)
  | "rpartition" => some (partition script args fun separator => partitionAtLast separator items)
  | "count" => some do
    let (inner, part?) <- searched script items args
    return .int ((part?.map fun (_, part) => countOf inner part).getD 0)
  | "find" => some do
    return .int ((<- placeWithin script items args findFirst).elim (-1) Int.ofNat)
  | "rfind" => some do
    return .int ((<- placeWithin script items args findLast).elim (-1) Int.ofNat)
  | "index" => some do found script (<- placeWithin script items args findFirst)
  | "rindex" => some do found script (<- placeWithin script items args findLast)
  | "startswith" => some (hasEdge script items args List.isPrefixOf)
  | "endswith" => some (hasEdge script items args List.isSuffixOf)
  | "replace" => some do
    let old :: new :: rest <- args.between 2 3 | misfit
    let old <- script.read old
    let new <- script.read new
    script.make (replaceIn old new (<- limitArgument rest.head?) items)
  | "join" => some do
    let parts <- (<- vm.items (<- args.one)).mapM script.read
    script.make (joinBy items parts)
  | _ => none
end Scripts

def textScript : Script Piece where
  read := piecesOf
  readPart := piecesOf
  make := fun pieces => return .text pieces
  ofChar := .char
  isBlank := Piece.is isBlank
  lineEnds := {
    isReturn := Piece.is (· = '\r')
    isFeed := Piece.is (· = '\n')
    isBreak := Piece.is isLineBreak }
  missing := "substring not found"

def textTest? (pieces : List Piece) : (name : String) -> Option Hint
  | "isalnum" => some (allOf isAlphanumeric pieces)
  | "isalpha" => some (allOf isLetter pieces)
  | "isascii" => some (holdsOf (·.all fun c => c.toNat < 128) pieces)
  | "isdecimal" => some (allOf isDigit pieces)
  | "isdigit" => some (allOf isAnyDigit pieces)
  | "isidentifier" => some (holdsOf isIdentifier pieces)
  | "islower" => some (holdsOf isSmallText pieces)
  | "isnumeric" => some (allOf isNumeric pieces)
  | "isprintable" => some (holdsOf (·.all isPrintable) pieces)
  | "isspace" => some (allOf isBlank pieces)
  | "istitle" => some (holdsOf isTitleText pieces)
  | "isupper" => some (holdsOf isLargeText pieces)
  | "capitalize" => some (mapChars capitalize pieces)
  | "casefold" => some (mapChars folded pieces)
  | "lower" => some (mapChars lower pieces)
  | "upper" => some (mapChars upper pieces)
  | "swapcase" => some (mapChars swapCase pieces)
  | "title" => some (mapChars title pieces)
  | "__getnewargs__" => some (.row [.text pieces])
  | _ => none

def textMethod? (pieces : List Piece) (name : String) (args : Args) : Answer :=
  match textTest? pieces name with
  | some found => some do
    args.none
    return found
  | none => (scriptMethod? textScript pieces args vm name).or <| match name with
  | "encode" => some do
    let [encoding?, errors?] <- args.fit 0 ["encoding", "errors"] | misfit
    return .octets (<- encodedText pieces encoding? errors?)
  | "translate" => some do
    let table <- args.one
    return .text (<- pieces.mapM (vm.translatedPiece table)).flatten
  | "maketrans" => some (characterTable args)
  | "format" => some do
    let some chars := ofPieces? pieces | misfit
    vm.fillText (.args args) chars
  | "format_map" => some do
    let table <- args.one
    let some chars := ofPieces? pieces | misfit
    vm.fillText (.table table) chars
  | _ => none
end RouteDocs.Class.VM
