import RouteDocs.Yaml.Value

/-! # Scalars in a text -/

namespace RouteDocs.Yaml
def isFlowMark (c : Char) : Bool := c == ',' || c == '[' || c == ']' || c == '\x7b' || c == '\x7d'

/-- A run of characters of a plain scalar; `flow` says whether it stands in
brackets. -/
def plainChunk (flow : Bool) : Chars -> Chars
  | [] => []
  | c :: rest =>
    if isSpace c || breaksLine c then []
    else if c == ':' && (startsBlank rest || (flow && rest.head?.any isFlowMark)) then []
    else if flow && (c == '?' || isFlowMark c) then []
    else c :: plainChunk flow rest

def plainBreaks : Nat -> Cursor -> Option Chars × Cursor
  | 0, cursor => (some [], cursor)
  | fuel + 1, cursor =>
    let behind := cursor.skip (· == ' ')
    match behind.lineBreak? with
    | none => (some [], behind)
    | some (c, behind) =>
      if behind.atDocumentMark then (none, behind)
      else
        let (breaks?, behind) := plainBreaks fuel behind
        (breaks?.map (c :: ·), behind)

def foldBreaks (first : Char) (others : Chars) : Chars :=
  if first != '\n' then first :: others
  else if others.isEmpty then [' ']
  else others

variable (cursor : Cursor)

def plainSpaces : Chars × Cursor × Bool :=
  let spaces := cursor.rest.takeWhile (· == ' ')
  let behind := cursor.forward spaces.length
  match behind.lineBreak? with
  | none => (spaces, behind, false)
  | some (first, behind) =>
    if behind.atDocumentMark then ([], behind, true)
    else
      let (breaks?, behind) := plainBreaks behind.rest.length behind
      ((breaks?.map (foldBreaks first)).getD [], behind, true)

structure PlainScalar where
  text : Chars
  cursor : Cursor
  lineEnded : Bool

/-- Go on with a plain scalar: `text` has been read, and `spaces` behind it. -/
def plainFrom (flow : Bool) (indent : Int) :
    Nat -> (text spaces : Chars) -> (lineEnded : Bool) -> Cursor -> PlainScalar
  | 0, text, _, lineEnded, cursor => ⟨text, cursor, lineEnded⟩
  | fuel + 1, text, spaces, lineEnded, cursor =>
    if cursor.peek? = some '#' then ⟨text, cursor, lineEnded⟩
    else
      match plainChunk flow cursor.rest with
      | [] => ⟨text, cursor, lineEnded⟩
      | chunk =>
        let text := text ++ spaces ++ chunk
        let (spaces, behind, lineEnded) := plainSpaces (cursor.forward chunk.length)
        if spaces.isEmpty || (!flow && behind.column < indent) then ⟨text, behind, lineEnded⟩
        else plainFrom flow indent fuel text spaces lineEnded behind

/-- Read a plain scalar. Outside brackets, a line that is indented less than
`indent` does not belong to it. -/
def readPlain (flow : Bool) (indent : Int) (cursor : Cursor) : PlainScalar :=
  plainFrom flow indent (cursor.rest.length + 1) [] [] false cursor

def namedEscapes : List (Char × Nat) := [
  ('0', 0), ('a', 7), ('b', 8), ('t', 9), ('\t', 9), ('n', 10), ('v', 11), ('f', 12), ('r', 13),
  ('e', 27), (' ', 32), ('"', 34), ('\\', 92), ('/', 47), ('N', 0x85), ('_', 0xA0),
  ('L', 0x2028), ('P', 0x2029)]

def escapeWidth? (c : Char) : Option Nat := if c == 'x' then some 2 else if c == 'u' then some 4
  else if c == 'U' then some 8
  else none

def hexNumber? (digits : Chars) : Option Nat :=
  digits.foldlM (fun n c => (Text.hexValue? c).map (16 * n + ·)) 0

def quotedBreaks : Nat -> Cursor -> Except Fault (Chars × Cursor)
  | 0, cursor => .ok ([], cursor)
  | fuel + 1, cursor =>
    if cursor.atDocumentMark then .error .malformed
    else
      let behind := cursor.skip isSpace
      match behind.lineBreak? with
      | none => .ok ([], behind)
      | some (c, behind) => do
        let (breaks, behind) <- quotedBreaks fuel behind
        return (c :: breaks, behind)

def quotedSpaces : Except Fault (Chars × Cursor) :=
  let spaces := cursor.rest.takeWhile isSpace
  let behind := cursor.forward spaces.length
  match behind.rest, behind.lineBreak? with
  | [], _ => .error .malformed
  | _, none => .ok (spaces, behind)
  | _, some (first, behind) => do
    let (breaks, behind) <- quotedBreaks (behind.rest.length + 1) behind
    return (foldBreaks first breaks, behind)

def readEscape : Except Fault (List Text.Piece × Cursor) := match cursor.rest with
  | [] => .error .malformed
  | c :: rest =>
    match namedEscapes.lookup c, escapeWidth? c with
    | some code, _ => .ok ([.ofCode code], cursor.step)
    | none, some width =>
      match hexNumber? (rest.take width) with
      | none => .error .malformed
      | some code =>
        if (rest.take width).length < width then .error .malformed
        else if 0x110000 <= code then .error (.codePoint code)
        else .ok ([.ofCode code], cursor.forward (width + 1))
    | none, none =>
      match cursor.lineBreak? with
      | none => .error .malformed
      | some (_, behind) => do
        let (breaks, behind) <- quotedBreaks (behind.rest.length + 1) behind
        return (Text.pieces breaks, behind)

def consPart {α : Type} (first : List α) (part : Except Fault (List α × Cursor)) :
    Except Fault (List α × Cursor) :=
  part.map fun (rest, cursor) => (first ++ rest, cursor)

def quotedFrom (double : Bool) : Nat -> Cursor -> Except Fault (List Text.Piece × Cursor)
  | 0, _ => .error .malformed
  | fuel + 1, cursor =>
    match cursor.rest with
    | [] => .error .malformed
    | c :: rest =>
      if isSpace c || breaksLine c then do
        let (spaces, behind) <- quotedSpaces cursor
        consPart (Text.pieces spaces) (quotedFrom double fuel behind)
      else if double && c == '"' then .ok ([], cursor.step)
      else if double && c == '\\' then do
        let (escaped, behind) <- readEscape cursor.step
        consPart escaped (quotedFrom double fuel behind)
      else if !double && c == '\'' then
        if rest.head? = some '\'' then
          consPart [.char '\''] (quotedFrom double fuel (cursor.forward 2))
        else .ok ([], cursor.step)
      else consPart [.char c] (quotedFrom double fuel cursor.step)

def readQuoted : Except Fault (List Text.Piece × Cursor) :=
  quotedFrom (cursor.peek? == some '"') (cursor.rest.length + 1) cursor.step

inductive Chomping where
  | clip
  | strip
  | keep

def indentDigit? (c : Char) : Option (Except Fault Nat) := if c == '0' then some (.error .malformed)
  else if c.isDigit then some (.ok (c.toNat - '0'.toNat))
  else none

def chomping? (c : Char) : Option Chomping := if c == '+' then some .keep
  else if c == '-' then some .strip
  else none

def blockHeader : Except Fault (Chomping × Option Nat × Cursor) := do
  let (chomping, increment?, behind) <-
    match cursor.peek? with
    | none => pure (.clip, none, cursor)
    | some c =>
      match chomping? c, indentDigit? c with
      | some chomping, _ =>
        let behind := cursor.step
        match behind.peek?.bind indentDigit? with
        | some increment => pure (chomping, some (<- increment), behind.step)
        | none => pure (chomping, none, behind)
      | none, some increment => do
        let increment <- increment
        let behind := cursor.step
        match behind.peek?.bind chomping? with
        | some chomping => pure (chomping, some increment, behind.step)
        | none => pure (.clip, some increment, behind)
      | none, none => pure (.clip, none, cursor)
  match behind.peek? with
  | none => return (chomping, increment?, behind)
  | some c =>
    if c == ' ' || breaksLine c then return (chomping, increment?, behind) else throw .malformed

def blockIndent : Nat -> (widest : Nat) -> Cursor -> Chars × Nat × Cursor
  | 0, widest, cursor => ([], widest, cursor)
  | fuel + 1, widest, cursor =>
    let behind := cursor.skip (· == ' ')
    let widest := max widest behind.column
    match behind.lineBreak? with
    | none => ([], widest, behind)
    | some (c, behind) =>
      let (breaks, widest, behind) := blockIndent fuel widest behind
      (c :: breaks, widest, behind)

def blockBreaks (indent : Nat) : Nat -> Cursor -> Chars × Cursor
  | 0, cursor => ([], cursor)
  | fuel + 1, cursor =>
    let behind := cursor.skipIndent indent
    match behind.lineBreak? with
    | none => ([], behind)
    | some (c, behind) =>
      let (breaks, behind) := blockBreaks indent fuel behind
      (c :: breaks, behind)

def atBlockLine (indent : Nat) (cursor : Cursor) : Bool :=
  cursor.column == indent && !cursor.rest.isEmpty

def blockLines (folded : Bool) (indent : Nat) :
    Nat -> (text breaks : Chars) -> Cursor -> Chars × Chars × Chars × Cursor
  | 0, text, breaks, cursor => (text, [], breaks, cursor)
  | fuel + 1, text, breaks, cursor =>
    let line := cursor.rest.takeWhile fun c => !breaksLine c
    let text := text ++ breaks ++ line
    let lineEnd := cursor.forward line.length
    let (lineBreak, behind) := match lineEnd.lineBreak? with
      | some (c, behind) => ([c], behind)
      | none => ([], lineEnd)
    let (breaks, behind) := blockBreaks indent (behind.rest.length + 1) behind
    if atBlockLine indent behind then
      let joins := folded && lineBreak == ['\n'] && !cursor.rest.head?.any isSpace &&
        !behind.rest.head?.any isSpace
      let between := if !joins then lineBreak else if breaks.isEmpty then [' '] else []
      blockLines folded indent fuel (text ++ between) breaks behind
    else (text, lineBreak, breaks, behind)

def readBlock (folded : Bool) (parentIndent : Int) (cursor : Cursor) :
    Except Fault (Chars × Cursor) := do
  let (chomping, increment?, behind) <- blockHeader cursor.step
  let start <- behind.skipRemark
  let least := (max (parentIndent + 1) 1).toNat
  let (breaks, indent, start) := match increment? with
    | none =>
      let (breaks, widest, start) := blockIndent (start.rest.length + 1) 0 start
      (breaks, max least widest, start)
    | some increment =>
      let indent := least + increment - 1
      let (breaks, start) := blockBreaks indent (start.rest.length + 1) start
      (breaks, indent, start)
  let (text, lineBreak, breaks, behind) := if atBlockLine indent start then
      blockLines folded indent (start.rest.length + 1) [] breaks start
    else ([], [], breaks, start)
  return (match chomping with
    | .strip => text
    | .clip => text ++ lineBreak
    | .keep => text ++ lineBreak ++ breaks, behind)
end RouteDocs.Yaml
