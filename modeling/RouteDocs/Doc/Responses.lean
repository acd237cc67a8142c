import RouteDocs.Doc.Basic
import RouteDocs.Http.Status
import RouteDocs.Json.Reader
import RouteDocs.Text.Lines

/-!
# Elaborate responses

The outline under a response bullet gives its description, its media type, the name of its schema
and examples.
-/

namespace RouteDocs.Doc

/-! ## The forms of a documentation line

Four forms of lines carry meaning: a heading, a parameter bullet, a response bullet and a key with a
value.
-/

section

open Text

/-- A line of a cleaned block with its number, counted from one. -/
structure Line where
  number : Nat
  text : Chars
deriving DecidableEq

def numberLines : (start : Nat) -> List Chars -> List Line
  | _, [] => []
  | start, text :: rest => ⟨start, text⟩ :: numberLines (start + 1) rest

/-- What follows at least one blank at the front of a text, without further
blanks. -/
def afterBlank? : Chars -> Option Chars
  | [] => none
  | c :: rest => if isBlank c then some (trimStart rest) else none

def afterMarks? : Chars -> Option Chars
  | '#' :: '#' :: rest => afterBlank? rest
  | '#' :: rest => afterBlank? rest
  | _ => none

/-- The title of a heading: one or two marks, blanks and some text. -/
def headingTitle? (line : Chars) : Option Chars := match afterMarks? line with
  | none => none
  | some rest => if isBlankText rest then none else some (trimEnd rest)

def afterBullet? : Chars -> Option Chars
  | [] => none
  | mark :: rest => if mark = '-' || mark = '*' then afterBlank? rest else none

def afterColon? (text : Chars) : Option Chars := match trimStart text with
  | ':' :: rest => some (trim rest)
  | _ => none

structure ParameterBullet where
  name : Chars
  location : Chars
  description : Chars
deriving DecidableEq

def isNameChar (c : Char) : Bool := !isBlank c && c != '('

/-- Read `- name (place): description`. -/
def parameterBullet? (line : Chars) : Option ParameterBullet := do
  let body <- afterBullet? line
  let name := body.takeWhile isNameChar
  if name.isEmpty then none
  else
    match trimStart (body.dropWhile isNameChar) with
    | '(' :: inside =>
      let (location, behind) <- splitFirst ')' inside
      let description <- afterColon? behind
      return ⟨name, location, description⟩
    | _ => none

structure ResponseBullet where
  digits : Chars
  description : Chars
deriving DecidableEq

/-- Read `- status: description`. -/
def responseBullet? (line : Chars) : Option ResponseBullet := do
  let body <- afterBullet? line
  let digits := body.takeWhile isDigit
  if digits.isEmpty then none
  else
    let description <- afterColon? (body.dropWhile isDigit)
    return ⟨digits, description⟩

structure KeyLine where
  key : Chars
  value : Chars
  item : Bool
deriving DecidableEq

/-- Read `key: value`; the key has no colon and does not begin with a blank. -/
def keyValue? (item : Bool) (text : Chars) : Option KeyLine := match text with
  | [] => none
  | c :: _ =>
    if c = ':' || isBlank c then none
    else (splitFirst ':' text).map fun (key, value) => ⟨trim key, trim value, item⟩

def afterDash? : Chars -> Option Chars
  | '-' :: rest => afterBlank? rest
  | _ => none

/-- Read `key: value` or `- key: value`. Where nothing can be read behind the
dash, the dash belongs to the key. -/
def keyLine? (text : Chars) : Option KeyLine := match afterDash? text with
  | some rest => keyValue? true rest <|> keyValue? false text
  | none => keyValue? false text

end

open Text

inductive Outline where
  | node (line : Nat) (content : KeyLine) (children : List Outline)

namespace Outline
def line : Outline -> Nat
  | node line .. => line

def key : Outline -> Chars
  | node _ content _ => content.key

def value : Outline -> Chars
  | node _ content _ => content.value

def children : Outline -> List Outline
  | node _ _ children => children
end Outline

structure OutlineLine where
  level : Nat
  number : Nat
  content : KeyLine
deriving DecidableEq

def outlineLine (previous : Nat) (line : Line) : Except Warning OutlineLine :=
  let spaces := leadingSpaces line.text
  if spaces % indentWidth ≠ 0 then .error ⟨line.number, .oddIndentation spaces⟩
  else if previous + 1 < spaces / indentWidth then .error ⟨line.number, .deepIndentation⟩
  else
    match keyLine? (trim line.text) with
    | some content => .ok ⟨spaces / indentWidth, line.number, content⟩
    | none => .error ⟨line.number, .keyLine (String.ofList (trim line.text))⟩

/-- Check lines in order, the first of which follows a line at a given level. -/
def outlineLines (previous : Nat) : List Line -> Except Warning (List OutlineLine)
  | [] => .ok []
  | line :: rest => do
    let first <- outlineLine previous line
    let others <- outlineLines first.level rest
    return first :: others

/-- Put a line in front of pieces with their levels; the deeper pieces directly
behind it become its children. -/
def nest (line : OutlineLine) (pieces : List (Nat × Outline)) : List (Nat × Outline) :=
  let deeper : Nat × Outline -> Bool := fun piece => line.level < piece.1
  (line.level, .node line.number line.content ((pieces.takeWhile deeper).map Prod.snd)) ::
    pieces.dropWhile deeper

def outlineOf (lines : List OutlineLine) : List Outline := (lines.foldr nest []).map Prod.snd

def readOutline (lines : List Line) : Except Warning (List Outline) :=
  (outlineLines 0 lines).map outlineOf

def unquote : Chars -> Chars
  | quote :: rest =>
    if (quote = '"' || quote = '\'') && rest.getLast? = some quote then rest.dropLast
    else quote :: rest
  | [] => []

def nonempty? (text : Chars) : Option String :=
  if text.isEmpty then none else some (String.ofList text)

/-- What stops the reading of a block.  Everything else that is wrong with one is noted. -/
inductive ReadFault where
  | overflow (cause : DigitOverflow)
  | nesting
deriving DecidableEq

def ReadFault.message : ReadFault -> String
  | overflow cause => cause.message
  | nesting => "maximum recursion depth exceeded"

/-- How many containers may stand in one another in an example: eleven calls are open around the
outermost one. -/
def nestingLimit : Nat := Json.callLimit - 11

/-- The value of an example: JSON where the text begins like a container and can be read, the text
itself otherwise.  A text that is not JSON is the only failure that is made up for. -/
def exampleValue (text : Chars) : Except ReadFault Json :=
  let isContainer := match text with
    | c :: _ => c = '\x7b' || c = '['
    | [] => false
  if isContainer then
    match Json.readWithin nestingLimit text with
    | .ok value => .ok value
    | .error .malformed => .ok (.string (String.ofList text))
    | .error (.overflow cause) => .error (.overflow cause)
    | .error .nesting => .error .nesting
  else .ok (.string (String.ofList text))

def attribute? (key : String) (nodes : List Outline) : Option Chars :=
  (nodes.reverse.find? fun node => node.key = key.toList).map fun node => unquote node.value

def beginsExample (node : Outline) : Bool := node.key = "name".toList

def exampleOf (node : Outline) : Except ReadFault Example := do
  let value <- exampleValue ((attribute? "value" node.children).getD [])
  return {
    name := String.ofList (unquote node.value)
    summary? := (attribute? "summary" node.children).map String.ofList
    value := value }

def examplesOf (nodes : List Outline) : Except ReadFault (List Example) :=
  (nodes.filter beginsExample).mapM exampleOf

def exampleWarnings (nodes : List Outline) : List Warning :=
  (nodes.filter (!beginsExample ·)).map fun node => ⟨node.line, .unnamedExample⟩

structure Draft where
  description? : Option String := none
  contentType : String := defaultContentType
  schema? : Option String := none
  examples : List Example := []

def Draft.mediaPart (draft : Draft) (node : Outline) : Except ReadFault Draft :=
  if node.key = "schema".toList then .ok { draft with schema? := nonempty? node.value }
  else if node.key = "examples".toList then do
    let found <- examplesOf node.children
    return { draft with examples := draft.examples ++ found }
  else .ok draft

def Draft.media (draft : Draft) (node : Outline) : Except ReadFault Draft :=
  node.children.foldlM Draft.mediaPart { draft with contentType := String.ofList node.key }

def Draft.part (draft : Draft) (node : Outline) : Except ReadFault Draft :=
  if node.key = "description".toList then
    .ok { draft with description? := some (String.ofList (unquote node.value)) }
  else if node.key = "content".toList then node.children.foldlM Draft.media draft
  else if node.key.contains '/' then draft.media node
  else draft.mediaPart node

def mediaWarnings (media : Outline) : List Warning := media.children.flatMap fun node =>
    if node.key = "schema".toList then []
    else if node.key = "examples".toList then exampleWarnings node.children
    else [⟨node.line, .unknownMediaKey (String.ofList node.key) (String.ofList media.key)⟩]

def partWarnings (status : Nat) (node : Outline) : List Warning :=
  if node.key = "description".toList then []
  else if node.key = "content".toList then node.children.flatMap mediaWarnings
  else if node.key.contains '/' then mediaWarnings node
  else if node.key = "schema".toList then []
  else if node.key = "examples".toList then exampleWarnings node.children
  else [⟨node.line, .unknownKey (String.ofList node.key) status⟩]

/-- The response that an outline describes, with what is noted about it. A
response without a description is dropped. -/
def elaborateResponse (status line : Nat) (nodes : List Outline) :
    Except ReadFault (Option Response × List Warning) := do
  let draft <- nodes.foldlM Draft.part {}
  let warnings := nodes.flatMap (partWarnings status)
  match draft.description? with
  | some description =>
    return (some (.elaborate status description draft.contentType draft.schema? draft.examples),
      warnings)
  | none => return (none, warnings ++ [⟨line, .droppedForDescription status⟩])

/-!
## The responses section

The lines of the section fall into entries: an unindented line with the indented lines behind it.
-/

/-- An unindented line with the indented lines behind it. -/
structure Entry where
  head : Line
  body : List Line
deriving DecidableEq

def isIndented (line : Line) : Bool := line.text.head? == some ' '

/-- The indented lines in front of the first entry, and the entries. Blank
lines do not count. -/
def splitEntries : List Line -> List Line × List Entry
  | [] => ([], [])
  | line :: rest =>
    let (indented, entries) := splitEntries rest
    if isBlankText line.text then (indented, entries)
    else if isIndented line then (line :: indented, entries)
    else ([], ⟨line, indented⟩ :: entries)

/-- Lines without the least indentation among those with text. -/
def cutSpaces (lines : List Line) : List Line :=
  let texts := lines.filter fun line => !isBlankText line.text
  let margin := ((texts.map fun line => leadingSpaces line.text).min?).getD 0
  lines.map fun line => { line with text := line.text.drop margin }

structure ResponseEntry where
  line : Nat
  status : Nat
  description : Chars
  body : List Line
deriving DecidableEq

def Entry.response? (entry : Entry) : Except ReadFault (Option ResponseEntry) :=
  match responseBullet? entry.head.text with
  | none => .ok none
  | some bullet => do
    let status <- (readNumeral bullet.digits).mapError .overflow
    return some ⟨entry.head.number, status, bullet.description, entry.body⟩

def Entry.warnings (entry : Entry) : List Warning := match responseBullet? entry.head.text with
  | some _ => []
  | none => [⟨entry.head.number, .responseLine (String.ofList (trim entry.head.text))⟩]

/-- The response of a bullet, with what is noted about it. The result depends
on the bullet and its block alone. -/
def ResponseEntry.read (entry : ResponseEntry) :
    Except ReadFault (Option Response × List Warning) :=
  if !Http.isStatus entry.status then
    .ok (none, [⟨entry.line, .statusRange entry.status⟩])
  else if !entry.description.isEmpty then
    .ok (some (.simple entry.status (String.ofList entry.description)), match entry.body with
      | [] => []
      | line :: _ => [⟨line.number, .ignoredLines entry.status⟩])
  else
    match readOutline entry.body with
    | .error warning => .ok (none, [warning, ⟨entry.line, .droppedForIndentation entry.status⟩])
    | .ok nodes => elaborateResponse entry.status entry.line nodes

structure Collected where
  responses : OrderedMap Int Response := ∅
  warnings : List Warning := []

def Collected.add (collected : Collected) (entry : ResponseEntry)
    (found : Option Response × List Warning) : Collected :=
  match found with
  | (none, warnings) => { collected with warnings := collected.warnings ++ warnings }
  | (some response, warnings) =>
    let repeated := if collected.responses.contains entry.status then
        [⟨entry.line, .repeatedStatus entry.status⟩]
      else []
    { responses := collected.responses.insert entry.status response
      warnings := collected.warnings ++ warnings ++ repeated }

def Collected.addAll (collected : Collected) :
    List ResponseEntry -> Except ReadFault Collected
  | [] => .ok collected
  | entry :: rest => do
    let found <- entry.read
    (collected.add entry found).addAll rest

def readResponses (lines : List Line) : Except ReadFault Collected := do
  let (stray, entries) := splitEntries (cutSpaces lines)
  let bullets <- entries.mapM Entry.response?
  let collected <- Collected.addAll {} (bullets.filterMap id)
  return { collected with
    warnings := stray.map (fun line => ⟨line.number, .strayIndentation⟩) ++
      entries.flatMap Entry.warnings ++ collected.warnings }
end RouteDocs.Doc
