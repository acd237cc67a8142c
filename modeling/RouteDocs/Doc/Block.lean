import RouteDocs.Doc.Responses
import RouteDocs.Text.Case

/-!
# Documentation blocks

A block is a preamble of free text and sections under headings. The first line of the preamble is
the summary, its remaining paragraphs are the description.
-/

namespace RouteDocs
open Text
namespace Doc

/-- A heading's title with the lines up to the next heading. -/
structure Section where
  title : Chars
  lines : List Line
deriving DecidableEq

def splitSections : List Line -> List Line × List Section
  | [] => ([], [])
  | line :: rest =>
    let (preamble, sections) := splitSections rest
    match headingTitle? line.text with
    | some title => ([], ⟨title, preamble⟩ :: sections)
    | none => (line :: preamble, sections)

/-- Paragraphs: rows of lines without an empty one among them. -/
def paragraphs (lines : List Chars) : List (List Chars) :=
  (splitWhere List.isEmpty lines).filter (!·.isEmpty)

def readPreamble (lines : List Line) : String × String :=
  match (lines.map fun line => trim line.text).dropWhile List.isEmpty with
  | [] => ("", "")
  | summary :: rest =>
    (String.ofList summary,
      String.ofList (joinWith ['\n', '\n'] ((paragraphs rest).map (joinWith [' ']))))

def ParameterBullet.place (bullet : ParameterBullet) : String :=
  String.ofList (lower (trim bullet.location))

/-- The parameter on a line, if there is one. A place that is not known counts
as the query. -/
def parameterOn? (line : Line) : Option Parameter :=
  (parameterBullet? (trim line.text)).map fun bullet =>
    { name := String.ofList bullet.name
      location := (Location.ofWord? bullet.place).getD .query
      description := String.ofList bullet.description }

def parameterWarnings (line : Line) : List Warning :=
  let text := trim line.text
  if text.isEmpty then []
  else
    match parameterBullet? text with
    | none => [⟨line.number, .parameterLine (String.ofList text)⟩]
    | some bullet =>
      match Location.ofWord? bullet.place with
      | some _ => []
      | none => [⟨line.number, .parameterLocation bullet.place⟩]

inductive BodyLine where
  | contentType (text : Chars)
  | schema (text : Chars)
  | text (text : Chars)
deriving DecidableEq

def afterLabel? (label : String) (text : Chars) : Option Chars :=
  if label.toList.isPrefixOf text then some (trim (text.drop label.toList.length)) else none

def bodyLine (text : Chars) : BodyLine := match afterLabel? "Content-Type:" text with
  | some rest => .contentType rest
  | none =>
    match afterLabel? "Schema:" text with
    | some rest => .schema rest
    | none => .text text

def readRequestBody (lines : List Line) : RequestBody :=
  let said := ((lines.map fun line => trim line.text).filter (!·.isEmpty)).map bodyLine
  let texts := said.filterMap fun
    | .text text => some text
    | _ => none
  let contentTypes := said.filterMap fun
    | .contentType text => some text
    | _ => none
  let schemas := said.filterMap fun
    | .schema text => some text
    | _ => none
  { contentType := (contentTypes.getLast?.bind nonempty?).getD defaultContentType
    description := String.ofList (joinWith [' '] texts)
    schema? := schemas.getLast?.bind nonempty? }

def sectionText (lines : List Line) : String := String.ofList (trimWhile (· == '\n')
    (joinWith ['\n'] (lines.map fun line => trimEnd line.text)))

/-- Take over the responses of one section. A status of an earlier section is
overridden, and noted without a line. -/
def mergeResponses (responses : OrderedMap Int Response) (warnings : List Warning) :
    List (Int × Response) -> OrderedMap Int Response × List Warning
  | [] => (responses, warnings)
  | (status, response) :: rest =>
    mergeResponses (responses.insert status response)
      (if responses.contains status then warnings ++ [⟨0, .repeatedStatus status⟩] else warnings)
      rest

/-- Take over the text of a section: a repeated title goes on where it stopped. -/
def extend (extensions : OrderedMap String String) (title text : String) :
    OrderedMap String String :=
  extensions.insert title (match extensions.get? title with
      | some earlier => earlier ++ "\n" ++ text
      | none => text)

def addSection (doc : EndpointDoc) (part : Section) : Except ReadFault EndpointDoc :=
  if part.title = "Parameters".toList then
    .ok { doc with
      parameters := doc.parameters ++ part.lines.filterMap parameterOn?
      warnings := doc.warnings ++ part.lines.flatMap parameterWarnings }
  else if part.title = "Request Body".toList then
    .ok { doc with requestBody? := some (readRequestBody part.lines) }
  else if part.title = "Responses".toList then do
    let trimmed := part.lines.map fun line => { line with text := trimEnd line.text }
    let collected <- readResponses trimmed
    let (responses, warnings) := mergeResponses doc.responses
      (doc.warnings ++ collected.warnings) collected.responses.entries
    return { doc with responses := responses, warnings := warnings }
  else
    .ok { doc with
      extensions := extend doc.extensions (String.ofList part.title) (sectionText part.lines) }
end Doc

def EndpointDoc.ofLines (lines : List Chars) : Except Doc.ReadFault EndpointDoc :=
  let (preamble, sections) := Doc.splitSections (Doc.numberLines 1 lines)
  let (summary, description) := Doc.readPreamble preamble
  sections.foldlM Doc.addSection { summary := summary, description := description }

def EndpointDoc.ofText (text : String) : Except Doc.ReadFault EndpointDoc :=
  EndpointDoc.ofLines (splitLines (cleanBlock text.toList))
end RouteDocs
