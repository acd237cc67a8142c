import RouteDocs.CommandLine.Command
import RouteDocs.Declaration.Compilation
import RouteDocs.Declaration.Loading
import RouteDocs.Text.ControlSequence

/-!
# Folders

A folder holds texts under paths. A path names a text or a folder inside it; only what there is can
be named, and only folders can be passed through.
-/

namespace RouteDocs.CommandLine
variable (path : String) (lines : List String)

def pathParts : List String := (path.splitOn "/").filter fun name => name ≠ "" && name ≠ "."
def isAbsolute : Bool := path.toList.head? = some '/'

def shownPath : String :=
  let parts := "/".intercalate (pathParts path)
  if isAbsolute path then "/" ++ parts
  else if parts = "" then "."
  else parts

def parentPath : String :=
  let parts := "/".intercalate (pathParts path).dropLast
  if isAbsolute path then "/" ++ parts
  else if parts = "" then "."
  else parts

structure Folder where
  texts : List (List String × String)

inductive Item where
  | text (content : String)
  | folder
deriving DecidableEq

def pathLimit : Nat := 4095
def isLongPath : Bool := pathLimit < path.utf8ByteSize

namespace Folder
def item? (folder : Folder) (place : List String) : Option Item :=
  match folder.texts.find? fun entry => entry.1 = place with
  | some (_, content) => some (.text content)
  | none =>
    if place = [] || folder.texts.any fun entry => place.isPrefixOf entry.1 then some .folder
    else none

def outsideItem? (names : List String) : Option Item :=
  if names.all fun name => name = "" || name = "." || name = ".." then some .folder else none

def walk (folder : Folder) (place : List String) : List String -> Option Item
  | [] => folder.item? place
  | name :: rest =>
    if folder.item? place ≠ some .folder then none
    else if name = "" || name = "." then folder.walk place rest
    else if name = ".." then
      if place = [] then outsideItem? rest else folder.walk place.dropLast rest
    else if (folder.item? (place ++ [name])).isSome then folder.walk (place ++ [name]) rest
    else none

def find? (folder : Folder) (path : String) : Option Item :=
  if path = "" || isLongPath path then none
  else if isAbsolute path then outsideItem? (path.splitOn "/")
  else folder.walk [] (path.splitOn "/")
end Folder

inductive SaveFault where
  | isFolder
  | occupied
  | noFolder
  | longName

def nameLimit : Nat := 255
def isLongName (name : String) : Bool := nameLimit < name.utf8ByteSize

namespace Folder
def makeFolders (folder : Folder) (place : List String) :
    List String -> Except SaveFault (Option (List String))
  | [] => .ok (some place)
  | name :: rest =>
    if name = ".." then
      if place = [] then .ok none else folder.makeFolders place.dropLast rest
    else if isLongName name then .error .longName
    else
      match folder.item? (place ++ [name]) with
      | some (.text _) => .error (if rest.isEmpty then .occupied else .noFolder)
      | _ => folder.makeFolders (place ++ [name]) rest

def saveFolder (folder : Folder) (path : String) : Except SaveFault (Option (List String)) :=
  if isLongPath (parentPath path) then .error .longName
  else if isAbsolute path then .ok none
  else folder.makeFolders [] (pathParts path).dropLast

def savePlace (folder : Folder) (path : String) : Except SaveFault (Option (List String)) := do
  let place? <- folder.saveFolder path
  if isLongPath (shownPath path) then throw .longName
  match (pathParts path).getLast?, place? with
  | none, _ | some "..", _ => throw .isFolder
  | some name, place? =>
    if isLongName name then throw .longName
    match place? with
    | none => return none
    | some place =>
      if folder.item? (place ++ [name]) = some .folder then throw .isFolder
      return some (place ++ [name])
end Folder

/-!
## What a command does

A command reads its source, prints lines and saves at most one text. Notices are logged if the
command line asks for it.
-/

def logLine : Notice -> String
  | .documentation warning =>
    s!"WARNING apidoc_compiler.parser.comment: line {warning.line}: {warning.message}"
  | .conflict name clash =>
    s!"WARNING apidoc_compiler.schema.synth: Schema '{name}' {clash.message}"
  | .variant message => s!"WARNING apidoc_compiler.schema.variants: {message}"
  | .registered method path => s!"DEBUG apidoc_compiler.registry: Registered {method} {path}"
  | .assembly message => s!"WARNING apidoc_compiler.assembler: {message}"

def linesText : String :=
  let text := String.join (lines.map fun line => line ++ "\n")
  String.ofList (Text.joinLineEnds text.toList)

def plainLine (line : String) : String := String.ofList (Text.dropSequences line.toList)

inductive Fault where
  | load (cause : Declarations.LoadError)
  | compile (cause : Declaration.CompileError)
  | unread (cause : Doc.ReadFault)
  | unwritten (cause : Json.WriteFault)
  | folderSource
  | save (cause : SaveFault)
  | unencodable
  | brokenExample

def isReportedLoad : Declarations.LoadError -> Bool
  | .text .malformed | .shape .notMapping | .shape (.record _) => true
  | _ => false

def isReportedCompile : Declaration.CompileError -> Bool
  | .types (.record _) | .types .shapeless | .types .unsearchable | .types (.overflow _) => false
  | .registration (.unread _) | .registration (.synthesis (.overflow _)) => false
  | .registration .frozenUnnamed => false
  | _ => true

def Fault.isReported : Fault -> Bool
  | load cause => isReportedLoad cause
  | compile cause => isReportedCompile cause
  | _ => false

def Fault.message (source : String) : Fault -> String
  | load cause => cause.message (shownPath source)
  | compile cause => cause.message
  | unread cause => cause.message
  | unwritten _ => "the document has no text"
  | folderSource => s!"{shownPath source} is a folder"
  | save _ => "the text cannot be saved"
  | unencodable => "the text cannot be encoded"
  | brokenExample => "an example cannot be shown"

structure Report where
  lines : Except Fault (List String)
  saved? : Option (String × Except Fault String) := none
  notices : List Notice := []

def compile (content : String) (patterns : List String) (version : String) :
    Except Fault Document × Declaration.Progress :=
  match Declarations.ofFile content with
  | .error cause => (.error (.load cause), {})
  | .ok declarations =>
    let (answer, progress) :=
      (Declaration.Compilation.document declarations patterns version).run {}
    (answer.mapError .compile, progress)

def entryWarnings (entry : Route.Entry) : List String := entry.doc.warnings.map fun warning =>
    s!"warning: {entry.label} line {warning.line}: {warning.message}"

def checkLines (registry : Registry) (document : Document) : List String :=
  let warnings := registry.entries.flatMap entryWarnings ++
    document.warnings.map fun message => s!"warning: {message}"
  let routes := registry.entries.length
  let schemas := document.schemas.entries.length
  warnings ++ [s!"{routes} routes, {schemas} schemas, {warnings.length} warnings."]

def rendered (format : OpenApi.Format) (document : Document) : Except Fault String := do
  let text <- (OpenApi.render format document).mapError .unwritten
  if OpenApi.isEncodable format document then return text else throw .unencodable

def blockLines (doc : EndpointDoc) : Except Fault (List String) :=
  if doc.toJson.isSound then .ok [doc.toJsonText] else .error .brokenExample

def Command.report (command : Command) (content : String) : Report := match command with
  | .build _ output? format routes version =>
    let (answer, progress) := compile content routes version
    match answer, output? with
    | .error fault, _ => { lines := .error fault, notices := progress.notices }
    | .ok document, none =>
      { lines := (rendered format document).map ([·]), notices := progress.notices }
    | .ok document, some path =>
      { lines := .ok [s!"OpenAPI document saved to {shownPath path}"]
        saved? := some (path, rendered format document)
        notices := progress.notices }
  | .check _ =>
    let (answer, progress) := compile content [] OpenApi.formatVersion
    { lines := answer.map (checkLines progress.registry), notices := progress.notices }
  | .showBlock _ =>
    match EndpointDoc.ofText (String.ofList (Text.normalizeLineEnds content.toList)) with
    | .error cause => { lines := .error (.unread cause) }
    | .ok doc => { lines := blockLines doc, notices := doc.warnings.map .documentation }

inductive Ending where
  | refused (refusal : Refusal)
  | finished (printed log : String) (written : List (String × String))
  | failed (log : String)
  | broken (fault : Fault) (written : List (String × String) := [])

def reportLine (source : String) (fault : Fault) : String :=
  plainLine s!"Error: {fault.message source}"

def writtenTexts (folder : Folder) (place? : Option (List String)) (content : String) :
    List (String × String) :=
  match place? with
  | none => []
  | some place => if (folder.item? place).isSome then [] else [("/".intercalate place, content)]

def printedText : String := linesText (lines.map plainLine)

def Report.ending (report : Report) (folder : Folder) (invocation : Invocation) : Ending :=
  let log := if invocation.verbose then report.notices.map logLine else []
  match report.lines, report.saved? with
  | .error fault, _ =>
    if fault.isReported then
      .failed (linesText (log ++ [reportLine invocation.command.source fault]))
    else .broken fault
  | .ok lines, none => .finished (printedText lines) (linesText log) []
  | .ok lines, some (path, content) =>
    match folder.savePlace path, content with
    | .error cause, _ => .broken (.save cause)
    | .ok place?, .ok content =>
      .finished (printedText lines) (linesText log) (writtenTexts folder place? content)
    | .ok place?, .error fault => .broken fault (writtenTexts folder place? "")

def run (folder : Folder) (preset? : Option String) (arguments : List String) : Ending :=
  match Invocation.ofArguments preset? arguments with
  | .error refusal => .refused refusal
  | .ok invocation =>
    match folder.find? invocation.command.source with
    | none => .refused .usage
    | some .folder => .broken .folderSource
    | some (.text content) => (invocation.command.report content).ending folder invocation
end RouteDocs.CommandLine
