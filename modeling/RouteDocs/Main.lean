import RouteDocs.CommandLine.Report

/-!
# The program

The outer layer of the command line: it reads the source of a command, prints the
lines of its report and saves its text.
-/

namespace RouteDocs
namespace CommandLine
def versionVariable : String := "APIDOC_OPENAPI_VERSION"

def usageText : String :=
  "Usage: routedocs [-v] build SOURCE [-o PATH] [--format json|yaml] [--route PATTERN]\n" ++
                               "[--openapi-version VERSION]\n" ++
         "routedocs [-v] check SOURCE\n" ++
         "routedocs [-v] parse-doc SOURCE\n"

def saveText (path content : String) : IO Unit := do
  IO.FS.createDirAll (parentPath path)
  IO.FS.writeFile (shownPath path) content

def runOn (invocation : Invocation) (content : String) : IO UInt32 := do
  let report := invocation.command.report content
  if invocation.verbose then
    IO.eprint (linesText (report.notices.map logLine))
  match report.lines with
  | .error fault =>
    IO.eprintln (reportLine invocation.command.source fault)
    return 1
  | .ok lines =>
    match report.saved? with
    | some (path, .ok text) => saveText path text
    | some (_, .error fault) =>
      IO.eprintln (reportLine invocation.command.source fault)
      return 1
    | none => pure ()
    IO.print (printedText lines)
    return 0

def runArguments (arguments : List String) : IO UInt32 := do
  match Invocation.ofArguments (<- IO.getEnv versionVariable) arguments with
  | .error .help =>
    IO.print usageText
    return 0
  | .error .usage =>
    IO.eprint usageText
    return 2
  | .error .nullInPath =>
    IO.eprintln "a path has a null character in it"
    return 1
  | .ok invocation =>
    let content? <- try
        pure (some (<- IO.FS.readFile invocation.command.source))
      catch _ => pure none
    match content? with
    | none =>
      IO.eprint usageText
      return 2
    | some content => runOn invocation content
end CommandLine
end RouteDocs

def main (arguments : List String) : IO UInt32 := RouteDocs.CommandLine.runArguments arguments
