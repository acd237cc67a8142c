import RouteDocs.Text.Case
import RouteDocs.Text.Lines

/-!
# Path templates

A template is a sequence of segments between slashes; empty segments do not count. A segment is a
parameter if it begins with a colon or stands in braces.
-/

namespace RouteDocs.Route
inductive Segment where
  | literal (text : String)
  | parameter (name : String)
deriving DecidableEq

def beforeClosingBrace? (text : Chars) : Option Chars := match text.reverse with
  | '\x7d' :: before => some before.reverse
  | _ => none

def Segment.ofPiece (piece : Chars) : Segment := match piece with
  | ':' :: name => .parameter (String.ofList name)
  | '\x7b' :: rest =>
    match beforeClosingBrace? rest with
    | some name => .parameter (String.ofList name)
    | none => .literal (String.ofList piece)
  | _ => .literal (String.ofList piece)

def segments (template : String) : List Segment :=
  ((Text.splitAt '/' template.toList).filter fun piece => !piece.isEmpty).map Segment.ofPiece

def Segment.parameter? : Segment -> Option String
  | parameter name => some name
  | literal _ => none

def parameters (template : String) : List String := (segments template).filterMap Segment.parameter?

def Segment.chars : Segment -> Chars
  | literal text => text.toList
  | parameter name => '\x7b' :: (name.toList ++ ['\x7d'])

def documentPath (template : String) : String :=
  String.ofList ('/' :: Text.joinWith ['/'] ((segments template).map Segment.chars))

def Segment.word : Segment -> Chars
  | literal text => Text.collapse Text.isWord '_' text.toList
  | parameter name => 'b' :: 'y' :: '_' :: Text.collapse Text.isWord '_' name.toList

def operationId (method template : String) : String :=
  let words := Text.joinWith ['_'] ((segments template).map Segment.word)
  String.ofList (Text.lower method.toList ++ '_' ::
    (if words.isEmpty then ['r', 'o', 'o', 't'] else words))
end RouteDocs.Route
