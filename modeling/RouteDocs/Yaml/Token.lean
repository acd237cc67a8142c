import RouteDocs.Yaml.Scalar

/-! # Tokens -/

namespace RouteDocs.Yaml
inductive Directive where
  | version (major : Nat)
  | tag (handle name : String)
  | other
deriving DecidableEq

inductive Token where
  | directive (directive : Directive)
  | documentStart
  | documentEnd
  | blockSequence
  | blockMapping
  | blockEnd
  | openList
  | closeList
  | openMap
  | closeMap
  | comma
  | entry
  | key
  | value
  | alias (name : String)
  | anchor (name : String)
  | tag (handle? : Option String) (suffix : String)
  | scalar (text : List Text.Piece) (plain : Bool)
deriving DecidableEq

inductive Item where
  | token (token : Token)
  | mark (number : Nat)

structure Candidate where
  mark : Nat
  required : Bool
  index : Nat
  line : Nat
  column : Nat

def keyReach : Nat := 1024

structure Scan where
  cursor : Cursor
  items : List Item := []
  marks : Nat := 0
  keys : List (Nat × Bool) := []
  flow : Nat := 0
  indent : Int := -1
  outer : List Int := []
  keyAllowed : Bool := true
  candidates : List (Nat × Candidate) := []

namespace Scan
variable (scan : Scan)

def push (token : Token) : Scan := { scan with items := .token token :: scan.items }

def dropStale : Except Fault Scan :=
  let isStale (entry : Nat × Candidate) : Bool :=
    entry.2.line != scan.cursor.line || entry.2.index + keyReach < scan.cursor.index
  if scan.candidates.any fun entry => isStale entry && entry.2.required then .error .malformed
  else .ok { scan with candidates := scan.candidates.filter fun entry => !isStale entry }

def dropCandidate : Except Fault Scan := match scan.candidates.lookup scan.flow with
  | none => .ok scan
  | some candidate =>
    if candidate.required then .error .malformed
    else .ok { scan with candidates := scan.candidates.filter (·.1 != scan.flow) }

def markKey : Except Fault Scan := if !scan.keyAllowed then .ok scan else do
    let scan <- scan.dropCandidate
    let candidate : Candidate := {
      mark := scan.marks
      required := scan.flow == 0 && scan.indent == scan.cursor.column
      index := scan.cursor.index
      line := scan.cursor.line
      column := scan.cursor.column }
    return { scan with
      items := .mark scan.marks :: scan.items
      marks := scan.marks + 1
      candidates := (scan.flow, candidate) :: scan.candidates }

def closeBlocks (column : Int) : (outer : List Int) -> Scan -> Scan
  | [], scan => scan
  | previous :: outer, scan =>
    if scan.flow == 0 && column < scan.indent then
      closeBlocks column outer { scan.push .blockEnd with indent := previous, outer := outer }
    else scan

def closeTo (column : Int) : Scan := closeBlocks column scan.outer scan

def openAt (column : Nat) : Bool × Scan := if scan.indent < column then
    (true, { scan with indent := column, outer := scan.indent :: scan.outer })
  else (false, scan)

def openBlock (start : Token) : Except Fault Scan := if scan.flow != 0 then .ok scan
  else if !scan.keyAllowed then .error .malformed
  else
    let (opened, scan) := scan.openAt scan.cursor.column
    .ok (if opened then scan.push start else scan)

def take (count : Nat) (token : Token) : Scan :=
  { scan.push token with cursor := scan.cursor.forward count }

def skipGap : Nat -> Scan -> Scan
  | 0, scan => scan
  | fuel + 1, scan =>
    let behind := scan.cursor.skip (· == ' ')
    let behind := if behind.peek? = some '#' then behind.skipLine else behind
    match behind.lineBreak? with
    | none => { scan with cursor := behind }
    | some (_, behind) =>
      skipGap fuel { scan with cursor := behind, keyAllowed := scan.keyAllowed || scan.flow == 0 }

def isNameChar (c : Char) : Bool := c.isAlphanum || c == '-' || c == '_'

variable (cursor : Cursor)

def readName : Except Fault (String × Cursor) :=
  let name := cursor.rest.takeWhile isNameChar
  let behind := cursor.forward name.length
  let ends := startsBlank behind.rest ||
    behind.rest.head?.any fun c => "?:,]\x7d%@\x60".toList.contains c
  if name.isEmpty || !ends then .error .malformed else .ok (String.ofList name, behind)

def isTagChar (c : Char) : Bool := c.isAlphanum || "-;/?:@&=+$,_.!~*'()[]".toList.contains c

def readOctets : Chars -> Option (List UInt8 × Nat)
  | '%' :: high :: low :: rest => do
    let code <- hexNumber? [high, low]
    let (octets, count) <- readOctets rest
    return (code.toUInt8 :: octets, count + 3)
  | '%' :: _ => none
  | _ => some ([], 0)

def tagNameFrom : Nat -> Cursor -> Except Fault (Chars × Cursor)
  | 0, cursor => .ok ([], cursor)
  | fuel + 1, cursor =>
    let chunk := cursor.rest.takeWhile isTagChar
    let behind := cursor.forward chunk.length
    if behind.peek? = some '%' then
      match readOctets behind.rest with
      | none => .error .malformed
      | some (octets, count) =>
        match String.fromUTF8? ⟨octets.toArray⟩ with
        | none => .error .malformed
        | some text => consPart (chunk ++ text.toList) (tagNameFrom fuel (behind.forward count))
    else .ok (chunk, behind)

def tagName : Except Fault (String × Cursor) := do
  let (name, behind) <- tagNameFrom (cursor.rest.length + 1) cursor
  if behind.index == cursor.index then throw .malformed
  return (String.ofList name, behind)

def tagHandle : Except Fault (String × Cursor) := match cursor.rest with
  | '!' :: ' ' :: _ => .ok ("!", cursor.step)
  | '!' :: rest =>
    let name := rest.takeWhile isNameChar
    match rest.dropWhile isNameChar with
    | '!' :: _ => .ok (String.ofList ('!' :: name ++ ['!']), cursor.forward (name.length + 2))
    | _ => .error .malformed
  | _ => .error .malformed

def endsWord : Chars -> Bool
  | [] => true
  | c :: _ => c == ' ' || breaksLine c

def readTag : Except Fault (Option String × String × Cursor) := do
  let rest := cursor.rest.drop 1
  let (handle?, suffix, behind) <-
    if rest.head? = some '<' then do
      let (name, behind) <- tagName (cursor.forward 2)
      if behind.peek? = some '>' then pure (none, name, behind.step) else throw .malformed
    else if startsBlank rest then pure (none, "!", cursor.step)
    else if (rest.takeWhile fun c => !(c == ' ' || breaksLine c)).contains '!' then do
      let (handle, behind) <- tagHandle cursor
      let (name, behind) <- tagName behind
      pure (some handle, name, behind)
    else do
      let (name, behind) <- tagName cursor.step
      pure (some "!", name, behind)
  if endsWord behind.rest then return (handle?, suffix, behind) else throw .malformed

def directiveNumber : Except Fault (Nat × Cursor) := do
  let digits := cursor.rest.takeWhile Char.isDigit
  if digits.isEmpty then throw .malformed
  let number <- (Text.readNumeral digits).mapError .overflow
  return (number, cursor.forward digits.length)

def directiveValue (name : String) (cursor : Cursor) : Except Fault (Directive × Cursor) := do
  let start := cursor.skip (· == ' ')
  if name = "YAML" then
    let (major, behind) <- directiveNumber start
    if behind.peek? ≠ some '.' then throw .malformed
    let (_, behind) <- directiveNumber behind.step
    if endsWord behind.rest then return (.version major, behind) else throw .malformed
  else if name = "TAG" then
    let (handle, behind) <- tagHandle start
    if behind.peek? ≠ some ' ' then throw .malformed
    let (text, behind) <- tagName (behind.skip (· == ' '))
    if endsWord behind.rest then return (.tag handle text, behind) else throw .malformed
  else return (.other, cursor.skipLine)

def readDirective : Except Fault (Directive × Cursor) := do
  let name := (cursor.rest.drop 1).takeWhile isNameChar
  let behind := cursor.forward (name.length + 1)
  if name.isEmpty || !endsWord behind.rest then throw .malformed
  let (directive, behind) <- directiveValue (String.ofList name) behind
  return (directive, <- behind.skipRemark)

def documentToken (token : Token) (behind : Cursor) : Except Fault Scan := do
  let scan <- (scan.closeTo (-1)).dropCandidate
  return { scan.push token with keyAllowed := false, cursor := behind }

def keyToken (token : Token) (behind : Cursor) (keyAllowed : Bool := false) :
    Except Fault Scan := do
  let scan <- scan.markKey
  return { scan.push token with keyAllowed, cursor := behind }

def openFlow (token : Token) : Except Fault Scan := do
  let scan <- scan.keyToken token scan.cursor.step true
  return { scan with flow := scan.flow + 1 }

def closeFlow (token : Token) : Except Fault Scan := do
  let scan <- scan.dropCandidate
  match scan.flow with
  | 0 => throw .malformed
  | flow + 1 => return { scan.take 1 token with flow, keyAllowed := false }

def blockToken (start token : Token) (keyAllowed : Bool) : Except Fault Scan := do
  let scan <- scan.openBlock start
  let scan <- scan.dropCandidate
  return { scan.take 1 token with keyAllowed }

def valueToken : Except Fault Scan := match scan.candidates.lookup scan.flow with
  | some candidate =>
    let scan := { scan with candidates := scan.candidates.filter (·.1 != scan.flow) }
    let (opened, scan) := if scan.flow == 0 then scan.openAt candidate.column else (false, scan)
    .ok { scan.take 1 .value with
      keys := (candidate.mark, opened) :: scan.keys
      keyAllowed := false }
  | none => do
    let scan <- scan.openBlock .blockMapping
    let scan <- scan.dropCandidate
    return { scan.take 1 .value with keyAllowed := scan.flow == 0 }

def blockScalar (folded : Bool) : Except Fault Scan := do
  let scan <- scan.dropCandidate
  let (text, behind) <- readBlock folded scan.indent scan.cursor
  return { scan.push (.scalar (Text.pieces text) false) with keyAllowed := true, cursor := behind }

def plainScalar : Except Fault Scan := do
  let scan <- scan.markKey
  let scalar := readPlain (scan.flow != 0) (scan.indent + 1) scan.cursor
  return { scan.push (.scalar (Text.pieces scalar.text) true) with
    keyAllowed := scalar.lineEnded
    cursor := scalar.cursor }

def startsPlain (flow : Bool) : Chars -> Bool
  | [] => false
  | c :: rest =>
    !(startsBlank [c] || "-?:,[]\x7b\x7d#&*!|>'\"%@\x60".toList.contains c) ||
      (!startsBlank rest && (c == '-' || (!flow && (c == '?' || c == ':'))))

def token (c : Char) (rest : Chars) : Except Fault Scan :=
  let inFlow := scan.flow != 0
  let cursor := scan.cursor
  if c == '%' && cursor.column == 0 then do
    let (directive, behind) <- readDirective cursor
    scan.documentToken (.directive directive) behind
  else if cursor.column == 0 && cursor.atDocumentMark then
    scan.documentToken (if c == '-' then .documentStart else .documentEnd) (cursor.forward 3)
  else if c == '[' then scan.openFlow .openList
  else if c == '\x7b' then scan.openFlow .openMap
  else if c == ']' then scan.closeFlow .closeList
  else if c == '\x7d' then scan.closeFlow .closeMap
  else if c == ',' then do
    return { (<- scan.dropCandidate).take 1 .comma with keyAllowed := true }
  else if c == '-' && startsBlank rest then scan.blockToken .blockSequence .entry true
  else if c == '?' && (inFlow || startsBlank rest) then scan.blockToken .blockMapping .key (!inFlow)
  else if c == ':' && (inFlow || startsBlank rest) then scan.valueToken
  else if c == '*' then do
    let (name, behind) <- readName cursor.step
    scan.keyToken (.alias name) behind
  else if c == '&' then do
    let (name, behind) <- readName cursor.step
    scan.keyToken (.anchor name) behind
  else if c == '!' then do
    let (handle?, suffix, behind) <- readTag cursor
    scan.keyToken (.tag handle? suffix) behind
  else if c == '|' && !inFlow then scan.blockScalar false
  else if c == '>' && !inFlow then scan.blockScalar true
  else if c == '\'' || c == '"' then do
    let (text, behind) <- readQuoted cursor
    scan.keyToken (.scalar text false) behind
  else if startsPlain inFlow (c :: rest) then scan.plainScalar
  else .error .malformed

def next : Except Fault (Bool × Scan) := do
  let scan <- (scan.skipGap (scan.cursor.rest.length + 1)).dropStale
  let scan := scan.closeTo scan.cursor.column
  match scan.cursor.rest with
  | [] => return (true, <- (scan.closeTo (-1)).dropCandidate)
  | c :: rest => return (false, <- scan.token c rest)

def run : Nat -> Scan -> Scan × Option Fault
  | 0, scan => (scan, some .malformed)
  | fuel + 1, scan =>
    match scan.next with
    | .error fault => (scan, some fault)
    | .ok (true, scan) => (scan, none)
    | .ok (false, scan) => run fuel scan

def tokensOf (items : List Item) : List Token := items.flatMap fun
    | .token token => [token]
    | .mark number =>
      match scan.keys.lookup number with
      | none => []
      | some true => [.blockMapping, .key]
      | some false => [.key]

def isOpen : Item -> Bool
  | .token _ => false
  | .mark number => scan.candidates.any fun (_, candidate) =>
      candidate.mark == number && candidate.line == scan.cursor.line &&
        scan.cursor.index <= candidate.index + keyReach

def settled : List Item := scan.items.reverse.takeWhile fun item => !scan.isOpen item
end Scan

structure TokenStream where
  tokens : List Token
  fault? : Option Fault := none

def isAllowed (c : Char) : Bool :=
  let n := c.toNat
  c == '\t' || c == '\n' || c == '\r' || (0x20 <= n && n <= 0x7E) || n == 0x85 ||
    (0xA0 <= n && n <= 0xFFFD) || 0x10000 <= n

def TokenStream.ofText (text : Chars) : TokenStream :=
  if !text.all isAllowed then ⟨[], some .malformed⟩
  else
    let cursor : Cursor := { rest := text }
    let cursor := if cursor.peek? = some byteOrderMark then cursor.step else cursor
    match Scan.run (text.length + 2) { cursor } with
    | (scan, none) => ⟨scan.tokensOf scan.items.reverse, none⟩
    | (scan, some fault) => ⟨scan.tokensOf scan.settled, some fault⟩
end RouteDocs.Yaml
