import RouteDocs.Number.Binary64
import RouteDocs.Text.Compatibility
import RouteDocs.Text.Quoted

/-! # Expressions -/

namespace RouteDocs.Class
inductive Literal where
  | nothing
  | dots
  | truth (value : Bool)
  | int (value : Nat)
  | real (value : Number.Binary64)
  | imaginary (value : Number.Binary64)
  | text (pieces : List Text.Piece)
  | octets (bytes : List Nat)
deriving DecidableEq

inductive UnaryOp where
  | plus
  | minus
  | invert
  | negate
deriving DecidableEq

inductive BinaryOp where
  | bar
  | caret
  | ampersand
  | shiftLeft
  | shiftRight
  | add
  | subtract
  | multiply
  | divide
  | floorDivide
  | remainder
  | matrixMultiply
  | power
deriving DecidableEq

inductive Comparison where
  | equal
  | unequal
  | less
  | atMost
  | greater
  | atLeast
  | within
  | outside
  | identical
  | distinct
deriving DecidableEq

inductive ParamKind where
  | positional
  | either
  | named
  | rest
  | namedRest
deriving DecidableEq

inductive LoopKind where
  | list
  | set
  | dict
  | stream

inductive Expr where
  | name (word : String)
  | literal (value : Literal)
  | joined (parts : List Expr)
  | formatted (value : Expr) (conversion? : Option Char) (format : List Expr)
  | member (owner : Expr) (name : String)
  | subscript (base index : Expr)
  | call (callee : Expr) (args : List Expr)
  | named (name : String) (value : Expr)
  | spread (inner : Expr)
  | spreadEntries (inner : Expr)
  | unary (op : UnaryOp) (operand : Expr)
  | binary (op : BinaryOp) (first second : Expr)
  | comparison (first : Expr) (others : List (Comparison × Expr))
  | either (first second : Expr)
  | both (first second : Expr)
  | choice (condition yes no : Expr)
  | row (items : List Expr)
  | list (items : List Expr)
  | set (items : List Expr)
  | dict (entries : List (Expr × Expr))
  | slice (start? stop? step? : Option Expr)
  | assign (name : String) (value : Expr)
  | fn (params : List (ParamKind × String × Option Expr)) (body : Expr)
  | loop (kind : LoopKind) (results : List Expr)
    (clauses : List (Expr × Expr × List Expr))
  | yield (value? : Option Expr)
  | yieldFrom (source : Expr)

namespace Expr
inductive Fault where
  | empty
  | nullCharacter
  | malformed
  | surrogate
  | indented
deriving DecidableEq
end Expr
end RouteDocs.Class

namespace RouteDocs.Class.Expr
open Text

variable (text : Chars) (c : Char) (word : String)

def mayBeInName : Bool := c.isAlphanum || c == '_' || 128 <= c.toNat
def beginsWith (text : Chars) : Bool := word.toList.isPrefixOf text
def wordsBehindNumber : List String := ["and", "else", "for", "if", "in", "is", "or", "not"]

def endsNumber (behind : Chars) : Bool := !(behind.head?.map mayBeInName).getD false ||
    wordsBehindNumber.any (beginsWith · behind)

def digitRow (isDigit : Char -> Bool) : Chars -> Option (Chars × Chars)
  | [] => some ([], [])
  | '_' :: c :: rest =>
    if isDigit c then (digitRow isDigit rest).map fun (digits, behind) => (c :: digits, behind)
    else none
  | '_' :: [] => none
  | c :: rest =>
    if isDigit c then (digitRow isDigit rest).map fun (digits, behind) => (c :: digits, behind)
    else some ([], c :: rest)

def digitRow? (isDigit : Char -> Bool) (text : Chars) : Option (Chars × Chars) :=
  if (text.head?.map isDigit).getD false then digitRow isDigit text else none

def baseDigit : Nat := if c.isDigit then c.toNat - '0'.toNat
  else if 'a' <= c && c <= 'f' then c.toNat - 'a'.toNat + 10
  else c.toNat - 'A'.toNat + 10

def isHexDigit : Bool := c.isDigit || ('a' <= c && c <= 'f') || ('A' <= c && c <= 'F')
def isBaseDigit (base : Nat) (c : Char) : Bool := isHexDigit c && baseDigit c < base

def baseNumeral (base : Nat) (digits : Chars) : Nat :=
  digits.foldl (fun n c => base * n + baseDigit c) 0

def baseOf? : Option Nat := match c with
  | 'x' | 'X' => some 16
  | 'o' | 'O' => some 8
  | 'b' | 'B' => some 2
  | _ => none

structure DecimalParts where
  whole : Chars
  fraction? : Option Chars
  exponent? : Option Int
  isImaginary : Bool

def DecimalParts.value? (parts : DecimalParts) : Option Literal :=
  let fraction := parts.fraction?.getD []
  let real := Number.Binary64.ofDecimal false (numeral (parts.whole ++ fraction))
    (parts.exponent?.getD 0 - fraction.length)
  if parts.isImaginary then some (.imaginary real)
  else if parts.fraction?.isSome || parts.exponent?.isSome then some (.real real)
  else if digitLimit < parts.whole.length then none
  else if parts.whole.head? = some '0' && parts.whole.any (· ≠ '0') then none
  else some (.int (numeral parts.whole))

def exponentPart : Option (Option Int × Chars) := match text with
  | mark :: rest =>
    if mark = 'e' || mark = 'E' then
      match rest with
      | '-' :: behind => (digitRow? Char.isDigit behind).map fun (digits, behind) =>
          (some (-(numeral digits : Int)), behind)
      | '+' :: behind => (digitRow? Char.isDigit behind).map fun (digits, behind) =>
          (some (numeral digits : Int), behind)
      | _ =>
        if (rest.head?.map Char.isDigit).getD false then
          (digitRow? Char.isDigit rest).map fun (digits, behind) =>
            (some (numeral digits : Int), behind)
        else some (none, text)
    else some (none, text)
  | [] => some (none, [])

def decimal? : Option (Literal × Chars) := do
  let (whole, behind) <- digitRow Char.isDigit text
  let (fraction?, behind) <- match behind with
    | '.' :: more =>
      if (more.head?.map Char.isDigit).getD false then
        (digitRow Char.isDigit more).map fun (digits, rest) => (some digits, rest)
      else some (some [], more)
    | _ => some (none, behind)
  let (exponent?, behind) <- exponentPart behind
  let isImaginary := behind.head? = some 'j' || behind.head? = some 'J'
  let behind := if isImaginary then behind.tail else behind
  if endsNumber behind then
    let value <- DecimalParts.value? ⟨whole, fraction?, exponent?, isImaginary⟩
    return (value, behind)
  else none

def number? : Option (Literal × Chars) := match text with
  | '0' :: mark :: rest =>
    match baseOf? mark with
    | some base =>
      let digits := if rest.head? = some '_' then rest.tail else rest
      match digitRow? (isBaseDigit base) digits with
      | some (found, behind) =>
        if endsNumber behind then some (.int (baseNumeral base found), behind) else none
      | none => none
    | none => decimal? text
  | _ => decimal? text

structure TextKind where
  isRaw : Bool := false
  isOctets : Bool := false
  isTemplate : Bool := false

def textKind? (letters : Chars) : Option TextKind := match letters.map Char.toLower with
  | [] | ['u'] => some {}
  | ['r'] => some { isRaw := true }
  | ['b'] => some { isOctets := true }
  | ['f'] => some { isTemplate := true }
  | ['b', 'r'] | ['r', 'b'] => some { isRaw := true, isOctets := true }
  | ['f', 'r'] | ['r', 'f'] => some { isRaw := true, isTemplate := true }
  | _ => none

def quotedBody (quote : Char) (isLong : Bool) : Chars -> Option (Chars × Chars)
  | [] => none
  | '\\' :: c :: rest =>
    (quotedBody quote isLong rest).map fun (body, behind) => ('\\' :: c :: body, behind)
  | c :: rest =>
    if c = quote && (!isLong || rest.take 2 = [quote, quote]) then
      some ([], if isLong then rest.drop 2 else rest)
    else if c = '\n' && !isLong then none
    else (quotedBody quote isLong rest).map fun (body, behind) => (c :: body, behind)

def textBody (quote : Char) (rest : Chars) : Option (Chars × Chars) :=
  if rest.take 2 = [quote, quote] then quotedBody quote true (rest.drop 2)
  else quotedBody quote false rest

def namedEscape? : Option Char := match c with
  | '\\' | '\'' | '"' => some c
  | 'a' => some '\x07'
  | 'b' => some '\x08'
  | 'f' => some '\x0c'
  | 'n' => some '\n'
  | 'r' => some '\r'
  | 't' => some '\t'
  | 'v' => some '\x0b'
  | _ => none

def hexWidth? (isOctets : Bool) (c : Char) : Option Nat := match c with
  | 'x' => some 2
  | 'u' => if isOctets then none else some 4
  | 'U' => if isOctets then none else some 8
  | _ => none

def octalDigits : Chars := (text.takeWhile (isBaseDigit 8)).take 3

def hexCode? (width : Nat) (text : Chars) : Option Nat :=
  let digits := text.take width
  let code := baseNumeral 16 digits
  if digits.length = width && digits.all isHexDigit && code < 0x110000 then some code else none

/-- The codes that the body of a text stands for; nothing for a malformed escape.  Behind an
escape `skip` characters are left out. -/
def unescaped (isOctets : Bool) : (skip : Nat) -> Chars -> Option (List Nat)
  | _, [] => some []
  | skip + 1, _ :: rest => unescaped isOctets skip rest
  | 0, '\\' :: c :: rest =>
    let octal := octalDigits (c :: rest)
    if c = '\n' then unescaped isOctets 1 (c :: rest)
    else if !octal.isEmpty then
      (unescaped isOctets octal.length (c :: rest)).map (baseNumeral 8 octal :: ·)
    else
      match namedEscape? c, hexWidth? isOctets c with
      | some meant, _ => (unescaped isOctets 1 (c :: rest)).map (meant.toNat :: ·)
      | none, some width =>
        match hexCode? width rest with
        | some code => (unescaped isOctets (width + 1) (c :: rest)).map (code :: ·)
        | none => none
      | none, none =>
        if c = 'N' && !isOctets then none
        else (unescaped isOctets 0 (c :: rest)).map ('\\'.toNat :: ·)
  | 0, c :: rest => (unescaped isOctets 0 rest).map (c.toNat :: ·)

def codes? (kind : TextKind) (body : Chars) : Option (List Nat) :=
  if kind.isOctets && body.any (fun c => 128 <= c.toNat) then none
  else if kind.isRaw then some (body.map Char.toNat)
  else unescaped kind.isOctets 0 body

def bodyText? (isRaw : Bool) (body : Chars) : Option (List Text.Piece) :=
  (codes? { isRaw } body).map fun codes => codes.map Text.Piece.ofCode

def bodyOctets? (isRaw : Bool) (body : Chars) : Option (List Nat) :=
  (codes? { isRaw, isOctets := true } body).map fun codes => codes.map (· % 256)

def reserved : List String := [
  "False", "None", "True", "and", "as", "assert", "async", "await", "break", "class",
  "continue", "def", "del", "elif", "else", "except", "finally", "for", "from", "global", "if",
  "import", "in", "is", "lambda", "nonlocal", "not", "or", "pass", "raise", "return", "try",
  "while", "with", "yield"]

def isName : Bool := isIdentifier word.toList && word ∉ reserved

inductive Mark where
  | name (word : String)
  | keyword (word : String)
  | literal (value : Literal)
  | template (isRaw : Bool) (body : Chars)
  | symbol (text : String)
  | lineEnd
  | deeper
  | shallower
deriving DecidableEq

instance : Coe String Mark := ⟨.symbol⟩

def symbols : List String := [
  "**=", "//=", ">>=", "<<=", "...", "!=", "->", ":=", "**", "//", "<<", ">>", "<=", ">=", "==",
  "<>", "+=", "-=", "*=", "/=", "%=", "&=", "|=", "^=", "@=", "(", ")", "[", "]", "\x7b", "\x7d",
  ",", ".", "|", "+", "-", "*", "/", "%", "&", "^", "@", "~", "<", ">", "=", ":", ";"]

def opens (symbol : String) : Bool := symbol ∈ ["(", "[", "\x7b"]
def closes (symbol : String) : Bool := symbol ∈ [")", "]", "\x7d"]

def withLineEnds : Chars -> Chars
  | '\r' :: '\n' :: rest => '\n' :: withLineEnds rest
  | '\r' :: rest => '\n' :: withLineEnds rest
  | c :: rest => c :: withLineEnds rest
  | [] => []

def isBlank : Bool := c == ' ' || c == '\t' || c == '\x0c'
def skipComment : Chars := text.dropWhile (· ≠ '\n')

def indentation (column : Nat) : Chars -> Nat × Chars
  | ' ' :: rest => indentation (column + 1) rest
  | '\t' :: rest => indentation ((column / 8 + 1) * 8) rest
  | '\x0c' :: rest => indentation 0 rest
  | text => (column, text)

def lineStart : Nat -> Chars -> Option Chars
  | 0, _ => none
  | fuel + 1, text =>
    match indentation 0 text with
    | (_, '\n' :: rest) => lineStart fuel rest
    | (_, '#' :: rest) =>
      match skipComment rest with
      | '\n' :: rest => lineStart fuel rest
      | _ => some []
    | (column, rest) => if column = 0 then some rest else none

def wordMark? (word : Chars) : Option Mark := if !isIdentifier word then none
  else if String.ofList word ∈ reserved then some (.keyword (String.ofList word))
  else some (.name (String.ofList (compatibilityForm word)))

def textMark? (kind : TextKind) (body : Chars) : Option Mark :=
  if kind.isTemplate then some (.template kind.isRaw body)
  else if kind.isOctets then (bodyOctets? kind.isRaw body).map fun bytes => .literal (.octets bytes)
  else (bodyText? kind.isRaw body).map fun pieces => .literal (.text pieces)

def textStart? : Option (TextKind × Char × Chars) :=
  let letters := text.takeWhile Char.isAlpha
  match text.drop letters.length with
  | quote :: rest =>
    if quote = '\'' || quote = '"' then (textKind? letters).map fun kind => (kind, quote, rest)
    else none
  | [] => none

def nextMark? : Option (Mark × Chars) := match textStart? text, text with
  | some (kind, quote, rest), _ => do
    let (body, behind) <- textBody quote rest
    return (<- textMark? kind body, behind)
  | none, c :: rest =>
    if c.isDigit || (c = '.' && (rest.head?.map Char.isDigit).getD false) then
      (number? text).map fun (value, behind) => (.literal value, behind)
    else if mayBeInName c then do
      return (<- wordMark? (text.takeWhile mayBeInName), text.dropWhile mayBeInName)
    else
      (symbols.find? fun symbol => beginsWith symbol text).map fun symbol =>
        (.symbol symbol, text.drop symbol.length)
  | none, [] => none

def marksWithin : Nat -> (depth : Nat) -> Chars -> Option (List Mark)
  | _, _, [] => some []
  | 0, _, _ => none
  | fuel + 1, depth, c :: rest =>
    if c = '\n' then
      if depth ≠ 0 then marksWithin fuel depth rest
      else do
        let marks <- marksWithin fuel depth (<- lineStart (rest.length + 1) rest)
        return Mark.lineEnd :: marks
    else if isBlank c then marksWithin fuel depth rest
    else if c = '#' then marksWithin fuel depth (skipComment rest)
    else if c = '\\' then
      match rest with
      | '\n' :: behind => if behind.isEmpty then none else marksWithin fuel depth behind
      | _ => none
    else do
      let (mark, behind) <- nextMark? (c :: rest)
      let inner := match mark with
        | .symbol symbol =>
          if opens symbol then depth + 1 else if closes symbol then depth - 1 else depth
        | _ => depth
      return mark :: (<- marksWithin fuel inner behind)

def marks? : Option (List Mark) := do
  let lines := withLineEnds text
  marksWithin (lines.length + 1) 0 (<- lineStart (lines.length + 1) lines)

abbrev Reading := StateT (List Mark) Option

namespace Reading
def reads (mark : Mark) : Reading Bool := fun marks =>
  if marks.head? = some mark then some (true, marks.tail) else some (false, marks)

def require (mark : Mark) : Reading Unit := do
  if !(<- reads mark) then failure

def next? : Reading (Option Mark) := fun marks => some (marks.head?, marks)
def nextTwo : Reading (List Mark) := fun marks => some (marks.take 2, marks)

def any : Reading Mark := fun marks =>
  match marks with
  | mark :: rest => some (mark, rest)
  | [] => none

def name : Reading String := do
  let .name word <- any | failure
  return word
end Reading

open Reading (reads require next? nextTwo any name)

def isAssignable : Bool := word ≠ "__debug__"

def binaryLevels : List (List (String × BinaryOp)) := [ [("|", .bar)], [("^", .caret)],
  [("&", .ampersand)],
  [("<<", .shiftLeft), (">>", .shiftRight)],
  [("+", .add), ("-", .subtract)],
  [("*", .multiply), ("/", .divide), ("//", .floorDivide), ("%", .remainder),
    ("@", .matrixMultiply)]]

def unaryOperators : List (String × UnaryOp) := [("+", .plus), ("-", .minus), ("~", .invert)]

def operator? {α : Type} (level : List (String × α)) : Reading (Option α) := do
  let some (.symbol text) <- next? | return none
  let some found := level.lookup text | return none
  do
  discard any
  return some found

def comparisons : List (String × Comparison) := [
  ("==", .equal), ("!=", .unequal), ("<", .less), ("<=", .atMost), (">", .greater),
  (">=", .atLeast)]

def comparison? : Reading (Option Comparison) := do
  match <- nextTwo with
  | [.keyword "not", .keyword "in"] => do
    discard any
    discard any
    return some .outside
  | .keyword "in" :: _ => do
    discard any
    return some .within
  | .keyword "is" :: _ => do
    discard any
    return some (if <- reads (.keyword "not") then .distinct else .identical)
  | _ => operator? comparisons

inductive ArgumentStage where
  | plain
  | named
  | entries
deriving DecidableEq

def ArgumentStage.behind? (stage : ArgumentStage) : Expr -> Option ArgumentStage
  | .named _ _ => some (if stage = .plain then .named else stage)
  | .spread _ => if stage = .entries then none else some stage
  | .spreadEntries _ => some .entries
  | _ => if stage = .plain then some .plain else none

def argumentName? : Expr -> Option String
  | .named word _ => some word
  | _ => none

def areArguments (args : List Expr) : Bool :=
  let names := args.filterMap argumentName?
  ((args.foldlM ArgumentStage.behind? ArgumentStage.plain).isSome) &&
    decide names.Nodup && names.all isAssignable

def areParameters (params : List (ParamKind × String × Option Expr)) : Bool :=
  let names := params.map fun (_, word, _) => word
  let positional := params.filter fun (kind, _, _) => kind = .positional || kind = .either
  let defaults := positional.map fun (_, _, default?) => default?.isSome
  decide names.Nodup && names.all isAssignable && (defaults.dropWhile (! ·)).all id

def fieldEnd (quote? : Option (Char × Bool)) (brackets : Chars) :
    (skip : Nat) -> Chars -> Option (Chars × Chars)
  | _, [] => none
  | skip + 1, c :: rest =>
    (fieldEnd quote? brackets skip rest).map fun (inner, behind) => (c :: inner, behind)
  | 0, c :: rest =>
    let goesOn (quote? : Option (Char × Bool)) (brackets : Chars) (skip : Nat) :=
      (fieldEnd quote? brackets skip rest).map fun (inner, behind) => (c :: inner, behind)
    if c = '\\' then none
    else match quote? with
    | some (quote, isLong) =>
      if c ≠ quote then goesOn quote? brackets 0
      else if !isLong then goesOn none brackets 0
      else if rest.take 2 = [quote, quote] then goesOn none brackets 2
      else goesOn quote? brackets 0
    | none =>
      if c = '\'' || c = '"' then
        if rest.take 2 = [c, c] then goesOn (some (c, true)) brackets 2
        else goesOn (some (c, false)) brackets 0
      else if c ∈ ['(', '[', '\x7b'] then goesOn none (c :: brackets) 0
      else if c = '#' then none
      else if brackets.isEmpty && c ∈ ['!', ':', '\x7d', '=', '<', '>'] then
        if c ∈ ['!', '=', '<', '>'] && rest.head? = some '=' then goesOn none brackets 1
        else if c ∈ ['<', '>'] then goesOn none brackets 0
        else some ([], c :: rest)
      else if c ∈ [')', ']', '\x7d'] then
        match brackets with
        | [] => none
        | open_ :: outer =>
          if (open_, c) ∈ [('(', ')'), ('[', ']'), ('\x7b', '\x7d')] then goesOn none outer 0
          else none
      else goesOn none brackets 0

def plainPart (isFormat : Bool) : Chars -> Option (Chars × Chars)
  | [] => some ([], [])
  | '\x7b' :: '\x7b' :: rest =>
    if isFormat then some ([], '\x7b' :: '\x7b' :: rest)
    else (plainPart isFormat rest).map fun (text, behind) => ('\x7b' :: text, behind)
  | '\x7d' :: '\x7d' :: rest =>
    if isFormat then some ([], '\x7d' :: '\x7d' :: rest)
    else (plainPart isFormat rest).map fun (text, behind) => ('\x7d' :: text, behind)
  | '\x7b' :: rest => some ([], '\x7b' :: rest)
  | '\x7d' :: rest => if isFormat then some ([], '\x7d' :: rest) else none
  | c :: rest => (plainPart isFormat rest).map fun (text, behind) => (c :: text, behind)

def conversion? : Chars -> Option (Option Char × Chars)
  | '!' :: c :: rest => if c ∈ ['s', 'r', 'a'] then some (some c, rest) else none
  | '!' :: [] => none
  | text => some (none, text)

def showSign : Chars × Chars := match text with
  | '=' :: rest =>
    let blanks := rest.takeWhile fun c => isBlank c || c = '\n' || c = '\r' || c = '\x0b'
    ('=' :: blanks, rest.drop blanks.length)
  | _ => ([], text)

mutual
def asTarget? : Expr -> Option Expr
  | .name word => if isAssignable word then some (.name word) else none
  | .member owner word => some (.member owner word)
  | .subscript base index => some (.subscript base index)
  | .row items | .list items => (asTargets? items).map .row
  | _ => none

def asTargets? : List Expr -> Option (List Expr)
  | [] => some []
  | .spread inner :: rest => do
    return .spread (<- asTarget? inner) :: (<- asTargets? rest)
  | first :: rest => do
    return (<- asTarget? first) :: (<- asTargets? rest)

end

def formatDepth : Nat := 2

namespace Reading

def items {α : Type} (close : String) (item : Reading α) : Nat -> Reading (List α × Bool)
  | 0 => failure
  | fuel + 1 => do
    if <- reads close then return ([], false)
    let first <- item
    if <- reads "," then
      let (others, hasComma) <- items close item fuel
      return (first :: others, others.isEmpty || hasComma)
    require close
    return ([first], false)

def parametersFrom (close : String) (hint : Reading (Option Expr))
    (value : Reading Expr) : Nat -> ParamKind ->
    Reading (List ((ParamKind × String × Option Expr) × Option Expr))
  | 0, _ => failure
  | fuel + 1, kind => do
    let closed : Reading Bool := return (<- next?) = some (.symbol close)
    let isLast : Reading Bool := do
      if <- reads "," then return false
      if <- closed then return true else failure
    if <- closed then return []
    if <- reads "**" then
      let word <- name
      let hint? <- hint
      discard (reads ",")
      if <- closed then return [((.namedRest, word, none), hint?)] else failure
    if <- reads "*" then
      if kind = .named then failure
      if <- reads "," then
        let some (.name _) <- next? | failure
        parametersFrom close hint value fuel .named
      else
        let word <- name
        let hint? <- hint
        discard isLast
        return ((.rest, word, none), hint?) :: (<- parametersFrom close hint value fuel .named)
    else
      let word <- name
      let hint? <- hint
      let default? <- if <- reads "=" then some <$> value else pure none
      let isDivided <- if !(<- isLast) && kind = .positional then reads "/" else pure false
      if isDivided then discard isLast
      let rest <- parametersFrom close hint value fuel (if isDivided then .either else kind)
      return ((if kind = .named then .named else .either, word, default?), hint?) :: rest

def parameterList (close : String) (hint : Reading (Option Expr))
    (value : Reading Expr) (fuel : Nat) :
    Reading (List ((ParamKind × String × Option Expr) × Option Expr)) := do
  let found <- parametersFrom close hint value fuel .positional
  if areParameters (found.map Prod.fst) then return found else failure

/-- What follows the first item of a display: clauses, other items, or nothing. -/
def display (close : String) (kind : LoopKind) (row : List Expr -> Expr)
    (clauses : Reading (List (Expr × Expr × List Expr))) (item : Reading Expr) (fuel : Nat)
    (first : Expr) (alone : Reading Expr := return row [first]) : Reading Expr := do
  let found <- if first matches .spread _ then pure [] else clauses
  if !found.isEmpty then
    require close
    return .loop kind [first] found
  if <- reads "," then
    let (others, _) <- items close item fuel
    return row (first :: others)
  require close
  alone

def octets : List Nat -> Reading Expr := fun bytes marks =>
  let adjoining := marks.takeWhile fun mark => mark matches .literal (.octets _)
  let behind := marks.drop adjoining.length
  let others := adjoining.flatMap fun mark => match mark with
    | .literal (.octets more) => more
    | _ => []
  match behind.head? with
  | some (.literal (.text _)) | some (.template _ _) => none
  | _ => some (.literal (.octets (bytes ++ others)), behind)

def joinedText : List Expr -> Expr
  | parts =>
    let literal? := parts.mapM fun part => match part with
      | .literal (.text pieces) => some pieces
      | _ => none
    match literal? with
    | some pieces => .literal (.text pieces.flatten)
    | none => .joined parts

mutual
def test : Nat -> Reading Expr
  | 0 => failure
  | fuel + 1 => do
    if <- reads (.keyword "lambda") then
      let params <- parameterList ":" (pure none) (test fuel) fuel
      require ":"
      return .fn (params.map Prod.fst) (<- test fuel)
    let first <- disjunction fuel
    if <- reads (.keyword "if") then
      let condition <- disjunction fuel
      require (.keyword "else")
      return .choice condition first (<- test fuel)
    return first

def namedTest : Nat -> Reading Expr
  | 0 => failure
  | fuel + 1 => do
    match <- nextTwo with
    | [.name word, .symbol ":="] => do
      discard any
      discard any
      if !isAssignable word then failure
      return .assign word (<- test fuel)
    | _ => test fuel

def disjunction : Nat -> Reading Expr
  | 0 => failure
  | fuel + 1 => do
    let first <- conjunction fuel
    if <- reads (.keyword "or") then return .either first (<- disjunction fuel)
    return first

def conjunction : Nat -> Reading Expr
  | 0 => failure
  | fuel + 1 => do
    let first <- inversion fuel
    if <- reads (.keyword "and") then return .both first (<- conjunction fuel)
    return first

def inversion : Nat -> Reading Expr
  | 0 => failure
  | fuel + 1 => do
    if <- reads (.keyword "not") then return .unary .negate (<- inversion fuel)
    let first <- binary fuel binaryLevels
    match <- comparedOthers fuel with
    | [] => return first
    | others => return .comparison first others

def comparedOthers : Nat -> Reading (List (Comparison × Expr))
  | 0 => failure
  | fuel + 1 => do
    let some how <- comparison? | return []
    let second <- binary fuel binaryLevels
    return (how, second) :: (<- comparedOthers fuel)

def binary : Nat -> List (List (String × BinaryOp)) -> Reading Expr
  | 0, _ => failure
  | fuel + 1, [] => factor fuel
  | fuel + 1, level :: stronger => do
    let first <- binary fuel stronger
    binaryOthers fuel level stronger first

def binaryOthers : Nat -> List (String × BinaryOp) ->
    List (List (String × BinaryOp)) -> Expr -> Reading Expr
  | 0, _, _, _ => failure
  | fuel + 1, level, stronger, first => do
    let some op <- operator? level | return first
    let second <- binary fuel stronger
    binaryOthers fuel level stronger (.binary op first second)

def factor : Nat -> Reading Expr
  | 0 => failure
  | fuel + 1 => do
    match <- operator? unaryOperators with
    | some op => return .unary op (<- factor fuel)
    | none =>
      let base <- trailers fuel (<- atom fuel)
      if <- reads "**" then return .binary .power base (<- factor fuel)
      return base

def trailers : Nat -> Expr -> Reading Expr
  | 0, _ => failure
  | fuel + 1, first => do
    if <- reads "." then
      trailers fuel (.member first (<- name))
    else if <- reads "[" then
      let (items, hasComma) <- items "]" (sliceItem fuel) fuel
      match items, hasComma with
      | [], _ => failure
      | [.spread inner], _ => trailers fuel (.subscript first (.row [.spread inner]))
      | [alone], false => trailers fuel (.subscript first alone)
      | items, _ => trailers fuel (.subscript first (.row items))
    else if <- reads "(" then
      let (found, hasComma) <- items ")" (argument fuel) fuel
      let args := found.map Prod.fst
      let hasOpenLoop := found.any Prod.snd
      if hasOpenLoop && (args.length ≠ 1 || hasComma) then failure
      else if areArguments args then trailers fuel (.call first args)
      else failure
    else return first

def sliceItem : Nat -> Reading Expr
  | 0 => failure
  | fuel + 1 => do
    if <- reads "*" then return .spread (<- binary fuel binaryLevels)
    let isGiven := (<- nextTwo) matches [.name _, .symbol ":="]
    let start? <- if (<- next?) = some (.symbol ":") then pure none else some <$> namedTest fuel
    if !(<- reads ":") then
      let some start := start? | failure
      return start
    if isGiven then failure
    let stop? <- sliceBound fuel
    let step? <- if <- reads ":" then sliceBound fuel else pure none
    return .slice start? stop? step?

def sliceBound : Nat -> Reading (Option Expr)
  | 0 => failure
  | fuel + 1 => do
    match <- next? with
    | some (.symbol ":") | some (.symbol ",") | some (.symbol "]") => return none
    | _ => return some (<- test fuel)

def argument : Nat -> Reading (Expr × Bool)
  | 0 => failure
  | fuel + 1 => do
    if <- reads "*" then return (.spread (<- test fuel), false)
    if <- reads "**" then return (.spreadEntries (<- test fuel), false)
    match <- nextTwo with
    | [.name word, .symbol "="] => do
      discard any
      discard any
      return (.named word (<- test fuel), false)
    | _ =>
      let value <- namedTest fuel
      match <- clauses fuel with
      | [] => return (value, false)
      | found => return (.loop .stream [value] found, true)

def atom : Nat -> Reading Expr
  | 0 => failure
  | fuel + 1 => do
    match <- any with
    | .name word => return .name word
    | .keyword "None" => return .literal .nothing
    | .keyword "True" => return .literal (.truth true)
    | .keyword "False" => return .literal (.truth false)
    | .symbol "..." => return .literal .dots
    | .literal (.octets bytes) => octets bytes
    | .literal (.text pieces) => do
      let others <- textParts fuel
      return joinedText (.literal (.text pieces) :: others)
    | .template isRaw body => do
      let parts <- templateParts fuel formatDepth isRaw body
      let others <- textParts fuel
      return .joined (parts.1 ++ others)
    | .literal value => return .literal value
    | .symbol "(" => group fuel
    | .symbol "[" => squareDisplay fuel
    | .symbol "\x7b" => curlyDisplay fuel
    | _ => failure

def displayItem : Nat -> Reading Expr
  | 0 => failure
  | fuel + 1 => do
    if <- reads "*" then return .spread (<- binary fuel binaryLevels)
    namedTest fuel

def yielded : Nat -> Reading Expr
  | 0 => failure
  | fuel + 1 => do
    if <- reads ")" then return .yield none
    if <- reads (.keyword "from") then
      let source <- test fuel
      require ")"
      return .yieldFrom source
    let item : Reading Expr := do
      if <- reads "*" then return .spread (<- binary fuel binaryLevels)
      test fuel
    let (found, hasComma) <- items ")" item fuel
    match found, hasComma with
    | [.spread _], false => failure
    | [alone], false => return .yield (some alone)
    | several, _ => return .yield (some (.row several))

def group : Nat -> Reading Expr
  | 0 => failure
  | fuel + 1 => do
    if <- reads ")" then return .row []
    if <- reads (.keyword "yield") then yielded fuel
    else
    let first <- displayItem fuel
    display ")" .stream .row (clauses fuel) (displayItem fuel) fuel first do
      if first matches .spread _ then failure
      return first

def squareDisplay : Nat -> Reading Expr
  | 0 => failure
  | fuel + 1 => do
    if <- reads "]" then return .list []
    display "]" .list .list (clauses fuel) (displayItem fuel) fuel (<- displayItem fuel)

def curlyDisplay : Nat -> Reading Expr
  | 0 => failure
  | fuel + 1 => do
    if <- reads "\x7d" then return .dict []
    if <- reads "**" then
      let first <- binary fuel binaryLevels
      return .dict ((.spreadEntries first, .literal .nothing) :: (<- otherEntries fuel))
    let isGiven := (<- nextTwo) matches [.name _, .symbol ":="]
    let first <- displayItem fuel
    if !(first matches .spread _) then
      if <- reads ":" then
        if isGiven then failure
        let value <- test fuel
        match <- clauses fuel with
        | [] => return .dict ((first, value) :: (<- otherEntries fuel))
        | found => do
          require "\x7d"
          return .loop .dict [first, value] found
    display "\x7d" .set .set (clauses fuel) (displayItem fuel) fuel first

def otherEntries : Nat -> Reading (List (Expr × Expr))
  | 0 => failure
  | fuel + 1 => do
    if <- reads "\x7d" then return []
    require ","
    if <- reads "\x7d" then return []
    if <- reads "**" then
      let first <- binary fuel binaryLevels
      return (.spreadEntries first, .literal .nothing) :: (<- otherEntries fuel)
    let key <- test fuel
    require ":"
    let value <- test fuel
    return (key, value) :: (<- otherEntries fuel)

def clauses : Nat -> Reading (List (Expr × Expr × List Expr))
  | 0 => failure
  | fuel + 1 => do
    if !(<- reads (.keyword "for")) then return []
    let target <- targets fuel
    require (.keyword "in")
    let source <- disjunction fuel
    let conditions <- conditions fuel
    return (target, source, conditions) :: (<- clauses fuel)

def conditions : Nat -> Reading (List Expr)
  | 0 => failure
  | fuel + 1 => do
    if !(<- reads (.keyword "if")) then return []
    let first <- disjunction fuel
    return first :: (<- conditions fuel)

def targets : Nat -> Reading Expr
  | 0 => failure
  | fuel + 1 => do
    let first <- target fuel
    if !(<- reads ",") then
      if first matches .spread _ then failure
      return first
    return .row (first :: (<- otherTargets fuel))

def otherTargets : Nat -> Reading (List Expr)
  | 0 => failure
  | fuel + 1 => do
    match <- next? with
    | some (.keyword "in") | some (.symbol ")") | some (.symbol "]") => return []
    | _ =>
      let first <- target fuel
      if <- reads "," then return first :: (<- otherTargets fuel)
      return [first]

def target : Nat -> Reading Expr
  | 0 => failure
  | fuel + 1 => do
    if <- reads "*" then
      match <- target fuel with
      | .spread _ => failure
      | inner => return .spread inner
    let some found := asTarget? (<- trailers fuel (<- atom fuel)) | failure
    return found

def textParts : Nat -> Reading (List Expr)
  | 0 => failure
  | fuel + 1 => do
    match <- next? with
    | some (.literal (.text pieces)) => do
      discard any
      return .literal (.text pieces) :: (<- textParts fuel)
    | some (.template isRaw body) => do
      discard any
      let parts <- templateParts fuel formatDepth isRaw body
      return .joined parts.1 :: (<- textParts fuel)
    | some (.literal (.octets _)) => failure
    | _ => return []

/-- The parts of a text with values in it, and what follows them; `depth` bounds how deep
formats may stand in formats. -/
def templateParts : Nat -> (depth : Nat) -> (isRaw : Bool) -> Chars ->
    Reading (List Expr × Chars)
  | 0, _, _, _ => failure
  | fuel + 1, depth, isRaw, text => do
    let some (plain, behind) := plainPart (depth ≠ formatDepth) text | failure
    let some pieces := bodyText? isRaw plain | failure
    let first := if pieces.isEmpty then [] else [Expr.literal (.text pieces)]
    match behind with
    | '\x7b' :: inner => do
      let (parts, rest) <- templateField fuel depth isRaw inner
      let (others, rest) <- templateParts fuel depth isRaw rest
      return (first ++ parts ++ others, rest)
    | rest => return (first, rest)

def templateField : Nat -> (depth : Nat) -> (isRaw : Bool) -> Chars ->
    Reading (List Expr × Chars)
  | 0, _, _, _ | _, 0, _, _ => failure
  | fuel + 1, depth + 1, isRaw, text => do
    let some (inner, behind) := fieldEnd none [] 0 text | failure
    let some marks := marksWithin (inner.length + 1) 1 (withLineEnds inner) | failure
    let value <- StateT.lift (templateValue fuel marks)
    let (sign, behind) := showSign behind
    let some (conversion?, behind) := conversion? behind | failure
    let (format, behind) <- match behind with
      | ':' :: rest => templateParts fuel depth isRaw rest
      | _ => pure ([], behind)
    let '\x7d' :: rest := behind | failure
    let isShown := !sign.isEmpty
    let conversion? := if isShown && conversion?.isNone && format.isEmpty then some 'r'
      else conversion?
    let shown := if isShown then
        [Expr.literal (.text (pieces (inner ++ sign)))]
      else []
    return (shown ++ [.formatted value conversion? format], rest)

def templateValue : Nat -> List Mark -> Option Expr
  | 0, _ => none
  | fuel + 1, marks =>
    match (group fuel).run (marks ++ [.symbol ")"]) with
    | some (value, []) => if marks.isEmpty then none else some value
    | _ => none

end

def wholeItems : Nat -> Reading (List Expr × Bool)
  | 0 => failure
  | fuel + 1 => do
    let first <- test fuel
    if !(<- reads ",") then return ([first], false)
    match <- next? with
    | none | some .lineEnd => return ([first], true)
    | _ => do
      let (others, _) <- wholeItems fuel
      return (first :: others, true)

end Reading

def ofMarks? (marks : List Mark) : Option Expr :=
  match (Reading.wholeItems (40 * (marks.length + 1))).run marks with
  | some ((items, hasComma), rest) =>
    if rest.any (· ≠ .lineEnd) then none
    else match items, hasComma with
      | [alone], false => some alone
      | items, _ => some (.row items)
  | none => none

def read (text : String) : Except Fault Expr := match text.toList with
  | [] => .error .empty
  | first :: rest =>
    if text.toList.contains '\x00' then .error .nullCharacter
    else
      let whole := if first = '*' then '(' :: first :: rest ++ ",)[0]".toList else first :: rest
      match marks? whole >>= ofMarks? with
      | none => .error .malformed
      | some expr => .ok expr
end RouteDocs.Class.Expr
