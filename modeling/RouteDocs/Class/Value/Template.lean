import RouteDocs.Class.Value.Format

/-! # Texts with places for values -/

namespace RouteDocs.Class
open Text
structure PercentPlace where
  key? : Option Chars := none
  isLeft : Bool := false
  hasPlus : Bool := false
  hasBlank : Bool := false
  isAlternate : Bool := false
  hasZeros : Bool := false
  width : Nat := 0
  precision? : Option Nat := none

namespace PercentPlace
structure Supply where
  given : Hint
  rest : List Hint

def next (supply : Supply) : Tried (Hint × Supply) := match supply.rest with
  | value :: rest => .ok (value, { supply with rest })
  | [] => .error .misfit

def isMapping : Hint -> Bool
  | .dict _ | .proxy _ | .list _ | .octets _ | .octetList _ | .range .. | .generic ..
  | .form _ | .formOf .. | .union _ | .bars _ => true
  | _ => false

structure Style where
  write : PercentPlace -> Char -> Nat -> Hint -> Tried (List Piece)
  key : Chars -> Hint
  isMapping : Hint -> Bool
  precisionMessage : String

def Supply.of (given : Hint) : Supply := match given with
  | .row items => ⟨given, items⟩
  | _ => ⟨given, [given]⟩

def keyText : (depth : Nat) -> Chars -> Option (Chars × Chars)
  | _, [] => none
  | depth, c :: rest =>
    if c = ')' && depth = 0 then some ([], rest)
    else
      let inner := if c = '(' then depth + 1 else if c = ')' then depth - 1 else depth
      (keyText inner rest).map fun (key, behind) => (c :: key, behind)

def withFlags (place : PercentPlace) : Chars -> PercentPlace × Chars
  | '-' :: rest => withFlags { place with isLeft := true } rest
  | '+' :: rest => withFlags { place with hasPlus := true } rest
  | ' ' :: rest => withFlags { place with hasBlank := true } rest
  | '#' :: rest => withFlags { place with isAlternate := true } rest
  | '0' :: rest => withFlags { place with hasZeros := true } rest
  | rest => (place, rest)

def measure (message : String) (limit : Nat) (supply : Supply) (text : Chars) :
    Tried (Option Int × Supply × Chars) :=
  match text with
  | '*' :: rest => do
    let (value, supply) <- next supply
    let some n := value.int? | misfit
    if limit <= n.natAbs then throw .outOfRange
    return (some n, supply, rest)
  | _ =>
    let digits := text.takeWhile Char.isDigit
    if limit <= numeral digits then .error (.badValue message)
    else .ok (if digits.isEmpty then none else some (numeral digits), supply,
      text.drop digits.length)

def padded (precision? : Option Nat) (digits : Chars) : Chars :=
  fillLeft '0' (precision?.getD 0) digits

variable (place : PercentPlace)

def signed (isNegative : Bool) (mark body : Chars) : Chars :=
  let sign := if isNegative then ['-'] else if place.hasPlus then ['+']
    else if place.hasBlank then [' '] else []
  let missing := place.width - (sign.length + mark.length + body.length)
  if place.isLeft then sign ++ mark ++ body ++ List.replicate missing ' '
  else if place.hasZeros then sign ++ mark ++ List.replicate missing '0' ++ body
  else List.replicate missing ' ' ++ sign ++ mark ++ body

def filled (pieces : List Piece) : List Piece :=
  let kept := match place.precision? with
    | some count => pieces.take count
    | none => pieces
  if place.isLeft then fillRight (.char ' ') place.width kept
  else fillLeft (.char ' ') place.width kept

/-- A value as a whole number; one that is not whole is cut if `isCut`. -/
def wholeOf (isCut : Bool) (value : Hint) : Tried Int := match value, value.int? with
  | _, some n => .ok n
  | .real number, none =>
    if !isCut then .error .misfit
    else match number, number.truncated? with
      | _, some n => .ok n
      | .undefined, none => .error (.badValue "cannot convert float NaN to integer")
      | _, none => .error .outOfRange
  | _, none => .error .misfit

variable (letter : Char) (value : Hint)

def whole : Tried Chars := do
  let isDecimal := letter ∈ ['d', 'i', 'u']
  let n <- wholeOf isDecimal value
  if isDecimal && Hint.isLongNumber n then
    throw (.badValue DigitOverflow.written.message)
  let (base, mark) := Format.baseOf letter
  let digits := padded place.precision? (Nat.toDigits base n.natAbs)
  let digits := if letter = 'X' then digits.map Char.toUpper else digits
  return place.signed (n < 0) (if place.isAlternate then mark else []) digits

def real : Tried Chars := do
  let some found := value.asReal? | misfit
  let number <- found
  let text := Format.realText (some letter) place.precision? place.isAlternate number
  return place.signed number.isNegative [] (Format.inTypeCase (some letter) text)

def letterOf : Tried (List Piece) := match value, value.int? with
  | .text [piece], _ => .ok [piece]
  | .text _, _ => .error .misfit
  | _, some n =>
    if 0 <= n && n < 0x110000 then .ok [Piece.ofCode n.toNat] else .error .outOfRange
  | _, none => .error .misfit

def write (at_ : Nat) (value : Hint) : Tried (List Piece) := do
  match letter with
  | 's' => return place.filled (<- value.asText)
  | 'r' => return place.filled (<- value.shownText)
  | 'a' => return place.filled (<- value.plainText)
  | 'd' | 'i' | 'u' | 'o' | 'x' | 'X' => return pieces (<- place.whole letter value)
  | 'e' | 'E' | 'f' | 'F' | 'g' | 'G' => return pieces (<- place.real letter value)
  | 'c' => return { place with precision? := none }.filled (<- letterOf value)
  | _ =>
    let shown := String.ofList [if 31 <= letter.toNat && letter.toNat <= 126 then letter else '?']
    let code := String.ofList (Nat.toDigits 16 letter.toNat)
    throw (.badValue s!"unsupported format character '{shown}' (0x{code}) at index {at_}")

def keyed (style : Style) (supply : Supply) (text : Chars) : Tried (Option Hint × Chars) :=
  match text with
  | '(' :: rest => do
    if !style.isMapping supply.given then misfit
    let some (key, behind) := keyText 0 rest | throw (.badValue "incomplete format key")
    return (some (<- supply.given.subscript (style.key key)), behind)
  | _ => .ok (none, text)

/-- A place behind its percent sign, with what is put there, what is left of the values, and
what follows. `size` is the length of the whole text. -/
def fill (style : Style) (size : Nat) (supply : Supply) (text : Chars) :
    Tried (List Piece × Supply × Chars) := do
  let (value?, rest) <- keyed style supply text
  let own := match value? with
    | some value => Supply.mk supply.given [value]
    | none => supply
  let (place, rest) := withFlags {} rest
  let (width?, own, rest) <- measure "width too big" Hint.placeLimit own rest
  let width := width?.getD 0
  let place := { place with isLeft := place.isLeft || width < 0, width := width.natAbs }
  let (place, own, rest) <- match rest with
    | '.' :: behind => do
      let (precision?, own, rest) <- measure style.precisionMessage (Nat.pow 2 31) own behind
      pure ({ place with precision? := some (precision?.getD 0).toNat }, own, rest)
    | _ => pure (place, own, rest)
  let rest := match rest with
    | c :: behind => if c ∈ ['h', 'l', 'L'] then behind else rest
    | [] => []
  if Hint.sizeBound < place.width || Hint.sizeBound < place.precision?.getD 0 then
    throw .tooLarge
  match rest with
  | [] => throw (.badValue "incomplete format")
  | '%' :: behind => return ([.char '%'], if value?.isSome then supply else own, behind)
  | letter :: behind =>
    let (value, own) <- next own
    let pieces <- style.write place letter (size - behind.length - 1) value
    return (pieces, if value?.isSome then { supply with rest := [] } else own, behind)

def fillAll (style : Style) (size : Nat) : Nat -> Supply -> Chars -> Tried (List Piece)
  | 0, _, _ => .ok []
  | fuel + 1, supply, text =>
    match text with
    | [] =>
      if !supply.rest.isEmpty && !style.isMapping supply.given then .error .misfit else .ok []
    | '%' :: rest => do
      let (pieces, supply, behind) <- fill style size supply rest
      return pieces ++ (<- fillAll style size fuel supply behind)
    | c :: rest => do return .char c :: (<- fillAll style size fuel supply rest)

def textStyle : Style where
  write := write
  key := .ofChars
  isMapping := isMapping
  precisionMessage := "precision too big"

def fillText (text : Chars) (given : Hint) : Tried (List Piece) :=
  fillAll textStyle text.length (text.length + 1) (Supply.of given) text

/-! ### Bytes -/

def octetChars (bytes : List Nat) : Chars := bytes.map Char.ofNat

def octetOf : Tried (List Piece) := match value, value.int? with
  | .octets [byte], _ | .octetList [byte], _ => .ok [.char (Char.ofNat byte)]
  | _, some n =>
    if 0 <= n && n < 256 then .ok [.char (Char.ofNat n.toNat)] else .error .outOfRange
  | _, none => .error .misfit

def writeOctets (at_ : Nat) (value : Hint) : Tried (List Piece) := do
  match letter with
  | 's' | 'b' =>
    match value with
    | .octets bytes | .octetList bytes => return place.filled (pieces (octetChars bytes))
    | _ => misfit
  | 'r' | 'a' => return place.filled (<- value.plainText)
  | 'c' => return { place with precision? := none }.filled (<- octetOf value)
  | _ => place.write letter at_ value

def octetStyle : Style where
  write := writeOctets
  key := fun key => .octets (key.map Char.toNat)
  isMapping := fun given => isMapping given && !(given matches .octets _ | .octetList _)
  precisionMessage := "prec too big"

def fillOctets (bytes : List Nat) (given : Hint) : Tried (List Nat) := do
  let text := octetChars bytes
  let pieces <- fillAll octetStyle text.length (text.length + 1) (Supply.of given) text
  return pieces.map Hint.pieceCode
end PercentPlace

structure BracePlace where
  name : Chars
  conversion? : Option Char := none
  format : Chars := []

namespace BracePlace
def refuse {α : Type} (message : String) : Tried α := .error (.badValue message)

def literalPart : Chars -> Chars × Option Char × Chars
  | [] => ([], none, [])
  | c :: rest =>
    if c = '\x7b' || c = '\x7d' then ([], some c, rest)
    else
      let (before, brace?, behind) := literalPart rest
      (c :: before, brace?, behind)

def nameText (inBrackets : Bool) : Chars -> Tried (Chars × Option Char × Chars)
  | [] => .ok ([], none, [])
  | c :: rest =>
    let goesOn (inBrackets : Bool) : Tried (Chars × Option Char × Chars) := do
      let (name, ending?, behind) <- nameText inBrackets rest
      return (c :: name, ending?, behind)
    if inBrackets then goesOn (c ≠ ']')
    else if c = '\x7b' then refuse "unexpected '\x7b' in field name"
    else if c = '[' then goesOn true
    else if c = '\x7d' || c = ':' || c = '!' then .ok ([], some c, rest)
    else goesOn false

def formatText : (depth : Nat) -> Chars -> Tried (Chars × Chars)
  | _, [] => refuse "unmatched '\x7b' in format spec"
  | depth, c :: rest =>
    if c = '\x7d' && depth = 0 then .ok ([], rest)
    else do
      let inner := if c = '\x7b' then depth + 1 else if c = '\x7d' then depth - 1 else depth
      let (format, behind) <- formatText inner rest
      return (c :: format, behind)

variable (text : Chars)

def read : Tried (BracePlace × Chars) := do
  let (name, ending?, rest) <- nameText false text
  match ending? with
  | some '\x7d' => return ({ name }, rest)
  | some ':' =>
    let (format, behind) <- formatText 0 rest
    return ({ name, format }, behind)
  | some '!' =>
    match rest with
    | [] => refuse "end of string while looking for conversion specifier"
    | [_] => refuse "unmatched '\x7b' in format spec"
    | letter :: '\x7d' :: behind => return ({ name, conversion? := some letter }, behind)
    | letter :: ':' :: behind =>
      let (format, behind) <- formatText 0 behind
      return ({ name, conversion? := some letter, format }, behind)
    | _ => refuse "expected ':' after conversion specifier"
  | _ => refuse "expected '\x7d' before end of string"

def nextPart : Tried (Chars × Option BracePlace × Chars) :=
  match literalPart text with
  | (before, none, _) => .ok (before, none, [])
  | (before, some brace, rest) =>
    if rest.head? = some brace then .ok (before ++ [brace], none, rest.tail)
    else if brace = '\x7d' then refuse "Single '\x7d' encountered in format string"
    else if rest.isEmpty then refuse "Single '\x7b' encountered in format string"
    else do
      let (place, behind) <- read rest
      return (before, some place, behind)

def index? (name : Chars) : Tried (Option Nat) :=
  if name.isEmpty || !name.all isDigit then .ok none
  else if Hint.placeLimit <= numeral name then
    refuse "Too many decimal digits in format string"
  else .ok (some (numeral name))

def split (name : Chars) : Chars × Chars :=
  let isEnd (c : Char) : Bool := c = '.' || c = '['
  (name.takeWhile (! isEnd ·), name.dropWhile (! isEnd ·))

inductive Step where
  | member (name : Chars)
  | item (key : Chars) (index? : Option Nat)

def nextStep : Tried (Step × Chars) := do
  match text with
  | '.' :: rest =>
    let (name, behind) := split rest
    if name.isEmpty then refuse "Empty attribute in format string"
    return (.member name, behind)
  | '[' :: rest =>
    match splitFirst ']' rest with
    | none => refuse "Missing ']' in format string"
    | some (key, behind) =>
      let index? <- index? key
      if key.isEmpty then refuse "Empty attribute in format string"
      return (.item key index?, behind)
  | _ => refuse "Only '.' or '[' may follow ']' in format field specifier"

inductive Numbering where
  | open_
  | counted (next : Nat)
  | given

def Numbering.next (numbering : Numbering) (name : Chars) : Tried (Option Nat × Numbering) := do
  match <- index? name with
  | some n =>
    let counted _ := numbering | return (some n, given)
    refuse ("cannot switch from automatic field numbering " ++ "to manual field specification")
  | none =>
    if !name.isEmpty then return (none, numbering)
    match numbering with
    | given =>
      refuse ("cannot switch from manual field specification " ++ "to automatic field numbering")
    | open_ => return (some 0, counted 1)
    | counted n => return (some n, counted (n + 1))

def unknownConversion (letter : Char) : HintFault :=
  let shown := if 32 < letter.toNat && letter.toNat < 127 then String.ofList [letter]
    else "\\x" ++ String.ofList (Nat.toDigits 16 letter.toNat)
  .badValue s!"Unknown conversion specifier {shown}"
end BracePlace
end RouteDocs.Class
