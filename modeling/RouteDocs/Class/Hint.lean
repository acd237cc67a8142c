import RouteDocs.Class.Expression.Binding
import RouteDocs.Class.Form
import RouteDocs.Json.Writer

/-! # Type hints -/

namespace RouteDocs.Class
open Text Form

inductive MethodKind where
  | method
  | op
  | value
  | place
deriving DecidableEq

inductive CellKind where
  | list
  | dict
  | set
  | octets
  | stream (name : String)
  | code

inductive ThingKind where
  | plain
  | changing
  | record
  | model
deriving DecidableEq

inductive ViewKind where
  | keys
  | values
  | entries
deriving DecidableEq

def madeBase : Nat := 1000000

inductive Hint where
  | nothing
  | builtin (cls : Builtin)
  | declared (number : Nat) (name : String)
  | generic (cls : Builtin) (args : List Hint)
  | unpacked (cls : Builtin) (args : List Hint)
  | form (form : Form)
  | formOf (form : Form) (args : List Hint)
  | leftOpen (shown : String) (number : Nat)
  | union (members : List Hint)
  | bars (members : List Hint)
  | classField (inner : Hint)
  | reference (text : String)
  | dots
  | notImplemented
  | truth (value : Bool)
  | int (value : Int)
  | real (value : Number.Binary64)
  | complex (real imaginary : Number.Binary64)
  | text (pieces : List Piece)
  | octets (bytes : List Nat)
  | octetList (bytes : List Nat)
  | row (items : List Hint)
  | list (items : List Hint)
  | set (items : List Hint)
  | frozenSet (items : List Hint)
  | dict (entries : List (Hint × Hint))
  | proxy (table : Hint)
  | view (kind : ViewKind) (table : Hint)
  | range (start stop step : Int)
  | slice (start stop step : Hint)
  | routine (name : String)
  | method (kind : MethodKind) (owner : Builtin) (name : String)
  | bound (self : Hint) (name : String)
  | const (owner : Hint) (name : String) (value : Hint)
  | cell (kind : CellKind) (number : Nat)
  | fn (number : Nat) (name : String)
  | thing (kind : ThingKind) (cls : Hint) (number : Nat)
  | record (kind : ThingKind) (cls : Hint) (fields : List (String × Hint))
  | error (cls : Builtin) (number : Nat) (args : List Hint)
  | inst (cls : Hint) (number : Nat) (shown : String)

abbrev NamedHints := List (String × Hint)

/-- Why a hint has no value. -/
inductive HintFault where
  | misfit
  | text (fault : Expr.Fault)
  | missing (name : String)
  | undefined (message : String)
  | noMember (name : String)
  | noKey
  | noIndex
  | byZero
  | outOfRange
  | tooLarge
  | tooDeep
  | exhausted
  | disturbed
  | unknownEncoding
  | undecodable
  | noModule
  | badValue (message : String)
  | raised (name message : String)
  | unsound
deriving DecidableEq

abbrev Tried := Except HintFault

def misfit {m : Type -> Type} {α : Type} [MonadExcept HintFault m] : m α := throw .misfit

def HintFault.undefinedName (word : String) : HintFault :=
  .undefined s!"name '{word}' is not defined"

namespace Hint
def words (text : String) : Hint := .text (pieces text.toList)

def int? : Hint -> Option Int
  | truth value => some (if value then 1 else 0)
  | int value => some value
  | _ => none

def sameReal (first second : Number.Binary64) : Bool := match first, second with
  | .undefined, _ | _, .undefined => false
  | _, _ => first = second || (first.isZero && second.isZero)

def sameNumber? (first second : Hint) : Option Bool :=
  match first.int?, second.int?, first, second with
  | some a, some b, _, _ => some (a == b)
  | some a, none, _, real b | none, some a, real b, _ => some (b.toInt? == some a)
  | some a, none, _, complex b c | none, some a, complex b c, _ =>
    some (c.isZero && b.toInt? == some a)
  | none, none, real a, real b => some (sameReal a b)
  | none, none, real a, complex b c | none, none, complex b c, real a =>
    some (c.isZero && sameReal a b)
  | none, none, complex a b, complex c d => some (sameReal a c && sameReal b d)
  | _, _, _, _ => none

def isSameKind : Hint -> Hint -> Bool
  | truth _, truth _ | int _, int _ | real _, real _ | complex .., complex .. => true
  | truth _, _ | _, truth _ | int _, _ | _, int _ | real _, _ | _, real _ => false
  | _, _ => true

def rangeSize (start stop step : Int) : Nat :=
  if 0 < step then ((stop - start + step - 1) / step).toNat
  else ((start - stop - step - 1) / (-step)).toNat

def sameRange (first second : Int × Int × Int) : Bool :=
  let (start, stop, step) := first
  let (otherStart, otherStop, otherStep) := second
  let size := rangeSize start stop step
  size == rangeSize otherStart otherStop otherStep &&
    (size == 0 || (start == otherStart && (size == 1 || step == otherStep)))

mutual
def same : Hint -> Hint -> Bool
  | nothing, nothing => true
  | builtin a, builtin b => a == b
  | declared m _, declared n _ => m == n
  | generic a xs, generic b ys => a == b && sameAll xs ys
  | unpacked a xs, unpacked b ys => a == b && sameAll xs ys
  | form a, form b => a == b
  | formOf a xs, formOf b ys =>
    a == b && (if a = values then
        xs.length == ys.length && sameValues xs ys
      else sameAll xs ys)
  | leftOpen _ m, leftOpen _ n => m == n
  | union xs, union ys | union xs, bars ys | bars xs, union ys | bars xs, bars ys =>
    xs.length == ys.length && allAmong xs ys
  | classField a, classField b => a.same b
  | reference a, reference b => a == b
  | dots, dots => true
  | notImplemented, notImplemented => true
  | text a, text b => a == b
  | octets a, octets b => a == b
  | octetList a, octetList b => a == b
  | row xs, row ys => sameAll xs ys
  | list xs, list ys => sameAll xs ys
  | set xs, set ys | set xs, frozenSet ys | frozenSet xs, set ys | frozenSet xs, frozenSet ys =>
    xs.length == ys.length && allAmong xs ys
  | dict xs, dict ys => xs.length == ys.length && allEntriesAmong xs ys
  | proxy a, proxy b => a.same b
  | range a b c, range d e f => sameRange (a, b, c) (d, e, f)
  | slice a b c, slice d e f => a.same d && b.same e && c.same f
  | routine a, routine b => a == b
  | method a b c, method d e f => a == d && b == e && c == f
  | bound a m, bound b n => a.same b && m == n
  | const a m _, const b n _ => a.same b && m == n
  | cell _ m, cell _ n => m == n
  | fn m _, fn n _ => m == n
  | thing _ _ m, thing _ _ n => m == n
  | record _ a xs, record _ b ys => a.same b && sameFields xs ys
  | error _ m _, error _ n _ => m == n
  | inst _ m _, inst _ n _ => m == n
  | first, second => (sameNumber? first second).getD false

def sameAll : List Hint -> List Hint -> Bool
  | [], [] => true
  | a :: xs, b :: ys => a.same b && sameAll xs ys
  | _, _ => false

def sameValues : List Hint -> List Hint -> Bool
  | [], _ => true
  | a :: xs, ys => ys.any (fun b => isSameKind a b && a.same b) && sameValues xs ys

def sameFields : NamedHints -> NamedHints -> Bool
  | [], [] => true
  | (m, a) :: xs, (n, b) :: ys => m == n && a.same b && sameFields xs ys
  | _, _ => false

def allAmong : List Hint -> List Hint -> Bool
  | [], _ => true
  | a :: xs, ys => ys.any (fun b => a.same b) && allAmong xs ys

def allEntriesAmong : List (Hint × Hint) -> List (Hint × Hint) -> Bool
  | [], _ => true
  | (key, value) :: xs, ys =>
    ys.any (fun entry => key.same entry.1 && value.same entry.2) && allEntriesAmong xs ys
end

mutual
def isKey : Hint -> Bool
  | list _ | set _ | dict _ | octetList _ | proxy _ | slice .. | record .. => false
  | cell (.stream _) _ => true
  | cell .. => false
  | thing kind _ _ => kind = .plain
  | view kind _ => kind = .values
  | generic _ args | unpacked _ args => areKeys args
  | formOf _ args => areKeys args
  | union members | bars members => areKeys members
  | classField inner => inner.isKey
  | row items => areKeys items
  | _ => true

def areKeys : List Hint -> Bool
  | [] => true
  | hint :: rest => hint.isKey && areKeys rest
end

def members : Hint -> List Hint
  | union members | bars members => members
  | alone => [alone]

def distinct (seen : List Hint) : List Hint -> List Hint
  | [] => seen
  | hint :: rest =>
    if seen.any hint.same then distinct seen rest else distinct (seen ++ [hint]) rest

def referenceOf (pieces : List Piece) : Tried Hint :=
  match ofPieces? pieces with
  | none => .error (.text .surrogate)
  | some chars =>
    match Expr.readSound (String.ofList chars) with
    | .error fault => .error (.text fault)
    | .ok _ => .ok (reference (String.ofList chars))

def asType : Hint -> Tried Hint
  | nothing => .ok (builtin .none)
  | text pieces => referenceOf pieces
  | hint => .ok hint

def abstractClasses : List Builtin := [.library "typing" "Generic", .library "typing" "Protocol"]

def canBeArgument (isWhole : Bool) : Hint -> Bool
  | classField _ => isWhole
  | formOf outer _ => outer.shape ≠ .openTypes && (isWhole || outer ≠ final)
  | form alone => alone.isType || (isWhole && alone.isOfField)
  | builtin cls => cls ∉ abstractClasses
  | row _ => false
  | _ => true

def asArgument (hint : Hint) (isWhole : Bool := false) : Tried Hint := do
  let type <- hint.asType
  if type.canBeArgument isWhole then return type else misfit

def asArguments (hints : List Hint) : Tried (List Hint) := hints.mapM fun hint => hint.asArgument

def unionOf (hints : List Hint) : Tried Hint := do
  let members := (<- asArguments hints).flatMap members
  if !areKeys members then misfit
  match distinct [] members with
  | [] => misfit
  | [alone] => return alone
  | members => return .union members

def optionalOf (inner : Hint) : Tried Hint := do
  unionOf [<- inner.asArgument, .builtin .none]

def classFieldOf (inner : Hint) : Tried Hint := inner.asArgument.map .classField

def bracketItems : Hint -> List Hint
  | row items => items
  | alone => [alone]

def flatValues (items : List Hint) : List Hint := items.flatMap fun item => match item with
    | formOf outer inner => if outer = values then inner else [item]
    | _ => [item]

def distinctValues (seen : List Hint) : List Hint -> List Hint
  | [] => seen
  | item :: rest =>
    if seen.any fun other => isSameKind item other && item.same other then
      distinctValues seen rest
    else distinctValues (seen ++ [item]) rest

def notedOf (inner : Hint) (notes : List Hint) : Hint := match inner with
  | formOf outer args =>
    if outer = annotated then formOf outer (args ++ notes)
    else formOf annotated (inner :: notes)
  | _ => formOf annotated (inner :: notes)

def callParts : Hint -> Tried (List Hint)
  | list items | row items => items.mapM asType
  | dots => .ok [dots]
  | alone => return [<- alone.asType]

def applied (form : Form) (index : Hint) : Tried Hint := do
  match form.shape with
  | .counted count =>
    let args <- asArguments index.bracketItems
    if count = 0 || args.length ≠ count then misfit
    return .formOf form args
  | .row =>
    let items := index.bracketItems
    if 2 <= items.length && (items.getLast? matches some dots) then
      return .formOf form ((<- asArguments items.dropLast) ++ [dots])
    return .formOf form (<- asArguments items)
  | .call =>
    let row [given, result] := index | misfit
    let result <- result.asArgument
    return .formOf form ((<- given.callParts) ++ [result])
  | .single =>
    if form = Form.classField then classFieldOf index
    else return .formOf form [<- index.asArgument form.isOfEntry]
  | .alone => misfit
  | .union => unionOf index.bracketItems
  | .optional => optionalOf index
  | .values =>
    let items := flatValues index.bracketItems
    return .formOf form (if areKeys items then distinctValues [] items else items)
  | .noted =>
    let row (inner :: note :: notes) := index | misfit
    return notedOf (<- inner.asArgument true) (note :: notes)
  | .front =>
    let items := index.bracketItems
    if !(items.getLast? matches some dots) then misfit
    return .formOf form ((<- asArguments items.dropLast) ++ [dots])
  | .openTypes =>
    let items := index.bracketItems
    if items.isEmpty || !items.all (· matches leftOpen ..) then misfit
    if (distinct [] items).length ≠ items.length then misfit
    return .formOf form items

def listFormOf (args : List Hint) : Tried Hint := applied Form.list (.row args)

def genericOf (cls : Builtin) (args : List Hint) : Tried Hint :=
  if cls.isGeneric then .ok (.generic cls args) else .error .misfit

def callArguments : Hint -> Tried (List Hint)
  | row [list given, result] | row [row given, result] => .ok (given ++ [result])
  | row [dots, result] => .ok [dots, result]
  | _ => .error .misfit

def classFilledBy (cls : Builtin) (index : Hint) : Tried Hint :=
  if cls = Builtin.fn then (callArguments index).map (.generic cls)
  else match cls with
    | .library module name =>
      match ofLibrary? module name with
      | some found => applied found index
      | none => genericOf cls index.bracketItems
    | _ => genericOf cls index.bracketItems

def isForm : Hint -> Bool
  | form _ | formOf .. | leftOpen .. | union _ | classField _ | reference _ => true
  | _ => false

def joins : Hint -> Bool
  | builtin _ | declared _ _ | generic _ _ | unpacked _ _ | bars _ => true
  | _ => false

def barMember : Hint -> Option Hint
  | nothing => some (builtin .none)
  | hint => if hint.joins then some hint else none

def bar (first second : Hint) : Tried Hint :=
  if first.isForm || second.isForm then unionOf [first, second]
  else if first.joins || second.joins then
    match first.barMember, second.barMember with
    | some a, some b =>
      match distinct [] (a.members ++ b.members) with
      | [alone] => .ok alone
      | members => .ok (.bars members)
    | _, _ => .error .misfit
  else .error .misfit

def barsOf : List Hint -> Tried Hint
  | [] => .error .misfit
  | first :: rest => rest.foldlM bar first

mutual
def openTypes : Hint -> List Hint
  | leftOpen shown number => [leftOpen shown number]
  | formOf _ args | generic _ args | union args | bars args => openTypesIn args
  | _ => []

def openTypesIn : List Hint -> List Hint
  | [] => []
  | hint :: rest => hint.openTypes ++ openTypesIn rest
end

mutual
def filled (find : Hint -> Hint) : Hint -> Tried Hint
  | leftOpen shown number => (find (leftOpen shown number)).asArgument
  | formOf outer args => return .formOf outer (<- filledAll find args)
  | generic cls args => return .generic cls (<- filledAll find args)
  | union members => do unionOf (<- filledAll find members)
  | bars members => do barsOf (<- filledAll find members)
  | hint => .ok hint

def filledAll (find : Hint -> Hint) : List Hint -> Tried (List Hint)
  | [] => .ok []
  | hint :: rest => do
    let first <- hint.filled find
    return first :: (<- filledAll find rest)
end

def filledBy (hint index : Hint) : Tried Hint := do
  let places := distinct [] hint.openTypes
  let args <- index.bracketItems.mapM asType
  if places.isEmpty || places.length ≠ args.length then misfit
  let pairs := places.zip args
  hint.filled fun place => ((pairs.find? fun pair => pair.1.same place).map Prod.snd).getD place
end Hint

inductive HintForm where
  | nothing
  | builtin (cls : Builtin)
  | listForm
  | generic (cls : Builtin) (args : List HintForm)
  | listOf (args : List HintForm)
  | ofNothing (args : List HintForm)
  | optional (inner : HintForm)
  | union (members : List HintForm)
  | bars (members : List HintForm)
  | classField (inner : HintForm)
  | declared (name : String)
  | text (text : String)

namespace HintForm

mutual
def hint (declared? : String -> Option Hint) : HintForm -> Tried Hint
  | nothing => .ok .nothing
  | builtin cls => .ok (.builtin cls)
  | listForm => .ok (.form Form.list)
  | generic cls args => hints declared? args >>= Hint.genericOf cls
  | listOf args => hints declared? args >>= Hint.listFormOf
  | ofNothing args => do
    discard (hints declared? args)
    misfit
  | optional inner => inner.hint declared? >>= Hint.optionalOf
  | union members => hints declared? members >>= Hint.unionOf
  | bars members => hints declared? members >>= Hint.barsOf
  | classField inner => inner.hint declared? >>= Hint.classFieldOf
  | declared name =>
    match declared? name with
    | some hint => .ok hint
    | none => .error (.missing name)
  | text given => .ok (.words given)

def hints (declared? : String -> Option Hint) : List HintForm -> Tried (List Hint)
  | [] => .ok []
  | form :: rest => do
    let first <- form.hint declared?
    return first :: (<- hints declared? rest)
end
end HintForm

inductive Style where
  | plain
  | record
  | model
  | enumeration
deriving DecidableEq

inductive Default where
  | none
  | value (given : Json)
  | factory

structure FieldDeclaration where
  name : String
  form : HintForm
  default : Default := .none

structure Header where
  name : String
  style : Style := .plain
  doc? : Option String := none
  bases : List String := []
  fields : List FieldDeclaration := []
  isErrorUnion : Bool := false

inductive Declaration where
  | mk (header : Header) (nested : List Declaration)

def realStyle : Number.RealStyle := { Json.realStyle with infinite := "inf", undefined := "nan" }

def shortReal (number : Number.Binary64) : Chars :=
  let written := (number.write realStyle).toList
  if ['.', '0'].isSuffixOf written then written.take (written.length - 2) else written

def complexText (real imaginary : Number.Binary64) : String :=
  let second := shortReal imaginary
  if real = .zero false then String.ofList (second ++ ['j'])
  else
    let sign := if second.head? = some '-' then [] else ['+']
    String.ofList ('(' :: shortReal real ++ sign ++ second ++ ['j', ')'])

def octetText (quote : Char) (byte : Nat) : Chars :=
  let c := Char.ofNat byte
  if 32 <= byte && byte < 127 || c ∈ ['\n', '\r', '\t'] then quotedChar quote c
  else numbered c

def octetsText (bytes : List Nat) : String :=
  let quote := quoteFor (bytes.map Char.ofNat)
  String.ofList ('b' :: quote :: (bytes.flatMap (octetText quote) ++ [quote]))

def MethodKind.name : MethodKind -> String
  | method => "method"
  | op => "slot wrapper"
  | value => "attribute"
  | place => "member"

namespace Hint
def methodText (kind : MethodKind) (owner : Builtin) (name : String) : String :=
  "<" ++ kind.name ++ " '" ++ name ++ "' of '" ++ owner.name ++ "' objects>"

def declaredHome : String := "host"

def isNone : Hint -> Bool
  | builtin .none => true
  | _ => false

inductive Place where
  | alone
  | inGeneric
  | inForm
deriving DecidableEq

def classText (place : Place) (full : String) : String :=
  if place = .alone then "<class '" ++ full ++ "'>" else full

def bracketed (open_ : String) (texts : List String) (close : String) : String :=
  open_ ++ ", ".intercalate texts ++ close

def rowText : List String -> String
  | [alone] => "(" ++ alone ++ ",)"
  | texts => bracketed "(" texts ")"

def setText : List String -> String
  | [] => "set()"
  | texts => bracketed "\x7b" texts "\x7d"

def frozenSetText : List String -> String
  | [] => "frozenset()"
  | texts => bracketed "frozenset(\x7b" texts "\x7d)"

def rangeText (start stop step : Int) : String :=
  bracketed "range(" ([start, stop] ++ (if step = 1 then [] else [step]) |>.map toString) ")"

def viewText (kind : ViewKind) (texts : List String) : String :=
  let name := match kind with
    | .keys => "dict_keys(["
    | .values => "dict_values(["
    | .entries => "dict_items(["
  bracketed name texts "])"

def plainName : Hint -> String
  | builtin cls => cls.name
  | declared number name =>
    if number < madeBase then name else (Library.cut name).2
  | _ => ""

mutual
def textIn (place : Place) : Hint -> String
  | nothing => "None"
  | builtin .any => Builtin.any.shown
  | builtin cls => classText place cls.shown
  | declared number name =>
    classText place (if number < madeBase then declaredHome ++ "." ++ name else name)
  | generic cls args => genericText cls args
  | unpacked cls args =>
    "*" ++ cls.shown ++
      (if args.isEmpty then "[()]" else bracketed "[" (textsIn .inGeneric args) "]")
  | form given => "typing." ++ given.name
  | formOf given args => formText given args
  | leftOpen shown _ => shown
  | union members => unionText members
  | bars members => " | ".intercalate (barTexts members)
  | classField inner => "typing.ClassVar[" ++ inner.textIn .inForm ++ "]"
  | reference given => "ForwardRef(" ++ quoted given ++ ")"
  | dots => if place = .alone then "Ellipsis" else "..."
  | notImplemented => "NotImplemented"
  | truth value => if value then "True" else "False"
  | int value => toString value
  | real value => value.write realStyle
  | complex first second => complexText first second
  | text pieces => quotedPieces pieces
  | octets bytes => octetsText bytes
  | octetList bytes => "bytearray(" ++ octetsText bytes ++ ")"
  | row items => rowText (textsIn .alone items)
  | list items => bracketed "[" (textsIn .alone items) "]"
  | set items => setText (textsIn .alone items)
  | frozenSet items => frozenSetText (textsIn .alone items)
  | dict entries => bracketed "\x7b" (entryTexts entries) "\x7d"
  | proxy table => "mappingproxy(" ++ table.textIn .alone ++ ")"
  | view kind (dict entries) => viewText kind (viewTexts kind entries)
  | view kind _ => viewText kind []
  | range start stop step => rangeText start stop step
  | slice start stop step =>
    bracketed "slice(" [start.textIn .alone, stop.textIn .alone, step.textIn .alone] ")"
  | routine name =>
    if place = .inGeneric then name else "<built-in function " ++ (Library.cut name).2 ++ ">"
  | method kind owner name => methodText kind owner name
  | bound _ name => "<bound " ++ name ++ ">"
  | const owner name value =>
    let whole := if name.isEmpty then owner.plainName else owner.plainName ++ "." ++ name
    "<" ++ whole ++ ": " ++ value.textIn .alone ++ ">"
  | cell .. => "<cell>"
  | fn _ name => name
  | thing _ cls _ => "<" ++ cls.plainName ++ " object>"
  | record _ cls fields => bracketed (cls.plainName ++ "(") (fieldTexts fields) ")"
  | error cls _ args => bracketed (cls.name ++ "(") (textsIn .alone args) ")"
  | inst _ _ shown => shown

def textsIn (place : Place) : List Hint -> List String
  | [] => []
  | hint :: rest => hint.textIn place :: textsIn place rest

def genericText (cls : Builtin) : List Hint -> String
  | [] => cls.shown ++ "[()]"
  | first :: rest =>
    let texts := first.textIn .inGeneric :: textsIn .inGeneric rest
    if cls = Builtin.fn && !(first matches dots | row _) then
      cls.shown ++ bracketed "[[" texts.dropLast "], " ++ (texts.getLast?).getD "" ++ "]"
    else cls.shown ++ bracketed "[" texts "]"

def formText (form : Form) : List Hint -> String
  | [] => "typing." ++ form.name ++ "[()]"
  | first :: rest =>
    let name := "typing." ++ form.name
    if form = Form.unpacked then "*" ++ first.textIn .alone
    else if form = annotated then
      bracketed (name ++ "[") (first.textIn .inForm :: textsIn .alone rest) "]"
    else
      let texts := first.textIn .inForm :: textsIn .inForm rest
      if form = call && !(first matches dots) then
        name ++ bracketed "[[" texts.dropLast "], " ++ (texts.getLast?).getD "" ++ "]"
      else bracketed (name ++ "[") texts "]"

def unionText : List Hint -> String
  | [first, second] =>
    if first.isNone then "typing.Optional[" ++ second.textIn .inForm ++ "]"
    else if second.isNone then "typing.Optional[" ++ first.textIn .inForm ++ "]"
    else "typing.Union[" ++ first.textIn .inForm ++ ", " ++ second.textIn .inForm ++ "]"
  | members => bracketed "typing.Union[" (textsIn .inForm members) "]"

def barTexts : List Hint -> List String
  | [] => []
  | hint :: rest => (if hint.isNone then "None" else hint.textIn .inGeneric) :: barTexts rest

def viewTexts (kind : ViewKind) : List (Hint × Hint) -> List String
  | [] => []
  | (key, value) :: rest =>
    (match kind with
      | .keys => key.textIn .alone
      | .values => value.textIn .alone
      | .entries => rowText [key.textIn .alone, value.textIn .alone]) :: viewTexts kind rest

def fieldTexts : NamedHints -> List String
  | [] => []
  | (name, value) :: rest => (name ++ "=" ++ value.textIn .alone) :: fieldTexts rest

def entryTexts : List (Hint × Hint) -> List String
  | [] => []
  | (key, value) :: rest => (key.textIn .alone ++ ": " ++ value.textIn .alone) :: entryTexts rest
end

def shown (hint : Hint) : String := hint.textIn .alone
def isLongNumber (value : Int) : Bool := Nat.pow 10 digitLimit <= value.natAbs

mutual
def isTooLong : Hint -> Bool
  | int value => isLongNumber value
  | range start stop step => isLongNumber start || isLongNumber stop || isLongNumber step
  | row items | list items | set items | frozenSet items | generic _ items | unpacked _ items
  | formOf _ items
  | union items | bars items | error _ _ items => someTooLong items
  | dict entries => someEntryTooLong entries
  | classField inner | proxy inner | view _ inner => inner.isTooLong
  | slice start stop step => start.isTooLong || stop.isTooLong || step.isTooLong
  | record _ _ fields => someFieldTooLong fields
  | _ => false

def someTooLong : List Hint -> Bool
  | [] => false
  | hint :: rest => hint.isTooLong || someTooLong rest

def someEntryTooLong : List (Hint × Hint) -> Bool
  | [] => false
  | (key, value) :: rest => key.isTooLong || value.isTooLong || someEntryTooLong rest

def someFieldTooLong : NamedHints -> Bool
  | [] => false
  | (_, value) :: rest => value.isTooLong || someFieldTooLong rest
end
end Hint
end RouteDocs.Class
