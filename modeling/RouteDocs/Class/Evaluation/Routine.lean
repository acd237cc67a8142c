import RouteDocs.Class.Evaluation.Dispatch

/-! # Routines -/

namespace RouteDocs.Class.VM
open Eval

variable (vm : VM)

def candidates : List Hint -> Eval (List Hint)
  | [] => misfit
  | [alone] => vm.items alone
  | several => return several

def extremeFrom (wanted : Ordering) : Keyed -> List Keyed -> Tried Keyed
  | best, [] => .ok best
  | best, item :: rest => do
    let isBetter <- Hint.isOrdered item.1 best.1 (· == wanted)
    extremeFrom wanted (if isBetter then item else best) rest

variable (args : Args) (name : String) (value : Hint) (path : List String) (chars : Chars)

def extreme (wanted : Ordering) (args : Args) : Eval Hint := do
  match <- ({ args with plain := [] } : Args).fit 0 [] ["key", "default"] with
  | [key?, default?] =>
    if 1 < args.plain.length && default?.isSome then misfit
    match <- vm.keyed key? (<- vm.candidates args.plain), default? with
    | first :: rest, _ => return (<- lift (extremeFrom wanted first rest)).2
    | [], some default => return default
    | [], none => throw (.badValue s!"{name}() arg is an empty sequence")
  | _ => misfit

def sum : Eval Hint := do
  let [some source, start?] <- args.fit 1 ["", "start"] | misfit
  let start := start?.getD (.int 0)
  if start matches .text _ | .octets _ | .cell .octets _ then misfit
  (<- vm.items source).foldlM (vm.operate .add) start

def inBase (base : Nat) (mark : String) (value : Hint) : Eval Hint := match value.int? with
  | some n => return .words ((if n < 0 then "-" else "") ++ mark ++
      String.ofList (Nat.toDigits base n.natAbs))
  | none => misfit

def character : Eval Hint := match value.int? with
  | some n =>
    if n < -0x80000000 || 0x7FFFFFFF < n then throw .outOfRange
    else if 0 <= n && n < 0x110000 then return .text [Text.Piece.ofCode n.toNat]
    else throw (.badValue "chr() arg not in range(0x110000)")
  | none => misfit

def characterCode : Eval Hint := do
  match <- opened value with
  | .text [piece] => return .int (Hint.pieceCode piece)
  | .octets [byte] | .octetList [byte] => return .int byte
  | _ => misfit

def nameTable (entries : NamedHints) : Eval Hint := newTable (.ofList (namedEntries entries))

def innermostNames : Eval Hint := do
  let env := (<- get).current
  match env.isInClass, env.frames with
  | false, number :: _ => return .cell .dict (<- frameTable number)
  | _, _ =>
    match env.names.outer with
    | .table number => return .cell .dict number
    | outer => nameTable (<- outer.all vm.scope)

def outermostNames : Eval Hint := do
  match (<- get).current.names.inner with
  | .table number => return .cell .dict number
  | inner =>
    let standard <- newTable standardTable
    nameTable ((<- inner.all vm.scope) ++ [(standardTableName, standard)])

def keptNames : Eval Hint := do
  match value with
  | .declared .. | .thing _ (.declared ..) _ => vm.member value "__dict__"
  | _ => misfit

def sourceChars : Eval Chars := do
  match <- opened value with
  | .text pieces =>
    let some chars := Text.ofPieces? pieces | throw (.text .surrogate)
    return chars
  | .octets bytes | .octetList bytes =>
    match <- Eval.attempt (· = .undecodable) (lift (Encoding.utf8.decode .strict bytes)) with
    | some codes => return codes.map Char.ofNat
    | none => throw (.text .malformed)
  | _ => misfit

def readExpression : Eval Expr := do
  if chars.head? = some '*' then throw (.text .malformed)
  match Expr.readSound (String.ofList chars), Stmt.marks chars with
  | .ok expr, _ => return expr
  | .error .empty, _ => throw (.text .malformed)
  | .error .malformed, .error .indented => throw (.text .indented)
  | .error fault, _ => throw (.text fault)

def readStatements : Eval (List Stmt) := lift ((Stmt.readSound chars).mapError .text)

inductive SourceKind where
  | eval
  | exec
  | single
deriving DecidableEq

def readBody (kind : SourceKind) (chars : Chars) : Eval Body := do
  match kind with
  | .eval => return .expr (<- readExpression chars)
  | .exec => return .stmts (<- readStatements chars)
  | .single =>
    let found <- readStatements chars
    if found.isEmpty then throw (.text .malformed)
    return .stmts found

def compiled : Eval Hint := do
  match <- args.fit 3 ["source", "filename", "mode", "flags", "dont_inherit", "optimize"]
      ["_feature_version"] with
  | some source :: some file :: some mode :: rest =>
    if !(file matches .text _ | .octets _) then misfit
    let mode <- wordArgument mode
    if (rest.take 3).any fun given? => given?.any fun given => given.int?.isNone then
      misfit
    let kind <- match mode with
      | "eval" => pure SourceKind.eval
      | "exec" => pure SourceKind.exec
      | "single" => pure SourceKind.single
      | _ => throw (.badValue "compile() mode must be 'exec', 'eval' or 'single'")
    if source matches .cell .code _ then misfit
    return .cell .code (<- keep (.code (<- readBody kind (<- sourceChars source))))
  | _ => misfit

def bodyOf (kind : SourceKind) (value : Hint) : Eval Body := do
  match value with
  | .cell .code number =>
    let some (.code body) <- content? number | misfit
    return body
  | _ =>
    let chars <- sourceChars value
    if kind = .eval then readBody kind (chars.dropWhile fun c => c = ' ' || c = '\t')
    else readBody kind chars

def sourceNames (vm : VM) : List Hint -> Eval Names
  | [] => do
    let env := (<- get).current
    if env.isInClass || env.frames.isEmpty then return env.names
    let .cell .dict number <- vm.innermostNames | return env.names
    return { env.names with outer := .table number }
  | .nothing :: rest => do
    let names := (<- get).current.names
    match rest with
    | .cell .dict number :: _ => return { names with outer := .table number }
    | [] | .nothing :: _ => sourceNames vm []
    | _ => misfit
  | .cell .dict number :: rest =>
    match rest with
    | [] | .nothing :: _ => return ⟨.table number, .table number⟩
    | .cell .dict inner :: _ => return ⟨.table inner, .table number⟩
    | _ => misfit
  | _ => misfit

def runSource (kind : SourceKind) (args : Args) : Eval Hint := do
  let args := if kind = .exec then
      { args with named := args.named.filter fun entry => entry.1 ≠ "closure" }
    else args
  match <- args.between 1 3 with
  | source :: tables =>
    let names <- vm.sourceNames tables
    let body <- bodyOf kind source
    let env : Env := { names, globals := body.outermost }
    within env (vm.runBody env body)
  | [] => misfit

def checkPath : Eval Unit := (List.range path.length).forM fun place =>
    let start := ".".intercalate (path.take (place + 1))
    if (Module.ofName? start).isSome then return () else throw .noModule

def moduleAt (isRoot : Bool) : Eval Hint := do
  checkPath path
  match Module.ofName? (if isRoot then path.headD "" else ".".intercalate path) with
  | some found => return found
  | none => throw .noModule

def importModule : Eval Hint := do
  match <- args.fit 1 ["name", "globals", "locals", "fromlist", "level"] with
  | [some name, _, _, members?, level?] =>
    let word <- wordArgument name
    let some level := (level?.getD (.int 0)).int? | misfit
    if level < 0 then throw (.badValue "level must be >= 0")
    if 0 < level then throw .noKey
    if word.isEmpty then throw (.badValue "Empty module name")
    let isRoot <- match members? with
      | some found => do pure !(<- vm.isTrue found)
      | none => pure true
    moduleAt (word.splitOn ".") isRoot
  | _ => misfit

def importMember (word : String) : Eval Hint := do
  match <- vm.member? (<- moduleAt path false) word with
  | some found => return found
  | none => throw (.raised "ImportError" s!"cannot import name '{word}'")

def memberOr : Eval Hint := do
  let owner :: word :: rest <- args.between 2 3 | misfit
  let word <- match word with
    | .text pieces => pure (Text.escapedText pieces)
    | _ => misfit
  match <- vm.member? owner word, rest.head? with
  | some found, _ => return found
  | none, some default => return default
  | none, none => throw (.noMember word)

def nextOr : Eval Hint := do
  let .cell (.stream _) number :: rest <- args.between 1 2 | misfit
  match <- vm.advance number, rest.head? with
  | some item, _ => return item
  | none, some default => return default
  | none, none => throw .exhausted

def streamFor : Eval Hint := do
  match <- args.between 1 2 with
  | [value] => vm.iterate value
  | [callee, last] =>
    if !isCallable callee then misfit
    newStream "callable_iterator" (.calls callee last)
  | _ => misfit

def question? (args : Args) : Answer := match name with
  | "all" => some do
    let found <- vm.find (<- args.one) fun item => do
      return if <- vm.isTrue item then none else some ()
    return .truth found.isNone
  | "any" => some do
    let found <- vm.find (<- args.one) fun item => do
      return if <- vm.isTrue item then some () else none
    return .truth found.isSome
  | "callable" => some do
    let value <- args.one
    return .truth (isCallable value || (<- vm.special? value "__call__").isSome)
  | "hasattr" => some do
    let (owner, .text pieces) <- args.two | misfit
    return .truth (<- vm.member? owner (Text.escapedText pieces)).isSome
  | "isinstance" => some do
    let (value, wanted) <- args.two
    return .truth (<- vm.isInstance value wanted)
  | "issubclass" => some do
    let (value, wanted) <- args.two
    if !(value matches .builtin _ | .declared ..) then misfit
    return .truth (<- vm.extendsAny value classDepth wanted)
  | "len" => some do return .int (<- vm.sizeOf (<- args.one))
  | "hash" => some do hashOf (<- args.one)
  | "id" => some do
    discard args.one
    return .int (140000000000000 + 16 * (<- newNumber))
  | _ => none

def conversion? (args : Args) : Answer := match name with
  | "abs" => some do absolute (<- args.one)
  | "ascii" => some do return .text (<- lift (<- vm.settled (<- args.one)).plainText)
  | "bin" => some do inBase 2 "0b" (<- args.one)
  | "oct" => some do inBase 8 "0o" (<- args.one)
  | "hex" => some do inBase 16 "0x" (<- args.one)
  | "chr" => some do character (<- args.one)
  | "ord" => some do characterCode (<- args.one)
  | "divmod" => some do
    let (first, second) <- args.two
    vm.divideBoth first second
  | "format" => some do
    match <- args.between 1 2 with
    | [value] => return .text (<- vm.formatted value [])
    | [value, format] => return .text (<- vm.formatted value (<- piecesOf format))
    | _ => misfit
  | "max" => some (vm.extreme name .gt args)
  | "min" => some (vm.extreme name .lt args)
  | "pow" => some do
    let [some base, some exponent, modulus?] <- args.fit 2 ["base", "exp", "mod"] | misfit
    vm.powerOf base exponent modulus?
  | "repr" => some do return .text (<- vm.shownText (<- args.one))
  | "round" => some do
    let [some value, places?] <- args.fit 1 ["number", "ndigits"] | misfit
    rounded value places?
  | "sum" => some (vm.sum args)
  | _ => none

def givenBy (args : Args) : Eval Hint :=
  let found? := (vm.question? name args).or (vm.conversion? name args)
  match found? with
  | some found => found
  | none => do
    match name with
    | "getattr" => vm.memberOr args
    | "setattr" =>
      let [owner, word, value] <- args.between 3 3 | misfit
      vm.assignMember owner (<- wordArgument word) value
      return .nothing
    | "delattr" =>
      let (owner, word) <- args.two
      vm.dropMember owner (<- wordArgument word)
      return .nothing
    | "iter" => vm.streamFor args
    | "next" => vm.nextOr args
    | "sorted" =>
      let [some source, key?, reverse?] <- args.fit 1 [""] ["key", "reverse"] | misfit
      let isReversed <- flagArgument reverse?
      newList (<- vm.sorted (<- vm.items source) key? isReversed)
    | "print" => return .nothing
    | "globals" =>
      args.none
      vm.outermostNames
    | "locals" =>
      args.none
      vm.innermostNames
    | "vars" =>
      match <- args.between 0 1 with
      | value :: _ => vm.keptNames value
      | [] => vm.innermostNames
    | "compile" => compiled args
    | "eval" => vm.runSource .eval args
    | "exec" =>
      discard (vm.runSource .exec args)
      return .nothing
    | "__import__" => vm.importModule args
    | _ => misfit
end RouteDocs.Class.VM

namespace RouteDocs.Class.VM
def askedMethods : List (String × List String) := [ ("abs", ["__abs__"]), ("bytes", ["__bytes__"]),
  ("complex", ["__complex__", "__float__", "__index__"]), ("dir", ["__dir__"]),
  ("divmod", ["__divmod__"]), ("float", ["__float__", "__index__"]), ("hash", ["__hash__"]),
  ("int", ["__int__", "__index__", "__trunc__"]), ("len", ["__len__"]),
  ("math.ceil", ["__ceil__"]), ("math.floor", ["__floor__"]), ("math.trunc", ["__trunc__"]),
  ("next", ["__next__"]), ("reversed", ["__reversed__"]), ("round", ["__round__"]),
  ("_operator.index", ["__index__"]), ("_operator.length_hint", ["__len__", "__length_hint__"])]

def askingWhole : List String := ["bin", "chr", "hex", "oct", "range", "slice"]
def askingCore : List String := ["bytearray", "dict", "memoryview", "ord", "pow", "sum"]

def answerTo (vm : VM) (self : Hint) (rest : Args) : List String -> Eval (Option Hint)
  | [] => return none
  | name :: names => do
    match <- vm.special? self name with
    | some method => return some (<- vm.call method rest)
    | none => answerTo vm self rest names

def asked (vm : VM) (name : String) (args : Args) : Eval (Hint ⊕ Args) := do
  if !args.plain.any isThing then return .inr args
  match args.plain, askedMethods.lookup name with
  | first :: rest, some methods =>
    let rest := { args with plain := if name = "next" then [] else rest }
    match <- vm.answerTo first rest methods with
    | some found =>
      if name = "len" then
        let some n := found.int? | misfit
        if n < 0 then throw (.badValue "__len__() should return >= 0")
      return .inl found
    | none => return .inr { args with plain := <- args.plain.mapM vm.core }
  | _, _ =>
    if name ∈ askingWhole then
      let plain <- args.plain.mapM fun value => do
        match <- vm.answerTo value {} ["__index__"] with
        | some found => return found
        | none => vm.core value
      return .inr { args with plain }
    if name ∈ askingCore then
      return .inr { args with plain := <- args.plain.mapM vm.core }
    return .inr args

def changeNames : List (BinaryOp × String) := [
  (.add, "__iadd__"), (.subtract, "__isub__"), (.multiply, "__imul__"), (.bar, "__ior__"),
  (.ampersand, "__iand__"), (.caret, "__ixor__")]

variable (vm : VM)

def augmented (op : BinaryOp) (target value : Hint) : Eval Hint := do
  if isThing target then
    if let some (word, _) := binaryNames.find? fun entry => entry.2 = op then
      if let some found <- vm.answerOf target ("__i" ++ word ++ "__") value then
        return found
  match target, changeNames.lookup op with
  | .cell _ _, some name =>
    match <- vm.ownMethod? target name { plain := [value] } with
    | some found =>
      if isSet target && !isSet value then vm.operate op target value else found
    | none => vm.operate op target value
  | _, _ => vm.operate op target value

def operatorRoutines : List (String × BinaryOp) := binaryNames.map fun (word, op) =>
    (if word = "and" || word = "or" then word ++ "_" else word, op)

def changingRoutines : List (String × BinaryOp) :=
  binaryNames.map fun (word, op) => ("i" ++ word, op)

def comparisonRoutines : List (String × Comparison) := [
  ("eq", .equal), ("ne", .unequal), ("lt", .less), ("le", .atMost), ("gt", .greater),
  ("ge", .atLeast), ("is_", .identical), ("is_not", .distinct)]

def aloneRoutines : List (String × UnaryOp) := [
  ("neg", .minus), ("pos", .plus), ("inv", .invert), ("invert", .invert)]

def isSequence : Hint -> Bool
  | .cell .list _ | .row _ | .text _ | .octets _ | .cell .octets _ | .range .. => true
  | _ => false

def placesOfItem (whole value : Hint) : Eval (List Nat) := do
  let found <- (<- vm.items whole).zipIdx.filterMapM fun (item, place) => do
    return if <- vm.isTrue (<- vm.compared item value .equal) then some place else none
  return found

variable (name : String) (args : Args)

def operatorGiven : Eval Hint := do
  match operatorRoutines.lookup name, changingRoutines.lookup name,
      comparisonRoutines.lookup name, aloneRoutines.lookup name with
  | some op, _, _, _ =>
    let (first, second) <- args.two
    vm.operate op first second
  | none, some op, _, _ =>
    let (first, second) <- args.two
    vm.augmented op first second
  | none, none, some how, _ =>
    let (first, second) <- args.two
    vm.compared first second how
  | none, none, none, some op => vm.operateAlone op (<- args.one)
  | none, none, none, none =>
    match name with
    | "abs" => vm.call (.routine "abs") args
    | "not_" => return .truth (!(<- vm.isTrue (<- args.one)))
    | "truth" => return .truth (<- vm.isTrue (<- args.one))
    | "index" =>
      let some n := (<- args.one).int? | misfit
      return .int n
    | "concat" | "iconcat" =>
      let (first, second) <- args.two
      if !isSequence first then misfit
      if name = "concat" then vm.operate .add first second
      else vm.augmented .add first second
    | "contains" =>
      let (whole, value) <- args.two
      return .truth (<- vm.isWithin value whole)
    | "countOf" =>
      let (whole, value) <- args.two
      return .int (<- vm.placesOfItem whole value).length
    | "indexOf" =>
      let (whole, value) <- args.two
      match (<- vm.placesOfItem whole value).head? with
      | some place => return .int place
      | none => throw (.badValue "sequence.index(x): x not in sequence")
    | "getitem" =>
      let (base, index) <- args.two
      vm.subscript base index
    | "setitem" =>
      let [base, index, value] <- args.between 3 3 | misfit
      vm.setItem base index value
      return .nothing
    | "delitem" =>
      let (base, index) <- args.two
      vm.dropItem base index
      return .nothing
    | "call" =>
      match args.plain with
      | callee :: rest => vm.call callee { args with plain := rest }
      | [] => misfit
    | "length_hint" =>
      match <- args.between 1 2 with
      | value :: rest =>
        let some size <- Eval.attempt (· = .misfit) (vm.sizeOf value) | return rest.headD (.int 0)
        return .int size
      | [] => misfit
    | _ => misfit

def together : List Hint -> Hint
  | [alone] => alone
  | several => .row several

def memberAt (value : Hint) (path : String) : Eval Hint := (path.splitOn ".").foldlM vm.member value

def newLibrary (module name shown : String) (parts : NamedHints) : Eval Hint := do
  let number <- Eval.keep (.attrs parts)
  return .inst (.builtin (.ofFullName (module ++ "." ++ name))) (number + wrapBase) shown

def argumentTexts : Eval String := do
  let plain <- args.plain.mapM fun value => do
    return (<- vm.settled value).shown
  let named <- args.named.mapM fun (word, value) => do
    return word ++ "=" ++ (<- vm.settled value).shown
  return ", ".intercalate (plain ++ named)

def newGetter : Eval Hint := do
  if args.plain.isEmpty then misfit
  if name ≠ "methodcaller" && !args.named.isEmpty then misfit
  if name = "attrgetter" && !args.plain.all (· matches .text _) then misfit
  if name = "methodcaller" && !(args.plain.head? matches some (.text _)) then misfit
  let texts <- vm.argumentTexts args
  newLibrary "operator" name s!"operator.{name}({texts})" (("", .row args.plain) :: args.named)

def gotBy (number : Nat) (args : Args) : Eval Hint := do
  let value <- args.one
  match name, <- wrappedParts number with
  | "itemgetter", ("", .row items) :: _ => return together (<- items.mapM (vm.subscript value))
  | "attrgetter", ("", .row words) :: _ =>
    return together (<- words.mapM fun word => do vm.memberAt value (<- wordArgument word))
  | "methodcaller", ("", .row (word :: plain)) :: named =>
    vm.call (<- vm.member value (<- wordArgument word)) { plain, named }
  | _, _ => misfit
end RouteDocs.Class.VM
