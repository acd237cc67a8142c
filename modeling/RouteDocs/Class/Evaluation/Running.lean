import RouteDocs.Class.Evaluation.Machine
import RouteDocs.Class.Evaluation.Routine

/-! # Routines for types -/

/-! ## References in hints -/

namespace RouteDocs.Class.Hint
def ofText : Hint -> Tried Hint
  | text pieces => referenceOf pieces
  | hint => .ok hint

def asNote : Hint -> Tried Hint
  | nothing => .ok (builtin .none)
  | hint => hint.ofText

mutual
def replace (look : String -> Eval Hint) : Hint -> Eval Hint
  | reference given => look given
  | generic cls args => do
    discard (Eval.lift (args.mapM ofText))
    return .generic cls (<- replaceTexts look args)
  | unpacked cls args => do
    discard (Eval.lift (args.mapM ofText))
    return .unpacked cls (<- replaceTexts look args)
  | formOf given (inner :: notes) => do
    if given = Form.values then return .formOf given (inner :: notes)
    if given = Form.annotated then return Hint.notedOf (<- inner.replace look) notes
    let first <- inner.replace look
    return .formOf given (first :: (<- replaceAll look notes))
  | union members => do Eval.lift (unionOf (<- replaceAll look members))
  | bars members => do Eval.lift (barsOf (<- replaceAll look members))
  | classField inner => return .classField (<- inner.replace look)
  | hint => return hint

def replaceAll (look : String -> Eval Hint) : List Hint -> Eval (List Hint)
  | [] => return []
  | hint :: rest => do
    let first <- hint.replace look
    return first :: (<- replaceAll look rest)

def replaceTexts (look : String -> Eval Hint) : List Hint -> Eval (List Hint)
  | [] => return []
  | text pieces :: rest => do
    let first <- look (Text.escapedText pieces)
    return first :: (<- replaceTexts look rest)
  | hint :: rest => do
    let first <- hint.replace look
    return first :: (<- replaceTexts look rest)
end

def isReference : Hint -> Bool
  | reference _ => true
  | _ => false

mutual
def bare : Hint -> Hint
  | formOf given (inner :: rest) =>
    if given = Form.annotated || given.isOfEntry then inner.bare
    else .formOf given (inner.bare :: bareAll rest)
  | generic cls args => .generic cls (bareAll args)
  | unpacked cls args => .unpacked cls (bareAll args)
  | union members =>
    let bared := bareAll members
    (unionOf bared).toOption.getD (.union bared)
  | bars members =>
    let bared := bareAll members
    (barsOf bared).toOption.getD (.bars bared)
  | classField inner => .classField inner.bare
  | hint => hint

def bareAll : List Hint -> List Hint
  | [] => []
  | hint :: rest => hint.bare :: bareAll rest
end
end RouteDocs.Class.Hint

namespace RouteDocs.Class
def uncheckedName : String := "__no_type_check__"

def isUnchecked (mem : Memory) (scope : Scope) (cls : Class) : Bool :=
  let set? := (scope.line cls).findSome? fun ancestor =>
    mem.attrs.lookup (ancestor.number, uncheckedName)
  let found? := set?.or ((scope.attribute? cls uncheckedName).map Attr.value)
  (found?.map Hint.isTrue).getD false

namespace VM
open Eval

def originOf (value : Hint) : Eval Hint := do
  match value with
  | .generic cls _ | .unpacked cls _ => return .builtin cls
  | .formOf form args =>
    return if form = Form.annotated then .builtin (.library "typing" "Annotated")
      else Hint.originHint form args
  | .form form => return (form.origin?.map Hint.builtin).getD .nothing
  | .union _ => return .form ⟨"Union", .union, none⟩
  | .classField _ => return .form Form.classField
  | .bars _ => return .builtin (.standard "UnionType")
  | .builtin cls => return if cls = .library "typing" "Generic" then value else .nothing
  | .inst _ number _ => return ((<- wrappedParts number).lookup "__origin__").getD .nothing
  | _ => return .nothing

def callParts (args : List Hint) : Eval (List Hint) := do
  match args with
  | [.dots, _] => return args
  | _ =>
    let some result := args.getLast? | return []
    return [<- newList args.dropLast, result]

def typeArguments (value : Hint) : Eval (List Hint) := do
  match value with
  | .generic cls args =>
    if cls = Builtin.fn then callParts args else return args
  | .unpacked _ args => return args
  | .formOf form args =>
    if form = Form.call then callParts args else return args
  | .union members | .bars members => return members
  | .classField inner => return [inner]
  | .inst _ number _ =>
    let some (.row args) := (<- wrappedParts number).lookup "__args__" | return []
    return args
  | _ => return []

def openBase : Nat := 1000

def newOpenType (vm : VM) (args : Args) : Eval Hint := do
  let own := ["name", "bound", "covariant", "contravariant"]
  if args.named.any fun (word, _) => !own.contains word then misfit
  let flag (word : String) : Eval Bool := match args.named.lookup word with
    | some value => vm.isTrue value
    | none => return false
  let isWider <- flag "covariant"
  let isNarrower <- flag "contravariant"
  let (name, constraints) <- match args.plain, args.named.lookup "name" with
    | name :: rest, none => pure (name, rest)
    | [], some name => pure (name, [])
    | _, _ => misfit
  let word <- match nameOf? name with
    | some word => pure word
    | none => misfit
  if isWider && isNarrower then throw (.badValue "Bivariant types are not supported.")
  let bound? := args.named.lookup "bound"
  if !constraints.isEmpty && bound?.any (fun bound => !(bound matches .nothing)) then
    misfit
  if constraints.length = 1 then misfit
  discard (lift (Hint.asArguments (<- constraints.mapM frozen)))
  let sign := if isWider then "+" else if isNarrower then "-" else "~"
  return .leftOpen (sign ++ word) (openBase + (<- newNumber))

def newNamedType (args : Args) : Eval Hint := do
  let [some name, some type] <- args.fit 2 ["name", "tp"] | misfit
  let word <- wordArgument name
  let short := (word.splitOn ".").getLastD word
  newLibrary "typing" "NewType" ("__main__." ++ word)
    [("__name__", .words short), ("__qualname__", name), ("__supertype__", type),
      ("__module__", .words "__main__")]

def newReference (args : Args) : Eval Hint := do
  match <- args.fit 1 ["arg", "is_argument"] ["module", "is_class"] with
  | some (.text pieces) :: _ => lift (Hint.referenceOf pieces)
  | _ => misfit

/-- How deep texts may stand in the hints of texts before the calls run out. -/
def textDepth : Nat := 250

/-- The hint that a text stands for. Inside of the texts `seen`, which are being looked up, they
stay as they are: only texts that are made anew can go deeper and deeper. -/
def lookedUp (vm : VM) (env : Env) (seen : List String) : (depth : Nat) -> String -> Eval Hint
  | 0, _ => throw .tooDeep
  | depth + 1, given => do
    if given ∈ seen then return .reference given
    let expr <- lift ((Expr.readSound given).mapError .text)
    let found <- within env (vm.eval env expr)
    let found <- lift ((<- frozen found).asArgument true)
    found.replace (lookedUp vm env (given :: seen) depth)

def resolvedIn (vm : VM) (env : Env) (isBare : Bool) (hint : Hint) : Eval Hint := do
  let noted <- lift (<- frozen hint).asNote
  let found <- noted.replace (vm.lookedUp env [] textDepth)
  return if isBare then found.bare else found

def hintTable (vm : VM) (args : Args) : Eval Hint := do
  match <- args.fit 1 ["obj", "globalns", "localns", "include_extras"] with
  | some owner :: rest =>
    let isBare <- match rest.getLast? with
      | some (some value) => do pure !(<- vm.isTrue value)
      | _ => pure true
    match owner with
    | .declared number _ =>
      let scope <- vm.scopeNow
      let class? := scope.get? number
      if class?.any (isUnchecked (<- get) scope) then return <- newTable {}
      let line := (class?.map scope.line).getD []
      let found <- line.reverse.mapM fun ancestor => do
        if ancestor.isHomeless then throw (.noMember "__module__")
        ancestor.notes.entries.mapM fun (name, hint) => do
          let env : Env := { names := names ancestor }
          return (Hint.words name, <- vm.resolvedIn env isBare hint)
      newTable (.ofList found.flatten)
    | .builtin _ | .routine _ => newTable {}
    | .fn number _ =>
      let some (.fn fn) <- content? number | misfit
      let space := fn.env.names.inner
      let env : Env := { names := ⟨space, space⟩ }
      let found <- fn.hints.mapM fun (name, hint) => do
        return (Hint.words name, <- vm.resolvedIn env isBare hint)
      newTable (.ofList found)
    | _ => misfit
  | _ => misfit

def typeGiven (vm : VM) (name : String) (args : Args) : Eval Hint := do
  match name with
  | "cast" =>
    let [_, some value] <- args.fit 2 ["typ", "val"] | misfit
    return value
  | "assert_type" => return (<- args.two).1
  | "reveal_type" => args.one
  | "get_origin" | "get_args" =>
    let [some value] <- args.fit 1 ["tp"] | misfit
    if name = "get_origin" then originOf value else return .row (<- typeArguments value)
  | "get_type_hints" => vm.hintTable args
  | "final" => args.one
  | "overload" =>
    discard args.one
    return .routine "typing._overload_dummy"
  | "_overload_dummy" => throw (.raised "NotImplementedError" "")
  | "no_type_check" =>
    let owner <- args.one
    vm.setMember owner uncheckedName (.truth true)
    return owner
  | "runtime_checkable" => args.one
  | "assert_never" =>
    discard args.one
    throw .unsound
  | "is_typeddict" =>
    let .declared number _ <- args.one | return .truth false
    return .truth (<- vm.classMember? number "__required_keys__").isSome
  | "get_overloads" =>
    discard args.one
    newList []
  | "clear_overloads" =>
    args.none
    return .nothing
  | _ => misfit
end VM
end RouteDocs.Class

namespace RouteDocs.Class
abbrev Param := ParamKind × String × Option Hint

namespace Param
variable (params : List Param)

def places : List String :=
  (params.filter fun (kind, _, _) => kind = .positional || kind = .either).map (·.2.1)

def names : List String :=
  (params.filter fun (kind, _, _) => kind = .either || kind = .named).map (·.2.1)

def restOf? (wanted : ParamKind) (params : List Param) : Option String :=
  (params.find? fun (kind, _, _) => kind = wanted).map (·.2.1)

def bind (args : Args) : Tried NamedHints := do
  let places := places params
  let placed := places.zip args.plain
  let more := args.plain.drop places.length
  let (own, others) := args.named.partition fun (word, _) => word ∈ names params
  if own.any fun (word, _) => (placed.lookup word).isSome then misfit
  if !more.isEmpty && (restOf? .rest params).isNone then misfit
  if !others.isEmpty && (restOf? .namedRest params).isNone then misfit
  params.mapM fun (kind, word, default?) =>
    match kind with
    | .rest => .ok (word, .row more)
    | .namedRest => .ok (word, .dict (VM.namedEntries others))
    | _ =>
      match ((placed ++ own).lookup word).or default? with
      | some value => .ok (word, value)
      | none => .error .misfit
end Param

namespace VM
open Eval

variable (vm : VM) (module name : String) (args : Args)

def reduced : Eval Hint := do
  let joins :: source :: start <- args.between 2 3 | misfit
  match start ++ (<- vm.items source) with
  | first :: rest => rest.foldlM (fun found item => vm.call joins { plain := [found, item] }) first
  | [] => misfit

def libraryGiven? (full : String) (args : Args) : Answer :=
  match Library.cut full with
  | ("_operator", name) => some (vm.operatorGiven name args)
  | ("_functools", "reduce") => some (vm.reduced args)
  | ("typing", name) => some (vm.typeGiven name args)
  | _ => none

def libraryMade? : Answer :=
  match module, name with
  | "operator", "itemgetter" | "operator", "attrgetter" | "operator", "methodcaller" =>
    some (vm.newGetter name args)
  | "typing", "TypeVar" => some (vm.newOpenType args)
  | "typing", "NewType" => some (newNamedType args)
  | "typing", "ForwardRef" => some (newReference args)
  | _, _ => none

def libraryCalled (number : Nat) (args : Args) : Eval Hint :=
  match module, name with
  | "operator", name => vm.gotBy name number args
  | "typing", "NewType" => args.one
  | _, _ => misfit

def addNamed (named : NamedHints) : Eval Args :=
  if named.any fun (word, _) => (args.named.lookup word).isSome then misfit
  else return { args with named := args.named ++ named }

def argumentsOf (vm : VM) (env : Env) : Args -> List Expr -> Eval Args
  | found, [] => return found
  | found, argument :: rest => do
    match argument with
    | .named word inner =>
      let value <- vm.eval env inner
      argumentsOf vm env (<- addNamed found [(word, value)]) rest
    | .spread inner =>
      let items <- vm.items (<- vm.eval env inner)
      argumentsOf vm env { found with plain := found.plain ++ items } rest
    | .spreadEntries inner =>
      let some table <- tableIn? (<- vm.eval env inner) | misfit
      let named <- table.toList.mapM fun (key, value) => do return (<- wordArgument key, value)
      argumentsOf vm env (<- addNamed found named) rest
    | _ =>
      let value <- vm.eval env argument
      argumentsOf vm env { found with plain := found.plain ++ [value] } rest

def optional (env : Env) : Option Expr -> Eval Hint
  | none => return .nothing
  | some expr => vm.eval env expr

def callFunction (number : Nat) (args : Args) : Eval Hint := do
  let some (.fn fn) <- content? number | misfit
  let args := { args with plain := fn.receiver?.toList ++ args.plain }
  let bound <- (<- lift (Param.bind fn.params args)).mapM
    fun (word, value) => do return (word, some (<- boxed value))
  let body := fn.body
  let fresh := body.ownNames.eraseDups.filter fun word => (bound.lookup word).isNone
  let env := fn.env
  let own := bound.map Prod.fst ++ fresh
  let globals := body.outermost ++ env.globals.filter fun word => !own.contains word
  let title := env.title ++ fn.name ++ ".<locals>."
  let inner <- enter { env with globals, title } (bound ++ fresh.map fun word => (word, none))
  if fn.isPutOff then newStream "coroutine" (.body inner body)
  else if body.yields then newStream "generator" (.body inner body)
  else within inner (vm.runBody inner body)

def callStep (callee : Hint) (args : Args) : Eval Hint := match callee with
  | .fn number _ => vm.callFunction number args
  | .builtin cls | .generic cls _ => do
    match <- vm.asked cls.name args with
    | .inl found => return found
    | .inr args =>
      let made? := match cls with
        | .library module name => vm.libraryMade? module name args
        | _ => none
      made?.getD (vm.madeBy cls args)
  | .declared number _ => vm.madeByDeclared number args
  | .bound self name => vm.callMethod self name args
  | .method .method owner name | .method .op owner name => vm.callFromClass owner name args
  | .routine name => do
    match <- vm.asked name args with
    | .inl found => return found
    | .inr args => (vm.libraryGiven? name args).getD (vm.givenBy name args)
  | .thing .. | .const .. => do
    let some method <- vm.special? callee "__call__" | misfit
    vm.call method args
  | .inst (.builtin (.standard "staticmethod")) number _ => do
    let some inner := (<- wrappedParts number).lookup "__func__" | misfit
    vm.call inner args
  | .inst (.builtin (.library module name)) number _ => vm.libraryCalled module name number args
  | _ => misfit
end VM
end RouteDocs.Class

namespace RouteDocs.Class.VM
open Eval

variable (vm : VM) (env : Env)

def augment (op : BinaryOp) (target value : Expr) : Eval Unit := do
  match target with
  | .name word =>
    let old <- vm.lookUp env word
    let new <- vm.augmented op old (<- vm.eval env value)
    assign env word new
  | .member owner word =>
    let owner <- vm.eval env owner
    let old <- vm.member owner word
    let new <- vm.augmented op old (<- vm.eval env value)
    vm.assignMember owner word new
  | .subscript base index =>
    let base <- vm.eval env base
    let index <- vm.eval env index
    let old <- vm.subscript base index
    let new <- vm.augmented op old (<- vm.eval env value)
    vm.setItem base index new
  | _ => misfit

mutual
def dropTarget (vm : VM) (env : Env) : Expr -> Eval Unit
  | .name word => vm.unassign env word
  | .member owner word => do vm.dropMember (<- vm.eval env owner) word
  | .subscript base index => do
    let base <- vm.eval env base
    vm.dropItem base (<- vm.eval env index)
  | .row targets => dropTargets vm env targets
  | _ => misfit

def dropTargets (vm : VM) (env : Env) : List Expr -> Eval Unit
  | [] => return ()
  | target :: rest => do
    dropTarget vm env target
    dropTargets vm env rest
end

def noteType (word : String) (hint : Hint) : Eval Unit := do
  let space := spaceFor env notesName
  let table <- match <- space.get? vm.scope notesName with
    | some found => pure found
    | none => do
      let fresh <- newTable {}
      space.put notesName fresh
      pure fresh
  vm.setItem table (Hint.words word) hint

def note (target hint : Expr) (value? : Option Expr) : Eval Unit := do
  if let some value := value? then
    vm.assignTo env target (<- vm.eval env value)
  let isInFunction := !env.frames.isEmpty && !env.isInClass
  match target with
  | .name word =>
    if !isInFunction then vm.noteType env word (<- vm.eval env hint)
  | _ =>
    if value?.isNone then
      match target with
      | .member owner _ => discard (vm.eval env owner)
      | .subscript base index =>
        discard (vm.eval env base)
        discard (vm.eval env index)
      | _ => pure ()
    if !isInFunction then discard (vm.eval env hint)

def publicNames (module : String) : Eval NamedHints := do
  let declared <- Space.home.all vm.scope
  let words := Library.own module ++ (Library.foreignTo module).map Prod.fst ++
    (if module = "typing" then Form.all.map Form.name else []) ++
    (((Library.functions.lookup module).getD "").splitOn " ") ++
    (((Library.routines.lookup module).getD "").splitOn " ") ++
    (if module = "builtins" then standardTable.keys.filterMap nameOf? else []) ++
    (if module = Hint.declaredHome then declared.map Prod.fst else [])
  words.filterMapM fun word => do
    if word.startsWith "_" then return none
    return (<- moduleMember? vm.scope module word).map fun found => (word, found)

def docOf : List Stmt -> Option Hint
  | .evaluate (.literal (.text pieces)) :: _ => some (.text pieces)
  | _ => none

def decorated (decorators : List Hint) (value : Hint) : Eval Hint :=
  decorators.reverse.foldlM (fun found decorator => vm.call decorator { plain := [found] }) value

def defined (isPutOff : Bool) (name : String)
    (params : List FormalParameter) (result? : Option Expr) (body : List Stmt) :
    Eval Hint := do
  let bound <- params.mapM fun param => do
    let some default := param.default? | return (param.kind, param.name, none)
    return (param.kind, param.name, some (<- vm.eval env default))
  let hints <- params.filterMapM fun param => do
    let some hint := param.hint? | return none
    return some (param.name, <- vm.eval env hint)
  let result <- match result? with
    | none => pure []
    | some hint => pure [("return", <- vm.eval env hint)]
  let fn : Function := {
    name, params := bound, body := .stmts body, env, isPutOff
    hints := hints ++ result, doc? := docOf body }
  return .fn (<- keep (.fn fn)) name

def baseClasses : Hint -> List Hint
  | .generic cls _ => [.builtin cls]
  | .formOf form _ | .form form =>
    match form.origin? with
    | some origin => [.builtin origin]
    | none => [.builtin .none]
  | base => [base]

def classBy (maker? : Option Hint) (parts : ClassParts) (table : Hint)
    (named : NamedHints) : Eval Hint := do
  let plain (maker : Hint) : Bool := match maker with
    | .builtin cls => cls.line.contains .type
    | _ => false
  match maker? with
  | some maker =>
    if plain maker then vm.makeClass { parts with named }
    else
      let plain : List Hint := [.words parts.name, .row parts.bases, table]
      vm.call maker { plain, named }
  | none => vm.makeClass { parts with named }

def declared (name : String) (args : List Expr) (body : List Stmt) : Eval Hint := do
  let given <- vm.argumentsOf env {} args
  let maker? := given.named.lookup "metaclass"
  let named := given.named.filter fun entry => entry.1 ≠ "metaclass"
  let bases := given.plain.flatMap baseClasses
  let title := env.title ++ name
  let number <- keep (.dict {})
  let table := Hint.cell .dict number
  let self <- keep (.frame [("__class__", none)] none)
  let inner : Env := { env with
    names := { outer := .table number, inner := env.names.inner }
    frames := self :: env.frames
    isInClass := true, globals := (Body.stmts body).outermost, title := title ++ "." }
  let home <- vm.lookUp { inner with names := { inner.names with outer := .fixed [] } } "__name__"
  let doc := (docOf body).toList.map fun doc => (Hint.words "__doc__", doc)
  store number (.dict (.ofList ([(Hint.words "__module__", home),
    (Hint.words wholeTitleName, Hint.words title)] ++ doc)))
  discard (within inner (vm.run inner body))
  let kept <- tableOf number
  let entries := kept.toList.filterMap fun (key, value) =>
    (nameOf? key).map fun word => (word, value)
  let cls <- vm.classBy maker? { name, bases, entries, isDeclared := true } table named
  putVariable self "__class__" cls
  return cls

def errorFrom (value : Hint) : Eval Hint := do
  match value with
  | .builtin _ | .declared .. =>
    if (<- vm.scopeNow).isErrorClass value then vm.call value {} else misfit
  | _ => return value

def raise {α : Type} (vm : VM) (value : Hint) : Eval α := do
  let error <- vm.errorFrom value
  Eval.raise (<- vm.scopeNow) error

def raiseAgain {α : Type} : Eval α := do
  match (<- get).handled with
  | (fault, error) :: _ =>
    modify fun mem => { mem with raised? := some (fault, error) }
    throw fault
  | [] => throw .disturbed

def isCaught (error wanted : Hint) : Eval Bool := do
  let scope <- vm.scopeNow
  let classes <- match wanted with
    | .row items => pure items
    | alone => pure [alone]
  if !classes.all scope.isErrorClass then misfit
  classes.anyM fun cls => vm.extendsAny error.classHint classDepth cls

def outcomeOf {α : Type} (action : Eval α) : Eval (Tried α) :=
  ExceptT.mk do return .ok (<- action.run)

def handlerFor (vm : VM) (env : Env) (error : Hint) :
    List (Option Expr × Option String × List Stmt) ->
    Eval (Option (Option String × List Stmt))
  | [] => return none
  | (none, name?, body) :: _ => return some (name?, body)
  | (some wanted, name?, body) :: rest => do
    if <- vm.isCaught error (<- vm.eval env wanted) then return some (name?, body)
    handlerFor vm env error rest

def handle (fault : HintFault) (handlers : List (Option Expr × Option String × List Stmt)) :
    Eval Ending := do
  let error <- errorOf fault
  let some (name?, body) <- vm.handlerFor env error handlers | throw fault
  if let some word := name? then assign env word error
  let before := (<- get).handled
  modify fun mem => { mem with handled := (fault, error) :: before }
  let outcome <- outcomeOf (vm.run env body)
  modify fun mem => { mem with handled := before }
  if let some word := name? then
    discard (Eval.attempt (fun _ => true) (vm.unassign env word))
  lift outcome

def attempt (body : List Stmt) (handlers : List (Option Expr × Option String × List Stmt))
    (otherwise finally_ : List Stmt) : Eval Ending := do
  let guarded : Eval Ending := do
    match <- outcomeOf (vm.run env body) with
    | .ok .through => vm.run env otherwise
    | .ok ending => return ending
    | .error fault => vm.handle env fault handlers
  let outcome <- outcomeOf guarded
  match <- vm.run env finally_ with
  | .through => lift outcome
  | ending => return ending

def managed (value : Expr) (target? : Option Expr) (body : List Stmt) : Eval Ending := do
  let manager <- vm.eval env value
  match <- vm.special? manager "__enter__", <- vm.special? manager "__exit__" with
  | some enter, some leave =>
    let entered <- vm.call enter {}
    let guarded : Eval Ending := do
      if let some target := target? then vm.assignTo env target entered
      vm.run env body
    match <- outcomeOf guarded with
    | .ok ending =>
      discard (vm.call leave { plain := [.nothing, .nothing, .nothing] })
      return ending
    | .error fault =>
      let error <- errorOf fault
      let answer <- vm.call leave { plain := [error.classHint, error, .nothing] }
      if <- vm.isTrue answer then return .through else throw fault
  | _, _ => misfit

def whileTrue (vm : VM) (env : Env) (condition : Expr)
    (body : List Stmt) : Nat -> Eval Ending
  | 0 => throw .tooLarge
  | fuel + 1 => do
    if !(<- vm.isTrue (<- vm.eval env condition)) then return .through
    match <- vm.run env body with
    | .through | .goneOn => whileTrue vm env condition body fuel
    | ending => return ending

def forEach (vm : VM) (env : Env) (target : Expr) (stream : Nat)
    (body : List Stmt) : Nat -> Eval Ending
  | 0 => throw .tooLarge
  | fuel + 1 => do
    let some item <- vm.advance stream | return .through
    vm.assignTo env target item
    match <- vm.run env body with
    | .through | .goneOn => forEach vm env target stream body fuel
    | ending => return ending

def behindLoop (otherwise : List Stmt) : Ending -> Eval Ending
  | .through => vm.run env otherwise
  | .left => return .through
  | ending => return ending

def runOne (stmt : Stmt) : Eval Ending := do
  match stmt with
  | .evaluate expr => discard (vm.eval env expr)
  | .assign targets value =>
    let found <- vm.eval env value
    targets.forM fun target => vm.assignTo env target found
  | .augment target op value => vm.augment env op target value
  | .note target hint value? => vm.note env target hint value?
  | .drop targets => vm.dropTargets env targets
  | .pass | .outermost _ | .enclosing _ => pure ()
  | .takeModule path name? =>
    let found <- moduleAt path name?.isNone
    assign env (Stmt.moduleName path name?) found
  | .takeMembers path (some names) =>
    names.forM fun (word, name) => do
      assign env name (<- vm.importMember path word)
  | .takeMembers path none =>
    discard (moduleAt path false)
    (<- vm.publicNames (".".intercalate path)).forM fun (word, found) => assign env word found
  | .assure condition message? =>
    if !(<- vm.isTrue (<- vm.eval env condition)) then
      let args <- message?.toList.mapM (vm.eval env)
      vm.raise (<- newError (.standard "AssertionError") args)
  | .raise none _ => raiseAgain
  | .raise (some error) cause? =>
    let error <- vm.errorFrom (<- vm.eval env error)
    if let some cause := cause? then
      let cause <- vm.errorFrom (<- vm.eval env cause)
      if !(cause matches .nothing) && !(<- vm.scopeNow).isErrorClass cause.classHint then
        misfit
      putPart "__cause__" cause error
      putPart "__suppress_context__" (.truth true) error
    vm.raise error
  | .give value? => return .given (<- vm.optional env value?)
  | .leave => return .left
  | .goOn => return .goneOn
  | .choice condition yes no =>
    let holds <- vm.isTrue (<- vm.eval env condition)
    return <- vm.run env (if holds then yes else no)
  | .whileTrue condition body otherwise =>
    return <- vm.behindLoop env otherwise (<- vm.whileTrue env condition body roundBound)
  | .each target source body otherwise =>
    let stream <- vm.streamOf (<- vm.eval env source)
    return <- vm.behindLoop env otherwise (<- vm.forEach env target stream body roundBound)
  | .define isPutOff name params result? decorators body =>
    let decorators <- decorators.mapM (vm.eval env)
    let fn <- vm.defined env isPutOff name params result? body
    assign env name (<- vm.decorated decorators fn)
  | .declare name args decorators body =>
    let decorators <- decorators.mapM (vm.eval env)
    let cls <- vm.declared env name args body
    assign env name (<- vm.decorated decorators cls)
  | .attempt body handlers otherwise finally_ =>
    return <- vm.attempt env body handlers otherwise finally_
  | .managed value target? body => return <- vm.managed env value target? body
  return .through

def runStep (vm : VM) (env : Env) : List Stmt -> Eval Ending
  | [] => return .through
  | stmt :: rest => do
    match <- vm.runOne env stmt with
    | .through => runStep vm env rest
    | ending => return ending
end RouteDocs.Class.VM
