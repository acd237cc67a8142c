import RouteDocs.Class.Basic
import RouteDocs.Class.Statement.Reader
import RouteDocs.Class.Value.Table

/-! # Memory -/

namespace RouteDocs.Class
inductive Space where
  | home
  | copied (number : Nat) (entries : NamedHints)
  | fixed (entries : NamedHints)
  | module (name : String)
  | table (number : Nat)

structure Names where
  outer : Space := .home
  inner : Space := .home

structure Env where
  names : Names := {}
  frames : List Nat := []
  globals : List String := []
  isInClass : Bool := false
  title : String := ""

abbrev Clause := Expr × Expr × List Expr

structure Loop where
  env : Env
  results : List Expr
  clauses : List Clause
  active : List Nat

inductive Reply where
  | value (given : Hint)
  | error (raised : Hint)

structure Yielding where
  env : Env
  body : Body
  start : List (String × Option Hint)
  replies : List Reply := []
  rest : List Hint := []
  result : Tried Hint := .ok .nothing
  limit : Nat
  isCut : Bool := false

inductive Flow where
  | items (rest : List Hint) (fault? : Option HintFault)
  | list (number : Nat) (place : Nat)
  | backward (number : Nat) (place : Nat)
  | numbers (next step : Int) (left : Nat)
  | entries (kind : ViewKind) (number : Nat) (place size : Nat)
  | loop (loop : Loop)
  | mapped (callee : Hint) (sources : List Nat)
  | chosen (callee : Hint) (source : Nat)
  | zipped (sources : List Nat) (isStrict : Bool)
  | numbered (next : Int) (source : Nat)
  | calls (callee last : Hint)
  | pulled (callee : Hint)
  | indexed (callee : Hint) (next : Nat)
  | body (env : Env) (body : Body)
  | yielding (state : Yielding)
  | ended

structure Function where
  name : String := "<lambda>"
  params : List (ParamKind × String × Option Hint)
  body : Body
  env : Env
  hints : NamedHints := []
  doc? : Option Hint := none
  receiver? : Option Hint := none
  members : NamedHints := []
  isPutOff : Bool := false

inductive Content where
  | list (items : Array Hint)
  | dict (table : Table)
  | set (items : Buckets)
  | octets (bytes : List Nat)
  | stream (flow : Flow)
  | frame (bindings : List (String × Option Hint)) (table? : Option Nat)
  | fn (fn : Function)
  | code (body : Body)
  | attrs (entries : NamedHints)

structure Memory where
  cells : Array Content := #[]
  names : NamedHints := []
  copied : NamedHints := []
  attrs : List ((Nat × String) × Hint) := []
  yielded : List Hint := []
  yieldsLeft : Nat := 0
  replies : List Reply := []
  returned : Hint := .nothing
  current : Env := {}
  dropped : List String := []
  made : List Class := []
  raised? : Option (HintFault × Hint) := none
  handled : List (HintFault × Hint) := []
  removed : List (Nat × String) := []

abbrev Eval := ExceptT HintFault (StateM Memory)

abbrev Answer := Option (Eval Hint)

structure Args where
  plain : List Hint := []
  named : NamedHints := []

namespace Eval
variable (number : Nat) (value : Hint) {α : Type} (content : Content)

def lift (outcome : Tried α) : Eval α := match outcome with
  | .ok found => pure found
  | .error fault => throw fault

def keep : Eval Nat := modifyGet fun mem =>
    (mem.cells.size, { mem with cells := mem.cells.push content })

def content? : Eval (Option Content) := do
  return (<- get).cells[number]?

def store : Eval Unit :=
  modify fun mem => { mem with cells := mem.cells.setIfInBounds number content }

def attempt (isForeseen : HintFault -> Bool) (action : Eval α) : Eval (Option α) :=
  ExceptT.mk do
    match <- action.run with
    | .ok found => return .ok (some found)
    | .error fault => return if isForeseen fault then .ok none else .error fault

def within (environment : Env) (action : Eval α) : Eval α := ExceptT.mk do
    let before <- modifyGet fun mem => (mem.current, { mem with current := environment })
    let outcome <- action.run
    modify fun mem => { mem with current := before }
    return outcome

def newList (items : List Hint) : Eval Hint := do
  return .cell .list (<- keep (.list items.toArray))

def newTable (table : Table) : Eval Hint := do
  return .cell .dict (<- keep (.dict table))

def newSet (items : Buckets) : Eval Hint := do
  return .cell .set (<- keep (.set items))

def newOctets (bytes : List Nat) : Eval Hint := do
  return .cell .octets (<- keep (.octets bytes))

def newStream (name : String) (flow : Flow) : Eval Hint := do
  return .cell (.stream name) (<- keep (.stream flow))

def listItems : Eval (List Hint) := do
  let some (.list items) <- content? number | return []
  return items.toList

def storeItems (items : List Hint) : Eval Unit := store number (.list items.toArray)

def tableOf : Eval Table := do
  let some (.dict table) <- content? number | return {}
  return table

def bucketsOf : Eval Buckets := do
  let some (.set items) <- content? number | return {}
  return items

def octetsOf : Eval (List Nat) := do
  let some (.octets bytes) <- content? number | return []
  return bytes

def attributesOf : Eval NamedHints := do
  let some (.attrs entries) <- content? number | return []
  return entries

def opened : Eval Hint := do
  match value with
  | .cell .list number => return .list (<- listItems number)
  | .cell .dict number => return .dict (<- tableOf number).toList
  | .cell .set number => return .set (<- bucketsOf number).items
  | .cell .octets number => return .octetList (<- octetsOf number)
  | .view kind (.cell .dict number) => return .view kind (.dict (<- tableOf number).toList)
  | .proxy (.cell .dict number) => return .proxy (.dict (<- tableOf number).toList)
  | _ => return value

def boxed : Eval Hint := match value with
  | .list items => newList items
  | .dict entries => newTable (.ofList entries)
  | .set items => newSet (.ofList items)
  | .octetList bytes => newOctets bytes
  | _ => pure value

def valueDepth : Nat := 500

def innerMark : CellKind -> String
  | .dict => "\x7b...\x7d"
  | _ => "[...]"

/-- A value with everything that is kept in memory in its place. `around` are the numbers of
what it stands in. -/
def frozenIn (mem : Memory) : (depth : Nat) -> (env : List Nat) -> Hint -> Hint
  | 0, _, value => value
  | depth + 1, env, value =>
    let all (env : List Nat) (items : List Hint) : List Hint := items.map (frozenIn mem depth env)
    let pairs (env : List Nat) (entries : List (Hint × Hint)) : List (Hint × Hint) :=
      entries.map fun (key, item) => (frozenIn mem depth env key, frozenIn mem depth env item)
    match value with
    | .cell kind number =>
      if number ∈ env then .inst (.builtin .object) number (innerMark kind)
      else match mem.cells[number]? with
        | some (.list items) => .list (all (number :: env) items.toList)
        | some (.dict table) => .dict (pairs (number :: env) table.toList)
        | some (.set items) => .set (all (number :: env) items.items)
        | some (.octets bytes) => .octetList bytes
        | _ => value
    | .thing kind cls number =>
      if kind = .plain || kind = .changing then value
      else if number ∈ env then .inst (.builtin .object) number "..."
      else match mem.cells[number]? with
        | some (.attrs entries) =>
          .record kind cls (entries.map fun (name, item) =>
            (name, frozenIn mem depth (number :: env) item))
        | _ => value
    | .row items => .row (all env items)
    | .list items => .list (all env items)
    | .frozenSet items => .frozenSet (all env items)
    | .set items => .set (all env items)
    | .dict entries => .dict (pairs env entries)
    | .proxy table => .proxy (frozenIn mem depth env table)
    | .view kind table => .view kind (frozenIn mem depth env table)
    | .slice start stop step =>
      .slice (frozenIn mem depth env start) (frozenIn mem depth env stop)
        (frozenIn mem depth env step)
    | .generic cls items => .generic cls (all env items)
    | .unpacked cls items => .unpacked cls (all env items)
    | .union items => .union (all env items)
    | .bars items => .bars (all env items)
    | .formOf form items => .formOf form (all env items)
    | .classField item => .classField (frozenIn mem depth env item)
    | .error cls number items => .error cls number (all env items)
    | .bound self name => .bound (frozenIn mem depth env self) name
    | _ => value

def frozen : Eval Hint := do
  return frozenIn (<- get) valueDepth [] value

def thawedWithin : (depth : Nat) -> Hint -> Eval Hint
  | 0, value => pure value
  | depth + 1, value => do
    match value with
    | .list items => newList (<- items.mapM (thawedWithin depth))
    | .dict entries =>
      let entries <- entries.mapM fun (key, item) => do return (key, <- thawedWithin depth item)
      newTable (.ofList entries)
    | .set items => newSet (.ofList items)
    | _ => return value

def thawed : Eval Hint := thawedWithin valueDepth value

def isTrue (value : Hint) : Eval Bool := do
  return (<- opened value).isTrue

def newNumber : Eval Nat := keep (.attrs [])

def newError (cls : Builtin) (args : List Hint) : Eval Hint := do
  return .error cls (<- newNumber) args

def newThing (kind : ThingKind) (cls : Hint) (entries : NamedHints) : Eval Hint := do
  return .thing kind cls (<- keep (.attrs entries))

def putNamed {κ : Type} [BEq κ] (name : κ) (value : Hint) (entries : List (κ × Hint)) :
    List (κ × Hint) :=
  if entries.any fun entry => entry.1 == name then
    entries.map fun entry => if entry.1 == name then (name, value) else entry
  else entries ++ [(name, value)]
end Eval

inductive Ending where
  | through
  | left
  | goneOn
  | given (value : Hint)

structure VM where
  scope : Scope
  eval : Env -> Expr -> Eval Hint
  call : Hint -> Args -> Eval Hint
  advance : Nat -> Eval (Option Hint)
  run : Env -> List Stmt -> Eval Ending
  special? : Hint -> String -> Eval (Option Hint)

def standardValues : NamedHints := [ ("Ellipsis", .dots), ("NotImplemented", .notImplemented),
  ("__debug__", .truth true),
  ("__name__", .words "builtins"),
  ("__doc__", .words ("Built-in functions, exceptions, and other objects.\n\n" ++
    "Noteworthy: None is the `nil' object; Ellipsis represents `...' in slices.")),
  ("__package__", .words ""),
  ("__build_class__", .routine "__build_class__"),
  ("__import__", .routine "__import__"),
  ("exit", .inst (.builtin .object) 3 "Use exit() or Ctrl-D (i.e. EOF) to exit"),
  ("quit", .inst (.builtin .object) 4 "Use quit() or Ctrl-D (i.e. EOF) to exit"),
  ("help", .inst (.builtin .object) 5
    "Type help() for interactive help, or help(object) for help about object.")]

def standardName? (word : String) : Option Hint := match Builtin.ofName? word with
  | some cls => some (.builtin cls)
  | none =>
    if word ∈ Standard.routines then some (.routine word) else standardValues.lookup word

def standardTableName : String := "__builtins__"

def standardTable : Table :=
  let words := ["None", "Ellipsis", "NotImplemented", "False", "True"] ++
    Builtin.everywhere.map Builtin.name ++ Standard.classes.map Prod.fst ++ Standard.routines ++
    standardValues.map Prod.fst
  let constants : NamedHints := [("None", .nothing), ("False", .truth false), ("True", .truth true)]
  .ofList (words.filterMap fun word =>
    ((constants.lookup word).or (standardName? word)).map fun found => (Hint.words word, found))

def nameOf? (key : Hint) : Option String := key.chars?.map String.ofList

namespace Eval
def keptValue (number : Nat) (word : String) (value : Hint) : Eval Hint := do
  match (<- get).attrs.lookup (number, word), value with
  | some found, _ => return found
  | none, .list _ | none, .dict _ =>
    let found <- thawed value
    modify fun mem => { mem with attrs := ((number, word), found) :: mem.attrs }
    return found
  | none, _ => return value
end Eval

namespace Space
def get? (scope : Scope) (word : String) : Space -> Eval (Option Hint)
  | home => do
    let mem <- get
    return (mem.names.lookup word).or
      (if mem.dropped.contains word then none else scope.named? word)
  | copied number entries => do
    match (<- get).copied.lookup word, entries.lookup word with
    | some found, _ => return some found
    | none, some value => return some (<- Eval.keptValue number word value)
    | none, none => return none
  | fixed entries => match entries.lookup word with
    | some value => some <$> Eval.thawed value
    | none => return none
  | module name =>
    return if name = "builtins" then (standardName? word).or (Module.member? name word)
      else Module.member? name word
  | table number => do return (<- Eval.tableOf number).get? (Hint.words word)

def put (word : String) (value : Hint) : Space -> Eval Unit
  | home => modify fun mem => { mem with
    names := Eval.putNamed word value mem.names }
  | copied .. => modify fun mem => { mem with copied := Eval.putNamed word value mem.copied }
  | fixed _ | module _ => misfit
  | table number => do
    let table <- Eval.tableOf number
    Eval.store number (.dict (table.insert (Hint.words word) value))

def drop (scope : Scope) (word : String) (space : Space) : Eval Bool := do
  let isThere := (<- space.get? scope word).isSome
  match space with
  | home => modify fun mem => { mem with
      names := mem.names.filter fun entry => entry.1 ≠ word
      dropped := word :: mem.dropped }
  | copied .. => modify fun mem => { mem with
      copied := mem.copied.filter fun entry => entry.1 ≠ word }
  | fixed _ | module _ => misfit
  | table number =>
    let table <- Eval.tableOf number
    if isThere then Eval.store number (.dict (table.erase (Hint.words word)))
  return isThere

def all (scope : Scope) (space : Space) : Eval NamedHints := do
  let overlaid (names : List String) (more : NamedHints) : Eval NamedHints := do
    let fresh := (more.map Prod.fst).filter fun word => !names.contains word
    (names ++ fresh).filterMapM fun word => do
      return (<- space.get? scope word).map fun found => (word, found)
  match space with
  | home =>
    let mem <- get
    let known := homeNames.map Prod.fst ++ scope.names.entries.map Prod.fst
    overlaid (known.filter fun word => !mem.dropped.contains word) mem.names
  | copied _ entries => overlaid (entries.map Prod.fst) (<- get).copied
  | fixed entries => return entries
  | module _ => return []
  | table number => return (<- Eval.tableOf number).toList.filterMap fun (key, value) =>
    (nameOf? key).map fun word => (word, value)
end Space

def moduleMember? (scope : Scope) (module word : String) : Eval (Option Hint) := do
  if module = "builtins" then
    if let some found := standardName? word then return some found
  if module = Hint.declaredHome then
    if let some found <- Space.home.get? scope word then return some found
  return Module.member? module word

def names (cls : Class) : Names where
  outer := match nameOf? cls.homeValue with
    | some home =>
      if home = Hint.declaredHome then .home
      else if (Module.ofName? home).isSome then .module home
      else .fixed []
    | none => .fixed []
  inner := .copied cls.number cls.ownEntries

def unboundMessage (word : String) (isNearest : Bool) : String := if isNearest then
    s!"cannot access local variable '{word}' where it is not associated with a value"
  else
    s!"cannot access free variable '{word}' where it is not associated with a value " ++
      "in enclosing scope"

def variableIn (word : String) : (isNearest : Bool) -> List Nat -> Eval (Option Hint)
  | _, [] => return none
  | isNearest, number :: rest => do
    match <- Eval.content? number with
    | some (.frame bindings _) =>
      match bindings.lookup word with
      | some (some value) => return some value
      | some none => throw (.undefined (unboundMessage word isNearest))
      | none => variableIn word false rest
    | _ => variableIn word false rest

def frameOf? (word : String) : List Nat -> Eval (Option Nat)
  | [] => return none
  | number :: rest => do
    match <- Eval.content? number with
    | some (.frame bindings _) =>
      if (bindings.lookup word).isSome then return some number else frameOf? word rest
    | _ => frameOf? word rest

def putVariable (number : Nat) (word : String) (value : Hint) : Eval Unit := do
  let some (.frame bindings table?) <- Eval.content? number | return ()
  let changed := bindings.map fun entry =>
    if entry.1 = word then (word, some value) else entry
  Eval.store number (.frame changed table?)

def standardIn (scope : Scope) (space : Space) (word : String) : Eval (Option Hint) := do
  let .table _ := space | return standardName? word
  let some (.cell .dict number) <- space.get? scope standardTableName | return standardName? word
  return (<- Eval.tableOf number).get? (Hint.words word)

namespace VM
def withoutRemoved (removed : List (Nat × String)) (cls : Class) : Class :=
  let gone := removed.filter fun entry => entry.1 = cls.number
  if gone.isEmpty then cls
  else { cls with attrs := OrderedMap.ofList (cls.attrs.entries.filter
    fun (name, _) => gone.all fun entry => entry.2 ≠ name) }

def scopeIn (mem : Memory) (scope : Scope) : Scope :=
  if mem.removed.isEmpty then { scope with made := mem.made }
  else { scope with
    classes := scope.classes.map (withoutRemoved mem.removed)
    made := mem.made.map (withoutRemoved mem.removed) }

variable (vm : VM)

def scopeNow : Eval Scope := do
  return scopeIn (<- get) vm.scope

def coreClasses : List Builtin := [
  .int, .float, .str, .bytes, .list, .tuple, .set, .frozenset, .dict, .standard "complex",
  .standard "bytearray"]

def coreClass? (scope : Scope) (number : Nat) : Option Builtin :=
  (scope.foreignLine number).find? coreClasses.contains

def coreName : String := ""

variable (value : Hint) (env : Env) (word : String)

def core : Eval Hint := do
  match value with
  | .thing _ _ number => return ((<- Eval.attributesOf number).lookup coreName).getD value
  | .const (.declared number _) _ inner =>
    return if (coreClass? (<- vm.scopeNow) number).isSome then inner else value
  | _ => return value

def lookUp : Eval Hint := do
  if !env.globals.contains word then
    if env.isInClass then
      if let some found <- env.names.outer.get? vm.scope word then return found
    if let some found <- variableIn word true env.frames then return found
    if env.frames.isEmpty then
      if let some found <- env.names.outer.get? vm.scope word then return found
  if let some found <- env.names.inner.get? vm.scope word then return found
  if word = standardTableName then return <- Eval.newTable standardTable
  let some found <- standardIn vm.scope env.names.inner word | throw (.undefinedName word)
  return found

def spaceFor : Space :=
  if env.globals.contains word then env.names.inner
  else if env.isInClass || env.frames.isEmpty then env.names.outer
  else env.names.inner

def frameFor? : Eval (Option Nat) :=
  if env.globals.contains word || env.isInClass then return none
  else frameOf? word env.frames

def assign (value : Hint) : Eval Unit := do
  match <- frameFor? env word with
  | some number => putVariable number word value
  | none => (spaceFor env word).put word value

def unassign : Eval Unit := do
  match <- frameFor? env word with
  | some number =>
    let some (.frame bindings table?) <- Eval.content? number | return ()
    if (bindings.lookup word).join.isNone then throw (.undefined (unboundMessage word true))
    let changed := bindings.map fun entry => if entry.1 = word then (word, none) else entry
    Eval.store number (.frame changed table?)
  | none =>
    if !(<- (spaceFor env word).drop vm.scope word) then throw (.undefinedName word)

def enter (bindings : List (String × Option Hint)) : Eval Env := do
  return { env with
    frames := (<- Eval.keep (.frame bindings none)) :: env.frames, isInClass := false }

def frameTable (number : Nat) : Eval Nat := do
  match <- Eval.content? number with
  | some (.frame bindings table?) =>
    let table <- match table? with
      | some known => pure known
      | none => Eval.keep (.dict {})
    let entries <- Eval.tableOf table
    let now := bindings.foldl (fun found (word, value?) => match value? with
      | some value => found.insert (Hint.words word) value
      | none => found.erase (Hint.words word)) entries
    Eval.store table (.dict now)
    Eval.store number (.frame bindings (some table))
    return table
  | _ => Eval.keep (.dict {})

def constantsOf (scope : Scope) (number : Nat) : List Hint := match scope.get? number with
  | some cls => cls.constants.map fun (name, value) => .const cls.hint name value
  | none => []

def keptItems : Eval (List Hint) := do
  match value with
  | .declared number _ =>
    match constantsOf (<- vm.scopeNow) number with
    | [] => misfit
    | found => return found
  | .thing .model _ number =>
    return (<- Eval.attributesOf number).map fun (name, item) => .row [.words name, item]
  | _ => Eval.lift (<- Eval.opened value).items

def streamName : Hint -> String
  | .cell .list _ | .list _ => "list_iterator"
  | .row _ => "tuple_iterator"
  | .text pieces =>
    if pieces.all fun piece => Hint.pieceCode piece < 128 then "str_ascii_iterator"
    else "str_iterator"
  | .octets _ => "bytes_iterator"
  | .cell .octets _ | .octetList _ => "bytearray_iterator"
  | .cell .set _ | .set _ | .frozenSet _ => "set_iterator"
  | .cell .dict _ | .dict _ | .proxy _ | .view .keys _ => "dict_keyiterator"
  | .view .values _ => "dict_valueiterator"
  | .view .entries _ => "dict_itemiterator"
  | .range .. => "range_iterator"
  | _ => "generator"

def isTrue (vm : VM) (value : Hint) : Eval Bool := do
  match value with
  | .thing _ (.declared ..) _ =>
    match <- vm.special? value "__bool__" with
    | some method =>
      let .truth found <- vm.call method {} | misfit
      return found
    | none =>
      match <- vm.special? value "__len__" with
      | some method => Eval.isTrue (<- vm.call method {})
      | none => Eval.isTrue (<- vm.core value)
  | _ => Eval.isTrue (<- vm.core value)

def iterateCore : Eval Hint := do
  match value with
  | .cell .list number => Eval.newStream (streamName value) (.list number 0)
  | .cell .dict number | .proxy (.cell .dict number) =>
    let table <- Eval.tableOf number
    Eval.newStream (streamName value) (.entries .keys number 0 table.size)
  | .view kind (.cell .dict number) =>
    let table <- Eval.tableOf number
    Eval.newStream (streamName value) (.entries kind number 0 table.size)
  | .range start stop step =>
    Eval.newStream (streamName value) (.numbers start step (Hint.rangeSize start stop step))
  | _ => Eval.newStream (streamName value) (.items (<- vm.keptItems value) none)

def iterate : Eval Hint := do
  match value with
  | .cell (.stream _) _ => return value
  | .thing _ (.declared ..) _ =>
    match <- vm.special? value "__iter__" with
    | some method =>
      let found <- vm.call method {}
      match found, <- vm.special? found "__next__" with
      | .cell (.stream _) _, _ => return found
      | _, some next => Eval.newStream "iterator" (.pulled next)
      | _, none => misfit
    | none =>
      match <- vm.special? value "__getitem__" with
      | some method => Eval.newStream "iterator" (.indexed method 0)
      | none => vm.iterateCore (<- vm.core value)
  | _ => vm.iterateCore (<- vm.core value)

def streamOf : Eval Nat := do
  let .cell _ number <- vm.iterate value | misfit
  return number

/-- The items that are left in a stream, `fuel` at most, behind some others. -/
def drainWithin (vm : VM) (number : Nat) : Nat -> Array Hint -> Eval (List Hint)
  | 0, _ => throw .tooLarge
  | fuel + 1, found => do
    let some item <- vm.advance number | return found.toList
    drainWithin vm number fuel (found.push item)

def drain (number : Nat) : Eval (List Hint) := vm.drainWithin number Hint.sizeBound #[]

def items : Eval (List Hint) := do
  match value with
  | .cell (.stream _) number => vm.drain number
  | .thing kind (.declared ..) _ =>
    if kind = .plain || kind = .changing then vm.drain (<- vm.streamOf value)
    else vm.keptItems value
  | _ => vm.keptItems (<- vm.core value)

/-- The next items of a stream, `count` at most. -/
def take (vm : VM) (number : Nat) : (count : Nat) -> Eval (List Hint)
  | 0 => return []
  | count + 1 => do
    let some item <- vm.advance number | return []
    return item :: (<- take vm number count)

def findWithin {α : Type} (vm : VM) (number : Nat)
    (test : Hint -> Eval (Option α)) : Nat -> Eval (Option α)
  | 0 => throw .tooLarge
  | fuel + 1 => do
    let some item <- vm.advance number | return none
    match <- test item with
    | some found => return some found
    | none => findWithin vm number test fuel

def find {α : Type} (vm : VM) (value : Hint) (test : Hint -> Eval (Option α)) : Eval (Option α) := do
  vm.findWithin (<- vm.streamOf value) test Hint.sizeBound
end VM

namespace Args
variable (args : Args)

/-- The values of parameters. The first `least` of them must be there, and those under `only`
take no argument without a name; no argument can have an empty name. -/
def fit (least : Nat) (params : List String)
    (only : List String := []) : Eval (List (Option Hint)) := do
  let free := (params.drop args.plain.length ++ only).filter fun word => word ≠ ""
  if params.length < args.plain.length || args.named.any fun (word, _) => !free.contains word then
    misfit
  let behind := params.drop args.plain.length
  let named (word : String) : Option Hint := args.named.lookup word
  let found := args.plain.map some ++ behind.map named
  if (found.take least).any Option.isNone then misfit
  return found ++ only.map named

def between (least most : Nat) : Eval (List Hint) := do
  let count := args.plain.length
  if !args.named.isEmpty || count < least || most < count then misfit
  return args.plain

def none : Eval Unit := discard (args.between 0 0)

def one : Eval Hint := do
  let [alone] <- args.between 1 1 | misfit
  return alone

def two : Eval (Hint × Hint) := do
  let [first, second] <- args.between 2 2 | misfit
  return (first, second)
end Args
end RouteDocs.Class
