import RouteDocs.Class.Evaluation.Construction

/-! # Streams and calls of methods -/

namespace RouteDocs.Class.VM
open Eval

section
def unpackMessage (wanted found : Nat) (isAtLeast : Bool) : String := if found < wanted then
    let least := if isAtLeast then "at least " else ""
    s!"not enough values to unpack (expected {least}{wanted}, got {found})"
  else s!"too many values to unpack (expected {wanted})"

mutual
def assignTo (vm : VM) (env : Env) : Expr -> Hint -> Eval Unit
  | .name word, item => assign env word item
  | .member owner word, item => do
    vm.assignMember (<- vm.eval env owner) word item
  | .subscript base index, item => do
    let base <- vm.eval env base
    vm.setItem base (<- vm.eval env index) item
  | .row targets, item => do
    let wanted := targets.length
    match targets.findIdx? fun target => target matches .spread _ with
    | none =>
      let items <- vm.take (<- vm.streamOf item) (wanted + 1)
      if items.length ≠ wanted then
        throw (.badValue (unpackMessage wanted items.length false))
      assignAll vm env targets items
    | some place =>
      let items <- vm.items item
      if items.length + 1 < wanted then
        throw (.badValue (unpackMessage (wanted - 1) items.length true))
      let behind := wanted - place - 1
      let middle <- newList ((items.drop place).take (items.length - place - behind))
      assignAll vm env targets (items.take place ++ middle :: items.drop (items.length - behind))
  | .spread inner, item => assignTo vm env inner item
  | _, _ => misfit

def assignAll (vm : VM) (env : Env) : List Expr -> List Hint -> Eval Unit
  | target :: targets, item :: items => do
    assignTo vm env target item
    assignAll vm env targets items
  | _, _ => return ()
end

def allHold (vm : VM) (env : Env) : List Expr -> Eval Bool
  | [] => return true
  | condition :: rest => do
    if <- vm.isTrue (<- vm.eval env condition) then
      allHold vm env rest
    else return false

def roundWithin (vm : VM) : Nat -> Loop -> Eval (Option (List Hint × Loop))
  | 0, _ => throw .tooLarge
  | fuel + 1, loop => do
    match loop.active with
    | [] => return none
    | stream :: outer =>
      match <- vm.advance stream, loop.clauses.drop outer.length with
      | none, _ => roundWithin vm fuel { loop with active := outer }
      | some _, [] => return none
      | some item, (target, _, conditions) :: inner =>
        assignTo vm loop.env target item
        if <- vm.allHold loop.env conditions then
          match inner with
          | [] =>
            let found <- loop.results.mapM (vm.eval loop.env)
            return some (found, loop)
          | (_, source, _) :: _ =>
            let next <- vm.streamOf (<- vm.eval loop.env source)
            roundWithin vm fuel { loop with active := next :: loop.active }
        else roundWithin vm fuel loop

def roundBound : Nat := 20000000

variable (vm : VM)

def round (loop : Loop) : Eval (Option (List Hint × Loop)) :=
  within loop.env (vm.roundWithin roundBound loop)

def begin_ (env : Env) (results : List Expr)
    (clauses : List Clause) (source : Hint) : Eval Loop := do
  let stream <- vm.streamOf source
  let names := (Expr.clauseNames clauses).eraseDups
  let inner <- enter env (names.map fun word => (word, none))
  return { env := inner, results, clauses, active := [stream] }

def roundsFrom {σ : Type} (vm : VM) (add : σ -> List Hint -> Eval σ) :
    Nat -> Loop -> σ -> Eval σ
  | 0, _, _ => throw .tooLarge
  | fuel + 1, loop, found => do
    let some (results, rest) <- vm.round loop | return found
    roundsFrom vm add fuel rest (<- add found results)

def rounds {σ : Type} (vm : VM) (loop : Loop) (start : σ) (add : σ -> List Hint -> Eval σ) : Eval σ :=
  vm.roundsFrom add Hint.sizeBound loop start

def foreseen {α : Type} (action : Eval α) : Eval α :=
  tryCatch action fun fault => throw (if fault = .exhausted then .disturbed else fault)

def unlessExhausted {α : Type} (action : Eval α) : Eval (Option α) :=
  Eval.attempt (· = .exhausted) action

def runBody (env : Env) : Body -> Eval Hint
  | .expr value => vm.eval env value
  | .stmts stmts => do
    let .given value <- vm.run env stmts | return .nothing
    return value

def firstLimit : Nat := 10000

def handOut (item : Hint) : Eval Hint := do
  let mem <- get
  let reply? := mem.replies.head?
  set { mem with
    yielded := item :: mem.yielded, yieldsLeft := mem.yieldsLeft - 1
    replies := mem.replies.tail }
  match mem.yieldsLeft, reply? with
  | 0, _ | 1, _ => throw .tooLarge
  | _, some (.value given) => return given
  | _, some (.error raised) => Eval.raise (<- vm.scopeNow) raised
  | _, none => return .nothing

def yieldedBy (state : Yielding) (taken : Nat) : Eval Yielding := ExceptT.mk do
    let before <- modifyGet fun mem => (mem, { mem with
      yielded := [], yieldsLeft := state.limit, replies := state.replies.reverse })
    let run := vm.runBody state.env state.body
    let outcome <- (foreseen (within state.env run)).run
    let after <- modifyGet fun mem => (mem, { mem with
      yielded := before.yielded, yieldsLeft := before.yieldsLeft, replies := before.replies })
    let found := { state with
      rest := after.yielded.reverse.drop taken, result := outcome
      isCut := after.yieldsLeft = 0 }
    return .ok found

def yieldAgain (state : Yielding) (taken : Nat) : Eval Yielding := do
  if let number :: _ := state.env.frames then
    store number (.frame state.start none)
  vm.yieldedBy state taken

def yieldingOf (env : Env) (body : Body) : Eval Yielding := do
  let start <- match env.frames with
    | number :: _ => do
      match <- content? number with
      | some (.frame bindings _) => pure bindings
      | _ => pure []
    | [] => pure []
  return { env, body, start, limit := firstLimit }

/-- The next value of a function that is under way, and how it goes on; `fuel` bounds how often
it is run again. -/
def nextYielded (vm : VM) : Nat -> Yielding -> Eval (Option (Hint × Yielding))
  | 0, _ => throw .tooLarge
  | fuel + 1, state => do
    match state.rest, state.isCut with
    | item :: rest, _ => return some (item, { state with rest })
    | [], true =>
      let wider := { state with limit := 8 * state.limit }
      vm.nextYielded fuel (<- vm.yieldAgain wider state.replies.length)
    | [], false =>
      let result <- lift state.result
      modify fun mem => { mem with returned := result }
      return none

def rerunBound : Nat := 6

def advanceAll (vm : VM) : List Nat -> Eval (List Hint)
  | [] => return []
  | number :: rest => do
    let some item <- vm.advance number | return []
    return item :: (<- advanceAll vm rest)

def firstLonger (vm : VM) : (place : Nat) -> List Nat -> Eval (Option Nat)
  | _, [] => return none
  | place, number :: rest => do
    match <- vm.advance number with
    | some _ => return some place
    | none => firstLonger vm (place + 1) rest

def lengthMessage (place : Nat) (isLonger : Bool) : String :=
  let kind := if isLonger then "longer" else "shorter"
  let number := place + 1
  let others := if place = 1 then " 1" else s!"s 1-{place}"
  s!"zip() argument {number} is {kind} than argument{others}"

def nextRow (sources : List Nat) (isStrict : Bool) : Eval (Option Hint) := do
  let items <- vm.advanceAll sources
  if items.length = sources.length then
    return if sources.isEmpty then none else some (.row items)
  if !isStrict then return none
  if 0 < items.length then throw (.badValue (lengthMessage items.length false))
  let some place <- vm.firstLonger 1 sources.tail | return none
  throw (.badValue (lengthMessage place true))

def viewed : ViewKind -> Hint × Hint -> Hint
  | .keys, (key, _) => key
  | .values, (_, value) => value
  | .entries, (key, value) => .row [key, value]

def stepFlow (flow : Flow) : Eval (Option (Hint × Flow)) := do
  match flow with
  | .items (item :: rest) fault? => return some (item, .items rest fault?)
  | .items [] (some fault) => throw fault
  | .items [] none | .ended => return none
  | .list number place =>
    let some (.list items) <- content? number | return none
    return items[place]?.map fun item => (item, .list number (place + 1))
  | .backward number place =>
    match place, <- content? number with
    | before + 1, some (.list items) =>
      return items[before]?.map fun item => (item, .backward number before)
    | _, _ => return none
  | .numbers next step left =>
    match left with
    | rest + 1 => return some (.int next, .numbers (next + step) step rest)
    | 0 => return none
  | .entries kind number place size =>
    let table <- tableOf number
    if table.size ≠ size then throw .disturbed
    return (table.nextFrom? place).map fun (entry, next) =>
      (viewed kind entry, .entries kind number next size)
  | .loop loop =>
    let some ([item], rest) <- foreseen (vm.round loop) | return none
    return some (item, .loop rest)
  | .mapped callee sources =>
    let items <- vm.advanceAll sources
    if items.length ≠ sources.length then return none
    return (<- unlessExhausted (vm.call callee { plain := items })).map fun item =>
      (item, .mapped callee sources)
  | .chosen callee source =>
    let test (item : Hint) : Eval (Option Hint) := do
      let found <- if callee matches .nothing then pure item else vm.call callee { plain := [item] }
      return if <- vm.isTrue found then some item else none
    return (<- unlessExhausted (vm.findWithin source test Hint.sizeBound)).join.map
      fun item => (item, .chosen callee source)
  | .zipped sources isStrict =>
    return (<- vm.nextRow sources isStrict).map fun item => (item, .zipped sources isStrict)
  | .numbered next source =>
    return (<- vm.advance source).map fun item =>
      (.row [.int next, item], .numbered (next + 1) source)
  | .calls callee last =>
    let some item <- unlessExhausted (vm.call callee {}) | return none
    return if <- equals item last then none else some (item, .calls callee last)
  | .pulled callee =>
    return (<- unlessExhausted (vm.call callee {})).map fun item => (item, .pulled callee)
  | .indexed callee next =>
    let found? <- Eval.attempt (fun fault => fault = .noIndex || fault = .exhausted)
      (vm.call callee { plain := [.int next] })
    return found?.map fun item => (item, .indexed callee (next + 1))
  | .body env body =>
    let state <- vm.yieldedBy (<- yieldingOf env body) 0
    return (<- vm.nextYielded rerunBound state).map fun (item, rest) => (item, .yielding rest)
  | .yielding state =>
    let state := { state with replies := .value .nothing :: state.replies }
    return (<- vm.nextYielded rerunBound state).map fun (item, rest) => (item, .yielding rest)

def Flow.canResume : Flow -> Bool
  | .mapped .. | .chosen .. | .zipped .. | .numbered .. => true
  | _ => false

def advanceStep (number : Nat) : Eval (Option Hint) := do
  let some (.stream flow) <- content? number | return none
  let rest := if Flow.canResume flow then flow else .ended
  store number (.stream rest)
  let some (item, next) <- vm.stepFlow flow | return none
  store number (.stream next)
  return some item
end

def subclasses (scope : Scope) (number : Nat) : List Hint :=
  ((scope.classes ++ scope.made).filter fun cls => cls.bases.contains number).map Class.hint

variable (vm : VM)

def classMethod? (cls : Hint) (name : String) (args : Args) : Answer := match name with
  | "mro" => some do
    args.none
    match cls with
    | .builtin found => newList (found.line.map .builtin)
    | .declared number _ =>
      let scope <- vm.scopeNow
      newList (cls :: scope.listed (scope.ancestorsOf number))
    | _ => misfit
  | "__subclasses__" => some do
    args.none
    match cls with
    | .declared number _ => newList (subclasses (<- vm.scopeNow) number)
    | _ => newList []
  | "__call__" => some (vm.call cls args)
  | "__new__" => some do
    match args.plain with
    | .declared number _ :: rest =>
      let scope <- vm.scopeNow
      let some found := scope.get? number | misfit
      vm.newBare scope found { args with plain := rest }
    | wanted :: rest => vm.call wanted { args with plain := rest }
    | [] => misfit
  | "__instancecheck__" => some do
    return .truth (<- vm.isInstance (<- args.one) cls)
  | "__subclasscheck__" => some do
    return .truth (<- vm.extendsAny (<- args.one) classDepth cls)
  | "__prepare__" => some (newTable {})
  | "__class_getitem__" => some do vm.subscript cls (<- args.one)
  | "fromkeys" => some (vm.tableOfKeys args)
  | "from_bytes" => some (vm.wholeOfBytes args)
  | "maketrans" => some (if cls matches .builtin .str then characterTable args
      else byteTable args)
  | "fromhex" => some (match cls with
    | .builtin .float => realOfHex args
    | .builtin .bytes => do return .octets (<- bytesOfHex args)
    | _ => do newOctets (<- bytesOfHex args))
  | "__getformat__" => some do
    discard (args.between 1 1)
    return .words "IEEE, little-endian"
  | _ => none

def tell (number : Nat) (reply : Reply) : Eval Hint := do
  match <- content? number, reply with
  | some (.stream (.yielding state)), _ =>
    store number (.stream .ended)
    let told := { state with replies := reply :: state.replies }
    let again <- vm.yieldAgain told told.replies.length
    let some (item, rest) <- vm.nextYielded rerunBound again | throw .exhausted
    store number (.stream (.yielding rest))
    return item
  | some (.stream (.body ..)), .value _ => misfit
  | some (.stream _), .value _ => throw .exhausted
  | _, .error raised =>
    store number (.stream .ended)
    Eval.raise (<- vm.scopeNow) raised
  | _, _ => misfit

def streamMethod? (number : Nat) (name : String) (args : Args) : Answer :=
  match name with
  | "send" => some do
    match <- args.one with
    | .nothing =>
      let some item <- vm.advance number | throw .exhausted
      return item
    | given => vm.tell number (.value given)
  | "throw" => some do
    match <- args.between 1 3 with
    | error :: rest =>
      let error <- match error, rest with
        | .builtin _, parts | .declared .., parts => vm.call error { plain := parts.take 1 }
        | _, _ => pure error
      if !(<- vm.scopeNow).isErrorClass error.classHint then misfit
      vm.tell number (.error error)
    | [] => misfit
  | "close" => some do
    args.none
    store number (.stream .ended)
    return .nothing
  | "__length_hint__" => some do
    args.none
    match <- content? number with
    | some (.stream (.items rest _)) => return .int rest.length
    | some (.stream (.list list place)) => return .int ((<- listItems list).length - place : Nat)
    | some (.stream (.numbers _ _ left)) => return .int left
    | some (.stream (.backward _ place)) => return .int place
    | _ => return .int 0
  | _ => none

def modelMethod? (number : Nat) (self : Hint) (name : String) (args : Args) : Answer :=
  match name with
  | "model_dump" | "dict" => some do
    args.none
    let entries <- attributesOf number
    newTable (.ofList (namedEntries entries))
  | "model_copy" | "copy" | "__copy__" => some do
    args.none
    let entries <- attributesOf number
    let .thing kind cls _ := self | misfit
    newThing kind cls entries
  | _ => none

def wrapMethod? (kind : String) (number : Nat) (name : String) (args : Args) : Answer :=
  match kind, [("getter", "fget"), ("setter", "fset"), ("deleter", "fdel")].lookup name with
  | "property", some part => some do
    let parts <- wrappedParts number
    newInstance kind "<property object>" (putNamed part (<- args.one) parts)
  | _, _ => none

def ownMethod? (self : Hint) (name : String) (args : Args) : Eval Answer := do
  match self with
  | .text pieces => return vm.textMethod? pieces name args
  | .octets bytes => return vm.octetMethod? (fun found => return .octets found) bytes name args
  | .cell .octets number =>
    let bytes <- octetsOf number
    return (vm.octetChange? number name args).or (vm.octetMethod? newOctets bytes name args)
  | .truth value => return wholeMethod? (if value then 1 else 0) name args
  | .int n => return wholeMethod? n name args
  | .real number => return realMethod? number name args
  | .complex first second => return complexMethod? first second name args
  | .cell .list number => return vm.listMethod? number name args
  | .row items => return rowMethod? items name args
  | .range start stop step => return rangeMethod? start stop step name args
  | .slice start stop step => return sliceMethod? start stop step name args
  | .cell .dict number =>
    let table <- tableOf number
    return (vm.tableChange? number name args).or
      (tableLook? table (fun kind => .view kind self) name args)
  | .proxy inner =>
    let table := (<- tableIn? self).getD {}
    return tableLook? table (fun kind => .view kind inner) name args
  | .cell .set number =>
    let own <- bucketsOf number
    return (vm.setChange? number name args).or (vm.setLook? own newSet name args)
  | .frozenSet items =>
    return vm.setLook? (.ofList items) (fun found => return .frozenSet found.items) name args
  | .view kind _ =>
    if name = "isdisjoint" && kind ≠ .values then
      let own := Buckets.ofList (<- hashed (<- vm.items self))
      return vm.setLook? own newSet name args
    else return none
  | .cell (.stream _) number => return vm.streamMethod? number name args
  | .builtin _ | .declared .. => return vm.classMethod? self name args
  | .error .. =>
    return match name with
      | "with_traceback" => some do
        discard args.one
        return self
      | "add_note" => some do
        discard (piecesOf (<- args.one))
        return .nothing
      | _ => none
  | .thing .model _ number => return modelMethod? number self name args
  | .inst (.builtin (.standard kind)) number _ => return wrapMethod? kind number name args
  | _ => return none

def callMethod (self : Hint) (name : String) (args : Args) : Eval Hint := do
  if name = "__init__" then return <- vm.beginAnew self args
  match <- vm.ownMethod? self name args with
  | some found => found
  | none => (vm.commonMethod? self name args).getD (misfit)

def callObjectMethod (self : Hint) (name : String) (args : Args) : Eval Hint := do
  match name with
  | "__eq__" => return if self.isIdentical (<- args.one) then .truth true else .notImplemented
  | "__lt__" | "__le__" | "__gt__" | "__ge__" =>
    discard args.one
    return .notImplemented
  | "__format__" =>
    let format <- piecesOf (<- args.one)
    if !format.isEmpty then misfit
    return .text (<- lift (<- frozen self).asText)
  | "__str__" =>
    args.none
    return .text (<- lift (<- frozen self).shownText)
  | "__init__" => return .nothing
  | _ => vm.callMethod self name args

def callFromClass (owner : Builtin) (name : String) (args : Args) : Eval Hint := do
  match args.plain with
  | [] => misfit
  | self :: rest =>
    if !(<- vm.isInstance self (.builtin owner)) then misfit
    let self := match owner, self with
      | .int, .truth value => .int (if value then 1 else 0)
      | _, _ => self
    let args := { args with plain := rest }
    if owner = .object then vm.callObjectMethod self name args
    else vm.callMethod self name args
end RouteDocs.Class.VM
