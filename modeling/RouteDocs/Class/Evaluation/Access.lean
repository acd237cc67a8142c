import RouteDocs.Class.Evaluation.Machine

/-! # Members and items -/

namespace RouteDocs.Class
namespace Eval
def placeIn (size : Nat) (index : Hint) : Eval Nat := do
  let some n := index.int? | misfit
  if !Hint.isPlace n then throw .noIndex
  let place := if n < 0 then n + size else n
  if place < 0 || (size : Int) <= place then throw .noIndex
  return place.toNat

def replaceCut {α : Type} (start stop step : Hint) (new : List α) (items : List α) :
    Eval (List α) := do
  let (first, last, jump) <- lift (Hint.cutOf start stop step items.length)
  if jump = 1 then
    let last := max first last
    return items.take first.toNat ++ new ++ items.drop last.toNat
  let count := Hint.rangeSize first last jump
  if count ≠ new.length then
    let given := new.length
    throw (.badValue
      s!"attempt to assign sequence of size {given} to extended slice of size {count}")
  let places := (List.range count).map fun (index : Nat) => (first + jump * index).toNat
  return (places.zip new).foldl (fun found (place, item) => found.set place item) items

def dropCut {α : Type} (start stop step : Hint) (items : List α) : Eval (List α) := do
  let (first, last, jump) <- lift (Hint.cutOf start stop step items.length)
  let places := (List.range (Hint.rangeSize first last jump)).map
    fun (index : Nat) => (first + jump * index).toNat
  return (items.zipIdx.filter fun (_, place) => !places.contains place).map Prod.fst
end Eval

namespace VM
open Eval

def constant? (scope : Scope) (number : Nat) (word : String) : Option Hint :=
  scope.get? number >>= fun cls => (cls.constants.lookup word).map (.const cls.hint word)

def givenOn (word : String) : List Class -> Eval (Option Hint)
  | [] => return none
  | cls :: rest => do
    match (<- get).attrs.lookup (cls.number, word) with
    | some found => return some found
    | none => if cls.attrs.contains word then return none else givenOn word rest

def keeperOf (line : List Class) (word : String) : Nat :=
  match line.find? fun cls => cls.attrs.contains word with
  | some cls => cls.number
  | none => (line.head?.map Class.number).getD 0

def ownTable (cls : Class) : Eval Hint := do
  let entries <- cls.ownEntries.mapM fun (word, value) => do
    return (Hint.words word, <- keptValue cls.number word value)
  let more := (<- get).attrs.reverse.filterMap fun ((number, word), value) =>
    if number = cls.number then some (Hint.words word, value) else none
  return .proxy (<- newTable ((Table.ofList entries).insertAll more))

def commonMember? (cls : Hint) (word : String) : Option Hint :=
  match Builtin.object.method? word with
  | some found => some found
  | none =>
    match Builtin.type.method? word with
    | some (.method .method _ _) | some (.method .op _ _) => some (.bound cls word)
    | _ => none

def wrapBase : Nat := 100

def wrappedParts (number : Nat) : Eval NamedHints :=
  if number < wrapBase then return [] else attributesOf (number - wrapBase)

def boundFunction (number : Nat) (self : Hint) : Eval Hint := do
  let some (.fn fn) <- content? number | return .fn number ""
  if fn.receiver?.isSome then return .fn number fn.name
  let bound := { fn with receiver? := some self }
  return .fn (<- keep (.fn bound)) fn.name

def plainDefaults (fn : Function) : Hint :=
  let found := fn.params.filterMap fun (kind, _, default?) =>
    if kind = .positional || kind = .either then default? else none
  if found.isEmpty then .nothing else .row found

def namedDefaults (fn : Function) : Eval Hint := do
  let found := fn.params.filterMap fun (kind, word, default?) =>
    if kind = .named then default?.map fun default => (Hint.words word, default) else none
  if found.isEmpty then return .nothing else newTable (.ofList found)

variable (vm : VM) (base index owner : Hint) (word : String) (number : Nat)

def functionMember? (word : String) : Eval (Option Hint) := do
  let some (.fn fn) <- content? number | return none
  if let some found := fn.members.lookup word then return some found
  let kept (value : Hint) : Eval (Option Hint) := do
    let members := putNamed word value fn.members
    store number (.fn { fn with members })
    return some value
  match word with
  | "__qualname__" => return some (.words (fn.env.title ++ fn.name))
  | "__doc__" => return some (fn.doc?.getD .nothing)
  | "__annotations__" =>
    kept (<- newTable (.ofList (fn.hints.map fun (name, hint) => (Hint.words name, hint))))
  | "__defaults__" => return some (plainDefaults fn)
  | "__kwdefaults__" => return some (<- namedDefaults fn)
  | "__dict__" =>
    return some (<- newTable (.ofList (fn.members.map fun (name, value) =>
      (Hint.words name, value))))
  | "__module__" => return some ((<- fn.env.names.inner.get? vm.scope "__name__").getD .nothing)
  | "__code__" => kept (.cell .code (<- keep (.code fn.body)))
  | "__self__" => return fn.receiver?
  | "__func__" =>
    if fn.receiver?.isNone then return none
    let free := { fn with receiver? := none }
    return some (.fn (<- keep (.fn free)) fn.name)
  | _ => return (Hint.fn number fn.name).valueMember? word

def moduleBase : Nat := 2 * madeBase

def standIn (value inst cls : Hint) : Eval Hint := do
  let .thing .. := value | return value
  let some method <- vm.special? value "__get__" | return value
  vm.call method { plain := [inst, cls] }

def ofClass (cls : Hint) : Hint -> Eval Hint
  | .inst (.builtin (.standard kind)) number shown => do
    match kind, (<- wrappedParts number).lookup "__func__" with
    | "staticmethod", some inner => return inner
    | "classmethod", some (.fn inner _) => boundFunction inner cls
    | "classmethod", some inner => return .bound cls (inner.textIn .inGeneric)
    | _, _ => return .inst (.builtin (.standard kind)) number shown
  | found => return found

def keptMember? (scope : Scope) (cls : Class) (word : String) : Eval (Option Hint) := do
  let line := scope.line cls
  if let some found <- givenOn word line then return some found
  let some found := scope.member? cls.number word | return none
  return some (<- keptValue (keeperOf line word) word found)

def classMember? (word : String) : Eval (Option Hint) := do
  let scope <- vm.scopeNow
  let some cls := scope.get? number | return none
  if let some found := constant? scope number word then return some found
  if let some found <- givenOn word (scope.line cls) then
    return some (<- ofClass cls.hint found)
  if word = "__dict__" then return some (<- ownTable cls)
  if word = "__members__" && !cls.constants.isEmpty then
    return some (.proxy (<- newTable (.ofList (cls.constants.map
      fun (name, value) => (Hint.words name, .const cls.hint name value)))))
  let some found <- keptMember? scope cls word | return commonMember? cls.hint word
  return some (<- ofClass cls.hint found)

def ofInstance (self : Hint) (word : String) : Hint -> Eval Hint
  | .inst (.builtin (.standard "property")) number _ => do
    match (<- wrappedParts number).lookup "fget" with
    | some .nothing | none => throw (.noMember word)
    | some callee => vm.call callee { plain := [self] }
  | .fn number _ => boundFunction number self
  | .inst (.builtin (.standard "member_descriptor")) _ _ => throw (.noMember word)
  | .method .method _ _ | .method .op _ _ => return .bound self word
  | found => vm.standIn found self self.classHint

def thingMember? (self cls : Hint) (number : Nat) (word : String) : Eval (Option Hint) := do
  let attrs <- attributesOf number
  match word, attrs.lookup word, cls with
  | "__class__", _, _ => return some cls
  | "__dict__", _, .declared .. =>
    let own := attrs.filter fun entry => entry.1 ≠ coreName
    return some (<- newTable (.ofList (own.map fun (name, value) => (Hint.words name, value))))
  | _, some found, _ => return some found
  | _, none, .declared owner _ =>
    if word ∈ ["__name__", "__qualname__", "__mro__", "__bases__", "__base__", "mro"] then
      return none
    let inner <- vm.core self
    let ofCore? := if inner matches .thing .. then none else inner.valueMember? word
    match <- vm.classMember? owner word with
    | some (.bound _ name) =>
      return ofCore?.or
        (if (Builtin.object.method? name).isSome then some (.bound self name) else none)
    | some (.routine name) => return some (.bound self name)
    | some (.method kind cls name) =>
      if let some found := ofCore? then return some found
      return some (<- ofInstance vm self word (.method kind cls name))
    | some found => return some (<- ofInstance vm self word found)
    | none => return ofCore?
  | _, none, _ => return self.valueMember? word

def specialStep (self : Hint) (word : String) : Eval (Option Hint) := do
  match self with
  | .thing _ (.declared owner _) _ | .const (.declared owner _) _ _ =>
    let some (.fn number _) <- vm.classMember? owner word | return none
    return some (<- boundFunction number self)
  | _ => return none

def ancestorParts? : Eval (Option (Hint × Hint)) := do
  let parts <- wrappedParts number
  match parts.lookup "__thisclass__", parts.lookup "__self__" with
  | some cls, some self => return some (cls, self)
  | _, _ => return none

def ancestorMember? (cls self : Hint) (word : String) : Eval (Option Hint) := do
  let scope <- vm.scopeNow
  let isClass := self matches .declared ..
  let start := if isClass then self else self.classHint
  match cls, start with
  | .declared from_ _, .declared number _ =>
    let line := ((scope.get? number).map scope.line).getD []
    let behind := (line.dropWhile fun found => found.number ≠ from_).drop 1
    let kept <- behind.findSomeM? fun found => do
      match (<- get).attrs.lookup (found.number, word) with
      | some value => return some value
      | none => return (found.attrs.get? word).map Attr.value
    match kept with
    | some found =>
      let found <- ofClass start found
      if isClass then return some found
      return some (<- ofInstance vm self word found)
    | none =>
      if word = "__new__" then
        return some (.bound (.builtin ((coreClass? scope number).getD .object)) word)
      match <- vm.core self with
      | .thing .. | .declared .. =>
        return if (Builtin.object.method? word).isSome then some (.bound self word) else none
      | inner => return inner.valueMember? word
  | _, _ => return none

def member? (vm : VM) (owner : Hint) (word : String) : Eval (Option Hint) := do
  match owner with
  | .declared number _ =>
    let some found <- vm.classMember? number word | return none
    return some (<- vm.standIn found .nothing owner)
  | .thing _ cls number =>
    match <- vm.thingMember? owner cls number word with
    | some found => return some found
    | none =>
      let some method <- vm.special? owner "__getattr__" | return none
      Eval.attempt (fun fault => fault matches .noMember _)
        (vm.call method { plain := [.words word] })
  | .inst (.builtin (.standard "module")) number _ =>
    match (<- get).attrs.lookup (moduleBase + number, word), Module.nameOf? number with
    | some found, _ => return some found
    | none, some name => moduleMember? vm.scope name word
    | none, none => return none
  | .error _ number _ =>
    let some found := (<- attributesOf number).lookup word | return owner.valueMember? word
    return some found
  | .inst (.builtin (.standard "super")) number _ =>
    let some (cls, self) <- ancestorParts? number | return none
    vm.ancestorMember? cls self word
  | .fn number _ => vm.functionMember? number word
  | .const (.declared number _) _ inner =>
    match <- vm.classMember? number word with
    | some (.fn method _) => return some (<- boundFunction method owner)
    | some (.inst (.builtin (.standard "property")) part shown) =>
      let found := Hint.inst (.builtin (.standard "property")) part shown
      return some (<- ofInstance vm owner word found)
    | _ =>
      if (coreClass? (<- vm.scopeNow) number).isSome then
        return (owner.valuePart? word).or (inner.valueMember? word)
      return owner.valueMember? word
  | _ =>
    if let .inst (.builtin _) number _ := owner then
      if let some found := (<- wrappedParts number).lookup word then return some found
    let some found := owner.member? (fun _ _ => none) word | return none
    return some (<- boxed found)

def member : Eval Hint := do
  let some found <- vm.member? owner word | throw (.noMember word)
  return found

def onlyPlaces? (scope : Scope) : Hint -> Option (List String)
  | .declared number _ =>
    let line := ((scope.get? number).map scope.line).getD []
    (line.mapM Class.places?).map List.flatten
  | _ => none

def setMember (value : Hint) : Eval Unit := do
  match owner with
  | .declared number _ =>
    if (constant? (<- vm.scopeNow) number word).isSome then throw (.noMember word)
    modify fun mem => { mem with
      attrs := putNamed (number, word) value mem.attrs }
  | .thing kind cls number =>
    if cls matches .builtin _ then throw (.noMember word)
    let attrs <- attributesOf number
    if kind = .model && (attrs.lookup word).isNone then
      let name := cls.plainName
      throw (.badValue s!"\"{name}\" object has no field \"{word}\"")
    if let some places := onlyPlaces? (<- vm.scopeNow) cls then
      if !places.contains word then throw (.noMember word)
    store number (.attrs (putNamed word value attrs))
  | .fn number _ =>
    if let some (.fn fn) <- content? number then
      let members := putNamed word value fn.members
      store number (.fn { fn with members })
  | .const .. => return ()
  | .builtin _ => misfit
  | .inst (.builtin (.standard "module")) number _ =>
    if Module.nameOf? number = some Hint.declaredHome then Space.home.put word value
    else modify fun mem => { mem with
      attrs := putNamed (moduleBase + number, word) value mem.attrs }
  | .error _ number _ =>
    let attrs <- attributesOf number
    store number (.attrs (putNamed word value attrs))
  | _ => throw (.noMember word)

def assignMember (value : Hint) : Eval Unit := do
  match <- vm.special? owner "__setattr__" with
  | some method => discard (vm.call method { plain := [.words word, value] })
  | none =>
    match owner with
    | .thing _ (.declared number _) _ =>
      match <- vm.classMember? number word with
      | some (.inst (.builtin (.standard "property")) part _) =>
        match (<- wrappedParts part).lookup "fset" with
        | some .nothing | none => throw (.noMember word)
        | some callee => discard (vm.call callee { plain := [owner, value] })
      | some found =>
        match <- vm.special? found "__set__" with
        | some method => discard (vm.call method { plain := [owner, value] })
        | none => vm.setMember owner word value
      | none => vm.setMember owner word value
    | _ => vm.setMember owner word value

def dropMember : Eval Unit := do
  match owner with
  | .thing _ (.declared ..) number =>
    let attrs <- attributesOf number
    if (attrs.lookup word).isNone then throw (.noMember word)
    store number (.attrs (attrs.filter fun entry => entry.1 ≠ word))
  | .declared number _ =>
    let mem <- get
    if (mem.attrs.lookup (number, word)).isSome then
      set { mem with
        attrs := mem.attrs.filter fun entry => entry.1 ≠ (number, word) }
    else if ((<- vm.scopeNow).get? number).any fun cls =>
        cls.attrs.contains word then
      set { mem with removed := (number, word) :: mem.removed }
    else throw (.noMember word)
  | .builtin _ => misfit
  | _ => throw (.noMember word)

def subscriptCore : Eval Hint := do
  match base with
  | .cell .list number =>
    match index, <- content? number with
    | .slice start stop step, some (.list items) =>
      newList (<- lift (Hint.cut start stop step items.toList))
    | _, some (.list items) =>
      let some item := items[<- placeIn items.size index]? | throw .noIndex
      return item
    | _, _ => throw .noIndex
  | .cell .dict number | .proxy (.cell .dict number) =>
    if !index.isKey then misfit
    let some value := (<- tableOf number).get? index | throw .noKey
    return value
  | .declared number _ =>
    if let some (.fn method _) <- vm.classMember? number "__class_getitem__" then
      return <- vm.call (<- boundFunction method base) { plain := [index] }
    let scope <- vm.scopeNow
    if (constantsOf scope number).isEmpty || !index.isKey then misfit
    let some found := nameOf? index >>= constant? scope number | throw .noKey
    return found
  | .builtin (.library ..) | .form _ | .formOf .. | .union _ | .classField _ =>
    let found <- lift (base.subscript (<- frozen index))
    if let .formOf form (inner :: _) := found then
      if form = Form.annotated && !(inner matches .reference _) then
        discard (vm.member inner "__module__")
    return found
  | .text _ | .octets _ | .row _ | .cell .octets _ | .range .. =>
    match index, index.int? with
    | .slice .., _ => boxed (<- lift ((<- opened base).subscript index))
    | _, some n =>
      if !Hint.isPlace n && !(base matches .range ..) then throw .noIndex
      lift ((<- opened base).subscript index)
    | _, none => misfit
  | _ => boxed (<- lift ((<- opened base).subscript index))

def subscript : Eval Hint := do
  match base with
  | .thing .. | .const .. =>
    match <- vm.special? base "__getitem__" with
    | some method => vm.call method { plain := [index] }
    | none =>
      let inner <- vm.core base
      match inner, <- vm.special? base "__missing__" with
      | .thing .., _ | .const .., _ => misfit
      | _, none => vm.subscriptCore inner index
      | _, some method =>
        let found <- Eval.attempt (· = .noKey) (vm.subscriptCore inner index)
        match found with
        | some value => return value
        | none => vm.call method { plain := [index] }
  | .cell .list _ | .row _ | .text _ | .octets _ | .cell .octets _ | .range .. =>
    match <- vm.special? index "__index__" with
    | some method => vm.subscriptCore base (<- vm.call method {})
    | none => vm.subscriptCore base (<- vm.core index)
  | _ => vm.subscriptCore base (<- vm.core index)

def setItemCore (base index value : Hint) : Eval Unit := do
  match base, index with
  | .cell .list number, .slice start stop step =>
    let new <- vm.items value
    let items <- listItems number
    storeItems number (<- replaceCut start stop step new items)
  | .cell .list number, _ =>
    let some (.list items) <- content? number | throw .noIndex
    let place <- placeIn items.size index
    store number (.list (items.setIfInBounds place value))
  | .cell .dict number, key =>
    if !key.isKey then misfit
    store number (.dict ((<- tableOf number).insert key value))
  | .cell .octets number, _ =>
    let bytes <- octetsOf number
    match index, value.int? with
    | .slice start stop step, _ =>
      let new <- (<- vm.items value).mapM fun item => match item.int? with
        | some n => if 0 <= n && n < 256 then pure n.toNat
          else throw (.badValue "byte must be in range(0, 256)")
        | none => misfit
      store number (.octets (<- replaceCut start stop step new bytes))
    | _, some n =>
      let place <- placeIn bytes.length index
      if n < 0 || 256 <= n then throw (.badValue "byte must be in range(0, 256)")
      store number (.octets (bytes.set place n.toNat))
    | _, none =>
      discard (placeIn bytes.length index)
      misfit
  | _, _ => misfit

def setItem (base index value : Hint) : Eval Unit := do
  match <- vm.special? base "__setitem__" with
  | some method => discard (vm.call method { plain := [index, value] })
  | none => vm.setItemCore (<- vm.core base) index value

def dropItemCore : Eval Unit := do
  match base, index with
  | .cell .list number, .slice start stop step =>
    storeItems number (<- dropCut start stop step (<- listItems number))
  | .cell .list number, _ =>
    let items <- listItems number
    let place <- placeIn items.length index
    storeItems number (items.eraseIdx place)
  | .cell .dict number, key =>
    if !key.isKey then misfit
    let table <- tableOf number
    if !table.contains key then throw .noKey
    store number (.dict (table.erase key))
  | .cell .octets number, .slice start stop step =>
    store number (.octets (<- dropCut start stop step (<- octetsOf number)))
  | .cell .octets number, _ =>
    let bytes <- octetsOf number
    let place <- placeIn bytes.length index
    store number (.octets (bytes.eraseIdx place))
  | _, _ => misfit

def dropItem : Eval Unit := do
  match <- vm.special? base "__delitem__" with
  | some method => discard (vm.call method { plain := [index] })
  | none => dropItemCore (<- vm.core base) index
end VM
end RouteDocs.Class
