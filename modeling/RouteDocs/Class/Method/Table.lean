import RouteDocs.Class.Method.Number

/-! # Methods of lists, ranges, tables and sets -/

namespace RouteDocs.Class.VM
open Eval

section

abbrev Keyed := Hint × Hint

def isBefore (first second : Keyed) : Tried Bool := Hint.isOrdered first.1 second.1 (· == .lt)

def fallingRun (last : Keyed) : List Keyed -> Tried Nat
  | [] => .ok 0
  | item :: rest => do
    if <- isBefore item last then return (<- fallingRun item rest) + 1 else return 0

def risingRun (last : Keyed) : List Keyed -> Tried Nat
  | [] => .ok 0
  | item :: rest => do
    if <- isBefore item last then return 0 else return (<- risingRun item rest) + 1

def placeFor (ordered : Array Keyed) (item : Keyed) : Nat -> (low high : Nat) -> Tried Nat
  | 0, low, _ => .ok low
  | fuel + 1, low, high =>
    if high <= low then .ok low
    else
      let middle := low + (high - low) / 2
      match ordered[middle]? with
      | none => .ok low
      | some other => do
        if <- isBefore item other then placeFor ordered item fuel low middle
        else placeFor ordered item fuel (middle + 1) high

def insertOrdered (ordered : Array Keyed) (item : Keyed) : Tried (Array Keyed) := do
  let place <- placeFor ordered item 64 0 ordered.size
  return ordered.insertIdxIfInBounds place item

def inOrder (items : List Keyed) : Tried (List Keyed) := match items with
  | [] => .ok []
  | [alone] => .ok [alone]
  | first :: second :: rest => do
    let falls <- isBefore second first
    let count := 2 + (<- if falls then fallingRun second rest else risingRun second rest)
    let run := items.take count
    let start := if falls then run.reverse else run
    return (<- (items.drop count).foldlM insertOrdered start.toArray).toList

def keyed (vm : VM) (key? : Option Hint) (items : List Hint) : Eval (List Keyed) :=
  items.mapM fun item => do
    let key <- match key? with
      | none | some .nothing => pure item
      | some callee => vm.call callee { plain := [item] }
    return (<- frozen key, item)

def sorted (vm : VM) (items : List Hint) (key? : Option Hint) (isReversed : Bool) :
    Eval (List Hint) := do
  let keyed <- vm.keyed key? items
  let found <- lift (inOrder (if isReversed then keyed.reverse else keyed))
  return (if isReversed then found.reverse else found).map Prod.snd

variable (items : List Hint) (value : Hint)

def placeAmong (start? stop? : Option Hint) : Eval (Option Nat) := do
  if start? matches some .nothing || stop? matches some .nothing then misfit
  let known <- frozen value
  let some (start, part) <- partBetween items start? stop? | return none
  let part <- part.mapM frozen
  return (part.findIdx? fun item => item.equals known).map (start + ·)

def countAmong : Eval Hint := do
  let known <- frozen value
  let items <- items.mapM frozen
  return .int (items.filter fun item => item.equals known).length

def itemsMethod? (missing : Hint -> Eval Hint) (name : String) (args : Args) : Answer :=
  match name with
  | "count" => some do countAmong items (<- args.one)
  | "index" => some do
    match <- args.between 1 3 with
    | value :: bounds =>
      match <- placeAmong items value bounds[0]? bounds[1]? with
      | some place => return .int place
      | none => missing value
    | [] => misfit
  | _ => none

def shownIn : Eval String := do
  let pieces <- lift (<- frozen value).shownText
  return Text.escapedText pieces

def listMethod? (vm : VM) (number : Nat) (name : String) (args : Args) : Answer :=
  let change (action : List Hint -> Eval (List Hint)) : Eval Hint := do
    storeItems number (<- action (<- listItems number))
    return .nothing
  match name with
  | "append" => some do
    let value <- args.one
    modify fun mem => { mem with
      cells := mem.cells.modify number fun content => match content with
        | .list items => .list (items.push value)
        | other => other }
    return .nothing
  | "clear" => some do
    args.none
    change fun _ => return []
  | "copy" => some do
    args.none
    newList (<- listItems number)
  | "extend" | "__iadd__" => some do
    let new <- vm.items (<- args.one)
    discard (change fun items => return items ++ new)
    return if name = "extend" then .nothing else .cell .list number
  | "__imul__" => some do
    let count <- placeArgument (<- args.one)
    discard (change fun items => lift (Hint.repeated count items))
    return .cell .list number
  | "insert" => some do
    let (place, value) <- args.two
    let place <- placeArgument place
    change fun items =>
      let place := if place < 0 then max 0 (place + items.length) else place
      return items.take place.toNat ++ value :: items.drop place.toNat
  | "pop" => some do
    let given <- args.between 0 1
    let place <- placeArgument ((given.head?).getD (.int (-1)))
    let items <- listItems number
    let place <- placeIn items.length (.int place)
    storeItems number (items.eraseIdx place)
    return (items[place]?).getD .nothing
  | "remove" => some do
    let value <- args.one
    let items <- listItems number
    match <- placeAmong items value none none with
    | some place =>
      storeItems number (items.eraseIdx place)
      return .nothing
    | none => throw (.badValue "list.remove(x): x not in list")
  | "reverse" => some do
    args.none
    change fun items => return items.reverse
  | "sort" => some do
    let [key?, reverse?] <- args.fit 0 [] ["key", "reverse"] | misfit
    let isReversed <- flagArgument reverse?
    change fun items => vm.sorted items key? isReversed
  | "count" | "index" => some do
    let items <- listItems number
    let missing (value : Hint) : Eval Hint := do
      let shown <- shownIn value
      throw (.badValue s!"{shown} is not in list")
    (itemsMethod? items missing name args).getD (misfit)
  | _ => none

def rowMethod? (name : String) (args : Args) : Answer :=
  match name with
  | "__getnewargs__" => some do
    args.none
    return .row [.row items]
  | _ => itemsMethod? items
    (fun _ => throw (.badValue "tuple.index(x): x not in tuple")) name args

def rangeMethod? (start stop step : Int) (name : String) (args : Args) : Answer :=
  let place? (value : Hint) : Option Int :=
    let whole? := match value with
      | .real number => number.toInt?
      | _ => value.int?
    (whole?.filter fun n => Hint.inRange n start stop step).map fun n => (n - start) / step
  match name with
  | "count" => some do
    return .int (if (place? (<- args.one)).isSome then 1 else 0)
  | "index" => some do
    let value <- args.one
    match place? value with
    | some place => return .int place
    | none =>
      if value.int?.isSome then
        let shown <- shownIn value
        throw (.badValue s!"{shown} is not in range")
      else throw (.badValue "sequence.index(x): x not in sequence")
  | _ => none

def sliceMethod? (start stop step : Hint) (name : String) (args : Args) : Answer :=
  match name with
  | "indices" => some do
    let some size := (<- args.one).int? | misfit
    if size < 0 then throw (.badValue "length should not be negative")
    let (first, last, jump) <- lift (Hint.cutOf start stop step size.toNat)
    return .row [.int first, .int last, .int jump]
  | _ => none
end

variable (vm : VM)

def pairOf (pair : Hint) (place : Nat) : Eval (Hint × Hint) := do
  match <- vm.items pair with
  | [key, value] => if key.isKey then return (key, value) else misfit
  | others =>
    let count := others.length
    throw (.badValue (s!"dictionary update sequence element #{place} has length {count}; " ++
      "2 is required"))

def entriesOf (value : Hint) : Eval (List (Hint × Hint)) := do
  match <- tableIn? value with
  | some table => return table.toList
  | none => (<- vm.items value).zipIdx.mapM fun (pair, place) => vm.pairOf pair place

def namedEntries (named : NamedHints) : List (Hint × Hint) :=
  named.map fun (word, value) => (Hint.words word, value)

def updated (table : Table) (args : Args) : Eval Table := do
  match args.plain with
  | [] => return table.insertAll (namedEntries args.named)
  | [value] => return (table.insertAll (<- vm.entriesOf value)).insertAll (namedEntries args.named)
  | _ => misfit

def keyArgument (value : Hint) : Eval Hint := if value.isKey then return value else misfit

def tableLook? (table : Table) (view : ViewKind -> Hint) (name : String) (args : Args) : Answer :=
  let look (kind : ViewKind) : Eval Hint := do
    args.none
    return view kind
  match name with
  | "get" => some do
    match <- args.between 1 2 with
    | key :: rest => return (table.get? (<- keyArgument key)).getD ((rest.head?).getD .nothing)
    | [] => misfit
  | "keys" => some (look .keys)
  | "values" => some (look .values)
  | "items" => some (look .entries)
  | "copy" => some do
    args.none
    newTable (.ofList table.toList)
  | _ => none

def tableChange? (number : Nat) (name : String) (args : Args) : Answer :=
  match name with
  | "clear" => some do
    args.none
    store number (.dict {})
    return .nothing
  | "pop" => some do
    match <- args.between 1 2 with
    | key :: rest =>
      let key <- keyArgument key
      let table <- tableOf number
      match table.get? key, rest.head? with
      | some value, _ =>
        store number (.dict (table.erase key))
        return value
      | none, some default => return default
      | none, none => throw .noKey
    | [] => misfit
  | "popitem" => some do
    args.none
    let table <- tableOf number
    let some (key, value) := table.last? | throw .noKey
    store number (.dict (table.erase key))
    return .row [key, value]
  | "setdefault" => some do
    match <- args.between 1 2 with
    | key :: rest =>
      let key <- keyArgument key
      let table <- tableOf number
      match table.get? key with
      | some value => return value
      | none =>
        let value := (rest.head?).getD .nothing
        store number (.dict (table.insert key value))
        return value
    | [] => misfit
  | "update" => some do
    let table <- vm.updated (<- tableOf number) args
    store number (.dict table)
    return .nothing
  | "__ior__" => some do
    let table <- vm.updated (<- tableOf number) { plain := [<- args.one] }
    store number (.dict table)
    return .cell .dict number
  | _ => none

def tableOfKeys (args : Args) : Eval Hint := do
  match <- args.between 1 2 with
  | keys :: rest =>
    let value := (rest.head?).getD .nothing
    let keys <- hashed (<- vm.items keys)
    newTable (.ofList (keys.map fun key => (key, value)))
  | [] => misfit

def itemArgument (value : Hint) : Eval Hint := do
  match value with
  | .cell .set number => return .frozenSet (<- bucketsOf number).items
  | _ => keyArgument value

def allPlain (args : Args) : Eval (List Hint) :=
  if args.named.isEmpty then return args.plain else misfit

def setLook? (own : Buckets) (make : Buckets -> Eval Hint) (name : String) (args : Args) : Answer :=
  match name with
  | "copy" => some do
    args.none
    make own.copy
  | "union" => some do
    make (<- (<- allPlain args).foldlM vm.mergeInto own.copy)
  | "intersection" => some do
    match <- allPlain args with
    | [] => make own.copy
    | others => make (<- others.foldlM vm.intersectWith own)
  | "difference" => some do
    match <- allPlain args with
    | [] => make own.copy
    | others => make (<- others.foldlM vm.subtractFrom own)
  | "symmetric_difference" => some do make (<- vm.toggleWith own (<- args.one))
  | "isdisjoint" => some do
    let other <- hashed (<- vm.items (<- args.one))
    return .truth (!other.any own.contains)
  | "issubset" => some do
    let other <- vm.bucketsFrom (<- args.one)
    return .truth (own.items.all other.contains)
  | "issuperset" => some do
    let other <- vm.bucketsFrom (<- args.one)
    return .truth (other.items.all own.contains)
  | _ => none

def setChange? (number : Nat) (name : String) (args : Args) : Answer :=
  let change (action : Buckets -> Eval Buckets) : Eval Hint := do
    store number (.set (<- action (<- bucketsOf number)))
    return .nothing
  let operate (action : Buckets -> Hint -> Eval Buckets) : Eval Hint := do
    let other <- args.one
    if !isSet other then return .notImplemented
    discard (change fun own => action own other)
    return .cell .set number
  match name with
  | "add" => some do
    let item <- keyArgument (<- args.one)
    change fun own => return own.insert item
  | "clear" => some do
    args.none
    change fun _ => return {}
  | "discard" => some do
    let item <- itemArgument (<- args.one)
    change fun own => return (own.erase? item).getD own
  | "remove" => some do
    let item <- itemArgument (<- args.one)
    change fun own => match own.erase? item with
      | some rest => return rest
      | none => throw .noKey
  | "pop" => some do
    args.none
    let some (item, rest) := (<- bucketsOf number).pop? | throw .noKey
    store number (.set rest)
    return item
  | "update" => some do
    let others <- allPlain args
    change fun own => others.foldlM vm.mergeInto own
  | "intersection_update" => some do
    let others <- allPlain args
    change fun own => others.foldlM vm.intersectWith own
  | "difference_update" => some do
    let others <- allPlain args
    change fun own => others.foldlM vm.subtractFrom own
  | "symmetric_difference_update" => some do
    let other <- args.one
    change fun own => do return own.toggle (<- vm.bucketsFrom other).items
  | "__ior__" => some (operate vm.mergeInto)
  | "__iand__" => some (operate vm.intersectWith)
  | "__isub__" => some (operate vm.subtractFrom)
  | "__ixor__" => some (operate fun own other => do
      return own.toggle (<- vm.bucketsFrom other).items)
  | _ => none
end RouteDocs.Class.VM
