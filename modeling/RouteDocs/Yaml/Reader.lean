import RouteDocs.Yaml.Meaning
import RouteDocs.Yaml.Token

/-! # Nodes -/

namespace RouteDocs.Yaml
inductive Content where
  | scalar (text : List Text.Piece)
  | list (items : List Nat)
  | map (entries : List (Nat × Nat))

structure Node where
  tag : Tag
  content : Content

def Node.absent : Node := ⟨.null, .scalar []⟩

instance : Inhabited Node := ⟨.absent⟩

structure NodeTable where
  nodes : Array Node
  root : Nat

structure Source where
  stream : TokenStream
  nodes : Array Node := #[]
  anchors : List (String × Nat) := []
  handles : List (String × String) := [("!", "!"), ("!!", standardTag)]

abbrev Building := StateT Source (Except Fault)

namespace Building
def peek? : Building (Option Token) := do
  let stream := (<- get).stream
  match stream.tokens, stream.fault? with
  | token :: _, _ => return some token
  | [], none => return none
  | [], some fault => throw fault

def advance : Building Unit := modify fun source =>
    { source with stream := { source.stream with tokens := source.stream.tokens.tail } }

def accept (token : Token) : Building Bool := do
  if (<- peek?) = some token then
    advance
    return true
  else return false

def isNext (tokens : List Token) : Building Bool := do
  match <- peek? with
  | some token => return token ∈ tokens
  | none => return false

def reject {α : Type} : Building α := throw .malformed

structure Properties where
  anchor? : Option String := none
  tag? : Option String := none

def tagNamed (handle? : Option String) (suffix : String) : Building String := do
  match handle? with
  | none => return suffix
  | some handle =>
    match (<- get).handles.lookup handle with
    | some meaning => return meaning ++ suffix
    | none => reject

def properties : Building Properties := do
  match <- peek? with
  | some (.anchor name) =>
    advance
    match <- peek? with
    | some (.tag handle? suffix) =>
      advance
      return ⟨some name, some (<- tagNamed handle? suffix)⟩
    | _ => return ⟨some name, none⟩
  | some (.tag handle? suffix) =>
    advance
    match <- peek? with
    | some (.anchor name) =>
      advance
      return ⟨some name, some (<- tagNamed handle? suffix)⟩
    | _ => return ⟨none, some (<- tagNamed handle? suffix)⟩
  | _ => return {}

def tagOr (properties : Properties) (suggested : Tag) : Tag := match properties.tag? with
  | none => suggested
  | some tag => if tag = "!" then suggested else .ofName tag

def plainTag (text : List Text.Piece) : Tag := match Text.ofPieces? text with
  | some text => .ofPlain text
  | none => .text

def scalarTag (properties : Properties) (text : List Text.Piece) (plain : Bool) : Tag :=
  match properties.tag? with
  | none => if plain then plainTag text else .text
  | some tag => if tag = "!" then plainTag text else .ofName tag

def add (node : Node) : Building Nat :=
  modifyGet fun source => (source.nodes.size, { source with nodes := source.nodes.push node })

def addNamed (properties : Properties) (node : Node) : Building Nat := do
  match properties.anchor? with
  | none => add node
  | some name =>
    if ((<- get).anchors.lookup name).isSome then reject
    let number <- add node
    modify fun source => { source with anchors := (name, number) :: source.anchors }
    return number

def fill (number : Nat) (content : Content) : Building Unit := modify fun source =>
    { source with nodes := source.nodes.modify number fun node => { node with content } }

def addAbsent : Building Nat := add .absent

def missing (properties : Properties) : Building Nat :=
  if properties.anchor?.isNone && properties.tag?.isNone then reject
  else addNamed properties ⟨scalarTag properties [] true, .scalar []⟩

def addList (properties : Properties) (items : Building (List Nat)) : Building Nat := do
  let number <- addNamed properties ⟨tagOr properties .list, .list []⟩
  fill number (.list (<- items))
  return number

def addMap (properties : Properties) (entries : Building (List (Nat × Nat))) : Building Nat := do
  let number <- addNamed properties ⟨tagOr properties .map, .map []⟩
  fill number (.map (<- entries))
  return number

mutual

/-- A node. `block` says that it may be a block, and `bare` that it may be a list
whose items are not indented. -/
def node : Nat -> (block bare : Bool) -> Building Nat
  | 0, _, _ => reject
  | fuel + 1, block, bare => do
    match <- peek? with
    | some (.alias name) =>
      advance
      match (<- get).anchors.lookup name with
      | some number => return number
      | none => reject
    | _ =>
      let properties <- properties
      contentOf fuel block bare properties

def contentOf : Nat -> (block bare : Bool) -> Properties -> Building Nat
  | 0, _, _, _ => reject
  | fuel + 1, block, bare, properties => do
    match <- peek? with
    | some .entry =>
      if bare then addList properties (bareItems fuel) else missing properties
    | some (.scalar text plain) =>
      advance
      addNamed properties ⟨scalarTag properties text plain, .scalar text⟩
    | some .openList =>
      advance
      addList properties (flowItems fuel true)
    | some .openMap =>
      advance
      addMap properties (flowEntries fuel true)
    | some .blockSequence =>
      if block then
        advance
        addList properties (blockItems fuel)
      else missing properties
    | some .blockMapping =>
      if block then
        advance
        addMap properties (blockEntries fuel)
      else missing properties
    | _ => missing properties

def blockItems : Nat -> Building (List Nat)
  | 0 => reject
  | fuel + 1 => do
    if <- accept .entry then
      let item <- if <- isNext [.entry, .blockEnd] then addAbsent else node fuel true false
      return item :: (<- blockItems fuel)
    else if <- accept .blockEnd then return []
    else reject

def bareItems : Nat -> Building (List Nat)
  | 0 => reject
  | fuel + 1 => do
    if <- accept .entry then
      let item <-
        if <- isNext [.entry, .key, .value, .blockEnd] then addAbsent else node fuel true false
      return item :: (<- bareItems fuel)
    else return []

def blockPart : Nat -> Building Nat
  | 0 => reject
  | fuel + 1 => do
    if <- isNext [.key, .value, .blockEnd] then addAbsent else node fuel true true

def blockEntries : Nat -> Building (List (Nat × Nat))
  | 0 => reject
  | fuel + 1 => do
    if <- accept .key then
      let key <- blockPart fuel
      let value <- if <- accept .value then blockPart fuel else addAbsent
      return (key, value) :: (<- blockEntries fuel)
    else if <- accept .blockEnd then return []
    else reject

def flowValue (close : Token) : Nat -> Building Nat
  | 0 => reject
  | fuel + 1 => do
    if <- accept .value then
      if <- isNext [.comma, close] then addAbsent else node fuel false false
    else addAbsent

def flowEntry (close : Token) : Nat -> Building (Nat × Nat)
  | 0 => reject
  | fuel + 1 => do
    let key <- if <- isNext [.value, .comma, close] then addAbsent else node fuel false false
    return (key, <- flowValue close fuel)

def flowItems : Nat -> (first : Bool) -> Building (List Nat)
  | 0, _ => reject
  | fuel + 1, first => do
    if <- accept .closeList then return []
    if !first then
      if !(<- accept .comma) then reject
    if <- accept .closeList then return []
    let item <-
      if <- accept .key then addMap {} do return [<- flowEntry .closeList fuel]
      else node fuel false false
    return item :: (<- flowItems fuel false)

def flowEntries : Nat -> (first : Bool) -> Building (List (Nat × Nat))
  | 0, _ => reject
  | fuel + 1, first => do
    if <- accept .closeMap then return []
    if !first then
      if !(<- accept .comma) then reject
    if <- accept .closeMap then return []
    let entry <-
      if <- accept .key then flowEntry .closeMap fuel
      else do
        let key <- node fuel false false
        pure (key, <- addAbsent)
    return entry :: (<- flowEntries fuel false)
end

def directives : Nat -> (versioned : Bool) -> (handles : List String) -> Building Unit
  | 0, _, _ => reject
  | fuel + 1, versioned, handles => do
    match <- peek? with
    | some (.directive directive) =>
      advance
      match directive with
      | .version major =>
        if versioned || major ≠ 1 then reject
        directives fuel true handles
      | .tag handle name =>
        if handle ∈ handles then reject
        modify fun source => { source with handles := (handle, name) :: source.handles }
        directives fuel versioned (handle :: handles)
      | .other => directives fuel versioned handles
    | _ => pure ()

def documentEnds : Nat -> Building Unit
  | 0 => pure ()
  | fuel + 1 => do
    if <- accept .documentEnd then documentEnds fuel

def depthBound (tokens : List Token) : Nat := 5 * tokens.length + 5

def document : Building (Option Nat) := do
  let fuel := depthBound (<- get).stream.tokens
  let root <- match <- peek? with
    | none => return none
    | some .documentStart | some (.directive _) => do
      directives fuel false []
      if !(<- accept .documentStart) then reject
      match <- peek? with
      | none | some .documentStart | some .documentEnd | some (.directive _) => addAbsent
      | _ => node fuel true false
    | _ => node fuel true false
  documentEnds fuel
  match <- peek? with
  | none => return some root
  | some _ =>
    directives fuel false []
    let _ <- peek?
    reject
end Building

def NodeTable.ofText (text : Chars) : Except Fault (Option NodeTable) := do
  let (root?, source) <- Building.document.run { stream := .ofText text }
  return root?.map fun root => ⟨source.nodes, root⟩

inductive Made where
  | scalar (value : Scalar) (mark : Nat)
  | container (number : Nat)

def Made.part : Made -> Part
  | scalar value _ => .scalar value
  | container number => .container number

structure Workshop where
  nodes : Array Node
  made : Array (Option Made)
  containers : Graph := #[]
  waiting : Array (Nat × Nat) := #[]

abbrev Making := StateT Workshop (Except Fault)

namespace Making
variable (number : Nat)

def nodeAt : Making Node := do
  return (<- get).nodes.getD number .absent

def changeNode (change : Node -> Node) : Making Unit :=
  modify fun shop => { shop with nodes := shop.nodes.modify number change }

def defaultEntry? : List (Nat × Nat) -> Making (Option Nat)
  | [] => return none
  | (key, value) :: rest => do
    if (<- nodeAt key).tag = .value then return some value else defaultEntry? rest

def scalarText : Nat -> Nat -> Making (List Text.Piece)
  | 0, _ => throw .malformed
  | fuel + 1, number => do
    match (<- nodeAt number).content with
    | .scalar text => return text
    | .list _ => throw .malformed
    | .map entries =>
      match <- defaultEntry? entries with
      | some value => scalarText fuel value
      | none => throw .malformed

def undefinedMark : Nat := 0

def makeScalar (node : Node) : Making Made := do
  let text <- scalarText ((<- get).nodes.size + 1) number
  match node.tag, node.content with
  | .moment, .map _ => throw .momentMap
  | tag, _ =>
    let value <- scalarValue tag text
    let mark := if namesUndefined text then undefinedMark else number + 1
    return .scalar value mark

def takeMerge : List (Nat × Nat) -> Making (Option (Nat × List (Nat × Nat)))
  | [] => return none
  | (key, value) :: rest => do
    if (<- nodeAt key).tag = .merge then return some (value, rest)
    match <- takeMerge rest with
    | none => return none
    | some (included, others) => return some (included, (key, value) :: others)

def entriesOf : Making (List (Nat × Nat)) := do
  match (<- nodeAt number).content with
  | .map entries => return entries
  | _ => throw .malformed

def settleKey (key : Nat) : Making Unit :=
  changeNode key fun node => if node.tag = .value then { node with tag := .text } else node

mutual
def flatten : Nat -> Nat -> Making Unit
  | 0, _ => throw .malformed
  | fuel + 1, number => do
    let included <- includedIn fuel number
    let own <- entriesOf number
    own.forM fun (key, _) => settleKey key
    if !included.isEmpty then
      changeNode number fun node => { node with content := .map (included ++ own) }

def includedIn : Nat -> Nat -> Making (List (Nat × Nat))
  | 0, _ => throw .malformed
  | fuel + 1, number => do
    match <- takeMerge (<- entriesOf number) with
    | none => return []
    | some (source, others) =>
      changeNode number fun node => { node with content := .map others }
      let shared <- sharedBy fuel source
      return shared ++ (<- includedIn fuel number)

def sharedBy : Nat -> Nat -> Making (List (Nat × Nat))
  | 0, _ => throw .malformed
  | fuel + 1, number => do
    match (<- nodeAt number).content with
    | .map _ =>
      flatten fuel number
      entriesOf number
    | .list items =>
      let parts <- items.mapM fun item => do
        let _ <- entriesOf item
        flatten fuel item
        entriesOf item
      return parts.reverse.flatten
    | .scalar _ => throw .malformed
end

def flattenBound : Making Nat := do
  let count := (<- get).nodes.foldl (fun count node => match node.content with
    | .map entries => count + entries.length
    | _ => count) 0
  return 3 * count + 3

def isContainer (tag : Tag) : Bool := tag ∈ [.list, .map, .set, .orderedMap, .pairs]

def make : Making Made := do
  let shop <- get
  match shop.made.getD number none with
  | some made => return made
  | none =>
    let node <- nodeAt number
    let made <- if isContainer node.tag then do
        let container := shop.containers.size
        set { shop with
          containers := shop.containers.push default
          waiting := shop.waiting.push (number, container) }
        pure (.container container)
      else makeScalar number node
    modify fun shop => { shop with made := shop.made.setIfInBounds number (some made) }
    return made

def sameKey : Made -> Made -> Bool
  | .scalar (.real .undefined) mark, .scalar (.real .undefined) other => mark == other
  | .scalar value _, .scalar other _ => (Value.ofScalar value).sameKey (.ofScalar other)
  | _, _ => false

def put (key value : Made) : List (Made × Made) -> List (Made × Made)
  | [] => [(key, value)]
  | (k, v) :: rest => if sameKey k key then (k, value) :: rest else (k, v) :: put key value rest

def entries : Making (List (Made × Made)) := do
  let _ <- entriesOf number
  flatten (<- flattenBound) number
  (<- entriesOf number).foldlM (fun known (key, value) => do
    match <- make key with
    | .container _ => throw .malformed
    | key => return put key (<- make value) known) []

def pairsOf : Making (List (Made × Made)) := do
  match (<- nodeAt number).content with
  | .list items => items.mapM fun item => do
      match <- entriesOf item with
      | [(key, value)] => return (<- make key, <- make value)
      | _ => throw .malformed
  | _ => throw .malformed

def entryParts : Made × Made -> Part × Part
  | (key, value) => (key.part, value.part)

def contents : Making Shape := do
  let node <- nodeAt number
  match node.tag with
  | .list => match node.content with
    | .list items => return .list ((<- items.mapM make).map Made.part)
    | _ => throw .malformed
  | .map => return .map ((<- entries number).map entryParts)
  | .set => return .set ((<- entries number).map fun (key, _) => key.part)
  | _ => return .pairs ((<- pairsOf number).map entryParts)

def fillFrom : Nat -> (place : Nat) -> Making Unit
  | 0, _ => pure ()
  | fuel + 1, place => do
    match (<- get).waiting[place]? with
    | none => pure ()
    | some (number, container) =>
      let held <- contents number
      modify fun shop => { shop with containers := shop.containers.setIfInBounds container held }
      fillFrom fuel (place + 1)
end Making

def NodeTable.value (table : NodeTable) : Except Fault Value := do
  let shop : Workshop := {
    nodes := table.nodes
    made := Array.replicate table.nodes.size none }
  let (made, shop) <- (do
    let made <- Making.make table.root
    Making.fillFrom (table.nodes.size + 1) 0
    return made : Making Made).run shop
  return .ofPart shop.containers made.part

def read (text : Chars) : Except Fault Value := do
  match <- NodeTable.ofText text with
  | none => return .null
  | some table => table.value
end RouteDocs.Yaml
