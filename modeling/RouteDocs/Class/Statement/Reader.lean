import RouteDocs.Class.Expression.Binding

/-! # Statements -/

namespace RouteDocs.Class
structure FormalParameter where
  kind : ParamKind
  name : String
  default? : Option Expr := none
  hint? : Option Expr := none

inductive Stmt where
  | evaluate (expr : Expr)
  | assign (targets : List Expr) (value : Expr)
  | augment (target : Expr) (op : BinaryOp) (value : Expr)
  | note (target hint : Expr) (value? : Option Expr)
  | drop (targets : List Expr)
  | pass
  | takeModule (path : List String) (name? : Option String)
  | takeMembers (path : List String) (names? : Option (List (String × String)))
  | assure (condition : Expr) (message? : Option Expr)
  | raise (error? cause? : Option Expr)
  | outermost (words : List String)
  | enclosing (words : List String)
  | give (value? : Option Expr)
  | leave
  | goOn
  | choice (condition : Expr) (yes no : List Stmt)
  | whileTrue (condition : Expr) (body otherwise : List Stmt)
  | each (target source : Expr) (body otherwise : List Stmt)
  | define (isPutOff : Bool) (name : String) (params : List FormalParameter)
    (result? : Option Expr) (decorators : List Expr) (body : List Stmt)
  | declare (name : String) (args decorators : List Expr) (body : List Stmt)
  | attempt (body : List Stmt)
    (handlers : List (Option Expr × Option String × List Stmt))
    (otherwise finally_ : List Stmt)
  | managed (value : Expr) (target? : Option Expr) (body : List Stmt)

inductive Body where
  | expr (value : Expr)
  | stmts (stmts : List Stmt)
end RouteDocs.Class

namespace RouteDocs.Class.Stmt
open RouteDocs.Class.Expr (Mark Fault)

def nextLine : Nat -> Chars -> Nat × Chars
  | 0, _ => (0, [])
  | fuel + 1, text =>
    match Expr.indentation 0 text with
    | (_, '\n' :: rest) => nextLine fuel rest
    | (_, '#' :: rest) =>
      match Expr.skipComment rest with
      | '\n' :: rest => nextLine fuel rest
      | _ => (0, [])
    | (_, []) => (0, [])
    | found => found

/-- The marks before a line that is indented up to a column, and what is indented behind it.
`levels` are the columns up to which the lines around it are indented, the last first. -/
def levelMarks (column : Nat) : List Nat -> Except Fault (List Mark × List Nat)
  | [] => .error .indented
  | level :: outer =>
    if column = level then .ok ([], level :: outer)
    else if level < column then .ok ([.deeper], column :: level :: outer)
    else do
      let (marks, levels) <- closed column outer
      return (.shallower :: marks, levels)
where
  closed (column : Nat) : List Nat -> Except Fault (List Mark × List Nat)
    | [] => .error .indented
    | level :: outer =>
      if column = level then .ok ([], level :: outer)
      else if level < column then .error .indented
      else do
        let (marks, levels) <- closed column outer
        return (.shallower :: marks, levels)

def marksWithin : Nat -> (depth : Nat) -> (levels : List Nat) -> Chars ->
    Except Fault (List Mark)
  | _, depth, levels, [] =>
    if depth ≠ 0 then .error .malformed
    else .ok (.lineEnd :: levels.tail.map fun _ => .shallower)
  | 0, _, _, _ => .error .malformed
  | fuel + 1, depth, levels, c :: rest =>
    if c = '\n' then
      if depth ≠ 0 then marksWithin fuel depth levels rest
      else do
        let (column, text) := nextLine (rest.length + 1) rest
        if text.isEmpty then marksWithin fuel depth levels []
        else
          let (before, levels) <- levelMarks column levels
          let marks <- marksWithin fuel depth levels text
          return .lineEnd :: before ++ marks
    else if Expr.isBlank c then marksWithin fuel depth levels rest
    else if c = '#' then marksWithin fuel depth levels (Expr.skipComment rest)
    else if c = '\\' then
      match rest with
      | '\n' :: behind =>
        if behind.isEmpty then .error .malformed else marksWithin fuel depth levels behind
      | _ => .error .malformed
    else
      match Expr.nextMark? (c :: rest) with
      | none => .error .malformed
      | some (mark, behind) => do
        let inner := match mark with
          | .symbol symbol =>
            if Expr.opens symbol then depth + 1
            else if Expr.closes symbol then depth - 1 else depth
          | _ => depth
        return mark :: (<- marksWithin fuel inner levels behind)

def marks (text : Chars) : Except Fault (List Mark) := do
  let lines := Expr.withLineEnds text
  let (column, text) := nextLine (lines.length + 1) lines
  if text.isEmpty then return []
  if column ≠ 0 then throw .indented
  marksWithin (lines.length + 1) 0 [0] text

def isIndentedWell : List Mark -> Bool
  | [] => true
  | .symbol ":" :: .lineEnd :: rest =>
    match rest with
    | .deeper :: inner => isIndentedWell inner
    | _ => false
  | .deeper :: _ => false
  | _ :: rest => isIndentedWell rest
end RouteDocs.Class.Stmt

namespace RouteDocs
namespace Class
namespace Stmt
open RouteDocs.Class.Expr (Mark Reading Fault)
open RouteDocs.Class.Expr.Reading (reads require next? any)

def augmentations : List (String × BinaryOp) := [
  ("+=", .add), ("-=", .subtract), ("*=", .multiply), ("/=", .divide), ("//=", .floorDivide),
  ("%=", .remainder), ("@=", .matrixMultiply), ("&=", .ampersand), ("|=", .bar),
  ("^=", .caret), ("<<=", .shiftLeft), (">>=", .shiftRight), ("**=", .power)]

def endsItems : Option Mark -> Bool
  | none | some .lineEnd => true
  | some (.symbol text) =>
    text ∈ [";", "=", ":", ")", "]", "\x7d"] || (augmentations.lookup text).isSome
  | _ => false

variable (fuel : Nat)

def item : Reading Expr := do
  if <- reads "*" then
    return .spread (<- Expr.Reading.binary fuel Expr.binaryLevels)
  Expr.Reading.test fuel

def itemsFrom (item : Reading Expr) : Nat -> Reading (List Expr × Bool)
  | 0 => failure
  | fuel + 1 => do
    let first <- item
    if !(<- reads ",") then return ([first], false)
    if endsItems (<- next?) then return ([first], true)
    let (others, _) <- itemsFrom item fuel
    return (first :: others, true)

def wholeValue : Reading Expr := do
  match <- itemsFrom (item fuel) fuel with
  | ([.spread _], false) => failure
  | ([alone], false) => return alone
  | (several, _) => return .row several

def anyValue : Reading Expr := do
  if !(<- reads (.keyword "yield")) then return <- wholeValue fuel
  if <- reads (.keyword "from") then
    return .yieldFrom (<- Expr.Reading.test fuel)
  if endsItems (<- next?) then return .yield none
  return .yield (some (<- wholeValue fuel))

def valueIf : Reading (Option Expr) := do
  if endsItems (<- next?) then return none
  return some (<- wholeValue fuel)

def behind (mark : Mark) (fuel : Nat) : Reading (Option Expr) := do
  if <- reads mark then return some (<- Expr.Reading.test fuel)
  return none

def isSingleTarget : Expr -> Bool
  | .name _ | .member .. | .subscript .. => true
  | _ => false

def targetOf (expr : Expr) : Reading Expr := match Expr.asTarget? expr with
  | some target => return target
  | none => failure

def assigned : Nat -> Reading (List Expr)
  | 0 => failure
  | fuel + 1 => do
    if !(<- reads "=") then return []
    let value <- anyValue fuel
    return value :: (<- assigned fuel)

def expressionStatement : Reading Stmt := do
  let first <- anyValue fuel
  if <- reads ":" then
    let target <- targetOf first
    if !isSingleTarget target then failure
    let hint <- Expr.Reading.test fuel
    if <- reads "=" then return .note target hint (some (<- anyValue fuel))
    return .note target hint none
  match <- Expr.operator? augmentations with
  | some op =>
    let target <- targetOf first
    if !isSingleTarget target then failure
    return .augment target op (<- anyValue fuel)
  | none =>
    let values := first :: (<- assigned fuel)
    match values.getLast?, values.dropLast with
    | some last, [] => return .evaluate last
    | some last, targets => return .assign (<- targets.mapM targetOf) last
    | none, _ => failure

def path : Nat -> Reading (List String)
  | 0 => failure
  | fuel + 1 => do
    let first <- Reading.name
    if <- reads "." then return first :: (<- path fuel)
    return [first]

def otherName : Reading (Option String) := do
  if <- reads (.keyword "as") then return some (<- Reading.name)
  return none

def modules : Nat -> Reading (List Stmt)
  | 0 => failure
  | fuel + 1 => do
    let words <- path fuel
    let first := Stmt.takeModule words (<- otherName)
    if <- reads "," then return first :: (<- modules fuel)
    return [first]

def members (isOpen : Bool) : Nat -> Reading (List (String × String))
  | 0 => failure
  | fuel + 1 => do
    let word <- Reading.name
    let other? <- otherName
    let first := (word, other?.getD word)
    if !(<- reads ",") then return [first]
    if isOpen && (<- next?) = some (.symbol ")") then return [first]
    return first :: (<- members isOpen fuel)

def takenMembers : Reading Stmt := do
  let words <- path fuel
  require (.keyword "import")
  if <- reads "*" then return .takeMembers words none
  if <- reads "(" then
    let found <- members true fuel
    require ")"
    return .takeMembers words (some found)
  return .takeMembers words (some (<- members false fuel))

def names : Nat -> Reading (List String)
  | 0 => failure
  | fuel + 1 => do
    let first <- Reading.name
    if <- reads "," then return first :: (<- names fuel)
    return [first]

def dropped : Reading Stmt := do
  match <- wholeValue fuel with
  | .row items => return .drop (<- items.mapM targetOf)
  | alone => return .drop [<- targetOf alone]

def simple : Reading (List Stmt) := do
  let some (.keyword word) <- next? | return [<- expressionStatement fuel]
  match word with
  | "pass" => discard any; return [.pass]
  | "break" => discard any; return [.leave]
  | "continue" => discard any; return [.goOn]
  | "return" => do
    discard any
    return [.give (<- valueIf fuel)]
  | "del" => do
    discard any
    return [<- dropped fuel]
  | "assert" => do
    discard any
    let condition <- Expr.Reading.test fuel
    return [.assure condition (<- behind "," fuel)]
  | "raise" => do
    discard any
    if endsItems (<- next?) then return [.raise none none]
    let error <- Expr.Reading.test fuel
    return [.raise (some error) (<- behind (.keyword "from") fuel)]
  | "global" => do
    discard any
    return [.outermost (<- names fuel)]
  | "nonlocal" => do
    discard any
    return [.enclosing (<- names fuel)]
  | "import" => do
    discard any
    modules fuel
  | "from" => do
    discard any
    return [<- takenMembers fuel]
  | _ => return [<- expressionStatement fuel]

def line : Nat -> Reading (List Stmt)
  | 0 => failure
  | fuel + 1 => do
    let first <- simple fuel
    if <- reads ";" then
      if <- reads .lineEnd then return first
      return first ++ (<- line fuel)
    require .lineEnd
    return first

def params : Reading (List FormalParameter) := do
  require "("
  let found <- Expr.Reading.parameterList ")" (behind ":" fuel)
    (Expr.Reading.test fuel) fuel
  require ")"
  return found.map fun ((kind, name, default?), hint?) => ⟨kind, name, default?, hint?⟩

def args (fuel : Nat) : Reading (List Expr) := do
  if !(<- reads "(") then return []
  let (found, hasComma) <- Expr.Reading.items ")" (Expr.Reading.argument fuel) fuel
  let args := found.map Prod.fst
  if found.any Prod.snd && (args.length ≠ 1 || hasComma) then failure
  if Expr.areArguments args then return args else failure

def decorators : Nat -> Reading (List Expr)
  | 0 => failure
  | fuel + 1 => do
    if !(<- reads "@") then return []
    let first <- Expr.Reading.namedTest fuel
    require .lineEnd
    return first :: (<- decorators fuel)

def managers (isOpen : Bool) : Nat -> Reading (List (Expr × Option Expr))
  | 0 => failure
  | fuel + 1 => do
    let value <- Expr.Reading.test fuel
    let target? <- if <- reads (.keyword "as") then
        some <$> Expr.Reading.target fuel
      else pure none
    if !(<- reads ",") then return [(value, target?)]
    if isOpen && (<- next?) = some (.symbol ")") then return [(value, target?)]
    return (value, target?) :: (<- managers isOpen fuel)

def allManagers : Reading (List (Expr × Option Expr)) := fun marks =>
  let inBrackets : Reading (List (Expr × Option Expr)) := do
    require "("
    let found <- managers true fuel
    require ")"
    if (<- next?) ≠ some (.symbol ":") then failure
    return found
  (inBrackets.run marks).or ((managers false fuel).run marks)

def managedBy (body : List Stmt) : List (Expr × Option Expr) -> List Stmt
  | [] => body
  | (first, target?) :: rest => [.managed first target? (managedBy body rest)]

mutual
def stmt : Nat -> Reading (List Stmt)
  | 0 => failure
  | fuel + 1 => do
    match <- next? with
    | some (.symbol "@") => do
      let found <- decorators fuel
      return [<- definition fuel found]
    | some (.keyword word) =>
      match word with
      | "def" | "class" | "async" => return [<- definition fuel []]
      | "if" => do
        discard any
        return [<- chosen fuel]
      | "while" => do
        discard any
        let condition <- Expr.Reading.namedTest fuel
        let body <- block fuel
        return [.whileTrue condition body (<- blockBehind "else" fuel)]
      | "for" => do
        discard any
        let target <- Expr.Reading.targets fuel
        require (.keyword "in")
        let source <- wholeValue fuel
        let body <- block fuel
        return [.each target source body (<- blockBehind "else" fuel)]
      | "try" => do
        discard any
        let body <- block fuel
        let found <- handlers fuel
        let otherwise <- if found.isEmpty then pure [] else blockBehind "else" fuel
        let last <- blockBehind "finally" fuel
        if found.isEmpty && last.isEmpty then failure
        return [.attempt body found otherwise last]
      | "with" => do
        discard any
        let found <- allManagers fuel
        return managedBy (<- block fuel) found
      | _ => line fuel
    | _ => line fuel

def chosen : Nat -> Reading Stmt
  | 0 => failure
  | fuel + 1 => do
    let condition <- Expr.Reading.namedTest fuel
    let yes <- block fuel
    if <- reads (.keyword "elif") then return .choice condition yes [<- chosen fuel]
    return .choice condition yes (<- blockBehind "else" fuel)

def handlers : Nat -> Reading (List (Option Expr × Option String × List Stmt))
  | 0 => failure
  | fuel + 1 => do
    if !(<- reads (.keyword "except")) then return []
    if (<- next?) = some (.symbol ":") then
      let body <- block fuel
      if (<- next?) = some (.keyword "except") then failure
      return [(none, none, body)]
    let wanted <- Expr.Reading.test fuel
    let name? <- otherName
    let body <- block fuel
    return (some wanted, name?, body) :: (<- handlers fuel)

def definition : Nat -> List Expr -> Reading Stmt
  | 0, _ => failure
  | fuel + 1, decorators => do
    let isPutOff <- reads (.keyword "async")
    if isPutOff && (<- next?) ≠ some (.keyword "def") then failure
    match <- any with
    | .keyword "def" => do
      let word <- Reading.name
      let params <- params fuel
      let result? <- behind "->" fuel
      return .define isPutOff word params result? decorators (<- block fuel)
    | .keyword "class" => do
      let word <- Reading.name
      let args <- args fuel
      return .declare word args decorators (<- block fuel)
    | _ => failure

def block : Nat -> Reading (List Stmt)
  | 0 => failure
  | fuel + 1 => do
    require ":"
    if <- reads .lineEnd then
      require .deeper
      stmts fuel true
    else line fuel

def blockBehind (word : String) : Nat -> Reading (List Stmt)
  | 0 => failure
  | fuel + 1 => do
    if <- reads (.keyword word) then block fuel else return []

def stmts : Nat -> (isInner : Bool) -> Reading (List Stmt)
  | 0, _ => failure
  | fuel + 1, isInner => do
    match <- next? with
    | none => if isInner then failure else return []
    | some .shallower => do
      if !isInner then failure
      discard any
      return []
    | _ => do
      let first <- stmt fuel
      if isInner && (<- reads .shallower) then return first
      return first ++ (<- stmts fuel isInner)
end

def ofMarks (marks : List Mark) : Except Fault (List Stmt) :=
  match (stmts (40 * (marks.length + 1)) false).run marks with
  | some (found, []) => .ok found
  | _ => .error (if isIndentedWell marks then .malformed else .indented)

def read (text : Chars) : Except Fault (List Stmt) :=
  if text.contains '\x00' then .error .nullCharacter else marks text >>= ofMarks
end Stmt
end Class
end RouteDocs

namespace RouteDocs.Class
namespace Stmt
def hints : Stmt -> List Expr
  | .note _ hint _ => [hint]
  | .define _ _ params result? _ _ => params.filterMap (·.hint?) ++ result?.toList
  | _ => []

def targets : Stmt -> List Expr
  | .assign targets _ | .drop targets => targets
  | .augment target _ _ | .note target _ _ | .each target _ _ _ => [target]
  | .managed _ target? _ => target?.toList
  | _ => []

def expressions (stmt : Stmt) : List Expr := stmt.targets ++ stmt.hints ++ match stmt with
    | .evaluate value | .assign _ value | .augment _ _ value | .choice value _ _
    | .whileTrue value _ _ | .each _ value _ _ | .managed value _ _ => [value]
    | .note _ _ value? | .give value? => value?.toList
    | .assure condition message? => condition :: message?.toList
    | .raise error? cause? => error?.toList ++ cause?.toList
    | .define _ _ params _ decorators _ => params.filterMap (·.default?) ++ decorators
    | .declare _ args decorators _ => args ++ decorators
    | .attempt _ handlers _ _ => handlers.filterMap Prod.fst
    | _ => []

def moduleName (path : List String) (name? : Option String) : String := name?.getD (path.headD "")

def bound (stmt : Stmt) : List String :=
  let names := match stmt with
    | .takeModule path name? => [moduleName path name?]
    | .takeMembers _ names? => (names?.getD []).map Prod.snd
    | .define _ name _ _ _ _ | .declare name _ _ _ => [name]
    | .attempt _ handlers _ _ => handlers.filterMap fun (_, name?, _) => name?
    | _ => []
  names ++ stmt.targets.flatMap Expr.targetNames ++ stmt.expressions.flatMap Expr.assigned

mutual
def inside : Stmt -> List Stmt
  | .choice _ first second | .whileTrue _ first second | .each _ _ first second =>
    allOf first ++ allOf second
  | .attempt body handlers otherwise finally_ =>
    allOf body ++ allOfHandlers handlers ++ allOf otherwise ++ allOf finally_
  | .managed _ _ body => allOf body
  | _ => []

def allOf : List Stmt -> List Stmt
  | [] => []
  | first :: rest => first :: first.inside ++ allOf rest

def allOfHandlers : List (Option Expr × Option String × List Stmt) -> List Stmt
  | [] => []
  | (_, _, body) :: rest => allOf body ++ allOfHandlers rest
end

def foreignIn (body : List Stmt) : List (String × Bool) := (allOf body).flatMap fun
    | .outermost words => words.map fun word => (word, true)
    | .enclosing words => words.map fun word => (word, false)
    | _ => []

def variablesOf (params : List FormalParameter) (body : List Stmt) : List String :=
  let foreign := (foreignIn body).map Prod.fst
  params.map FormalParameter.name ++
    ((allOf body).flatMap bound).filter fun word => !foreign.contains word

structure Setting where
  inFunction : Bool := false
  inLoop : Bool := false
  inClass : Bool := false
  enclosing : List String := []

mutual
def isSound (env : Setting) (stmt : Stmt) : Bool :=
  stmt.expressions.all (·.isSound { mayYield := env.inFunction }) &&
    stmt.hints.all (·.isSound {}) && match stmt with
      | .takeMembers _ names? => names?.isSome || !(env.inFunction || env.inClass)
      | .enclosing words => (env.inFunction || env.inClass) && words.all env.enclosing.contains
      | .give _ => env.inFunction
      | .leave | .goOn => env.inLoop
      | .choice _ yes no => areSound env yes && areSound env no
      | .whileTrue _ body otherwise | .each _ _ body otherwise =>
        areSound { env with inLoop := true } body && areSound env otherwise
      | .define _ _ params _ _ body =>
        let names := env.enclosing ++ variablesOf params body
        areSound { inFunction := true, enclosing := names } body
      | .declare _ _ _ body => areSound { inClass := true, enclosing := env.enclosing } body
      | .attempt body handlers otherwise finally_ =>
        areSound env body && areHandlersSound env handlers && areSound env otherwise &&
          areSound env finally_
      | .managed _ _ body => areSound env body
      | _ => true

def areSound (env : Setting) : List Stmt -> Bool
  | [] => true
  | first :: rest => first.isSound env && areSound env rest

def areHandlersSound (env : Setting) : List (Option Expr × Option String × List Stmt) -> Bool
  | [] => true
  | (_, _, body) :: rest => areSound env body && areHandlersSound env rest
end

def readSound (text : Chars) : Except Expr.Fault (List Stmt) := do
  let found <- read text
  if areSound {} found then return found else throw .malformed
end Stmt

namespace Body
def yields : Body -> Bool
  | expr value => value.yields
  | stmts found => (Stmt.allOf found).any fun stmt => stmt.expressions.any Expr.yields

def ownNames : Body -> List String
  | expr value => value.assigned
  | stmts found => Stmt.variablesOf [] found

def outermost : Body -> List String
  | expr _ => []
  | stmts found =>
    (Stmt.foreignIn found).filterMap fun (word, isOutermost) =>
      if isOutermost then some word else none
end Body
end RouteDocs.Class
