import RouteDocs.Class.Evaluation.Running

/-! # What expressions stand for -/

namespace RouteDocs.Class
def Literal.value : Literal -> Hint
  | nothing => .nothing
  | dots => .dots
  | truth given => .truth given
  | int given => .int given
  | real given => .real given
  | imaginary given => .complex (.zero false) given
  | text pieces => .text pieces
  | octets bytes => .octets bytes

namespace VM
open Eval

def values (vm : VM) (env : Env) : List Expr -> Eval (List Hint)
  | [] => return []
  | .spread inner :: rest => do
    let items <- vm.items (<- vm.eval env inner)
    return items ++ (<- values vm env rest)
  | expr :: rest => do
    let first <- vm.eval env expr
    return first :: (<- values vm env rest)

def setItems (vm : VM) (env : Env) : Buckets -> List Expr -> Eval Buckets
  | found, [] => return found
  | found, .spread inner :: rest => do
    let more <- vm.mergeInto found (<- vm.eval env inner)
    setItems vm env more rest
  | found, expr :: rest => do
    let item <- keyArgument (<- vm.eval env expr)
    setItems vm env (found.insert item) rest

def entriesFrom (vm : VM) (env : Env) : Table -> List (Expr × Expr) -> Eval Table
  | found, [] => return found
  | found, (.spreadEntries inner, _) :: rest => do
    let some table <- tableIn? (<- vm.eval env inner) | misfit
    entriesFrom vm env (found.insertAll table.toList) rest
  | found, (key, inner) :: rest => do
    let key <- vm.eval env key
    let inner <- vm.eval env inner
    entriesFrom vm env (found.insert (<- keyArgument key) inner) rest

def joinedParts (vm : VM) (env : Env) : List Expr -> Eval (List Text.Piece)
  | [] => return []
  | part :: rest => do
    let pieces <- piecesOf (<- vm.eval env part)
    return pieces ++ (<- joinedParts vm env rest)

def comparedInRow (vm : VM) (env : Env) : Hint -> List (Comparison × Expr) -> Eval Hint
  | _, [] => return .truth true
  | first, (how, second) :: rest => do
    let second <- vm.eval env second
    let found <- vm.compared first second how
    if rest.isEmpty then return found
    if <- vm.isTrue found then comparedInRow vm env second rest
    else return found

def loopValue (vm : VM) (env : Env) (kind : LoopKind)
    (results : List Expr) (clauses : List Clause) : Eval Hint := do
  match clauses with
  | [] => misfit
  | (_, source, _) :: _ =>
    let loop <- vm.begin_ env results clauses (<- vm.eval env source)
    match kind with
    | .stream => newStream "generator" (.loop loop)
    | .list =>
      let items <- vm.rounds loop (#[] : Array Hint) fun found results => return found ++ results
      newList items.toList
    | .set =>
      let items <- vm.rounds loop ({} : Buckets) fun found results => do
        return found.insertAll (<- hashed results)
      newSet items
    | .dict =>
      let table <- vm.rounds loop ({} : Table) fun found results =>
        match results with
        | [key, value] => do return found.insert (<- keyArgument key) value
        | _ => misfit
      newTable table

def handOutFrom (vm : VM) (source : Hint) : Eval Hint := do
  modify fun mem => { mem with returned := .nothing }
  let items <- vm.items source
  let result := (<- get).returned
  items.forM fun item => discard (vm.handOut item)
  return result

def evalStep (vm : VM) (env : Env) (expr : Expr) : Eval Hint := do
  match expr with
  | .name word => vm.lookUp env word
  | .literal given => return given.value
  | .joined parts => return .text (<- vm.joinedParts env parts)
  | .formatted inner conversion? format =>
    let found <- vm.eval env inner
    let found <- vm.convertedBy conversion? found
    return .text (<- vm.formatted found (<- vm.joinedParts env format))
  | .member owner word => vm.member (<- vm.eval env owner) word
  | .subscript base index =>
    let base <- vm.eval env base
    vm.subscript base (<- vm.eval env index)
  | .call callee args =>
    let callee <- vm.eval env callee
    vm.call callee (<- vm.argumentsOf env {} args)
  | .unary .negate operand => return .truth (!(<- vm.isTrue (<- vm.eval env operand)))
  | .unary op operand => vm.operateAlone op (<- vm.eval env operand)
  | .binary op first second =>
    let first <- vm.eval env first
    vm.operate op first (<- vm.eval env second)
  | .comparison first others => vm.comparedInRow env (<- vm.eval env first) others
  | .either first second =>
    let first <- vm.eval env first
    if <- vm.isTrue first then return first else vm.eval env second
  | .both first second =>
    let first <- vm.eval env first
    if <- vm.isTrue first then vm.eval env second else return first
  | .choice condition yes no =>
    let holds <- vm.isTrue (<- vm.eval env condition)
    vm.eval env (if holds then yes else no)
  | .row items => return .row (<- vm.values env items)
  | .list items => newList (<- vm.values env items)
  | .set items => newSet (<- vm.setItems env {} items)
  | .dict entries => newTable (<- vm.entriesFrom env {} entries)
  | .slice start? stop? step? =>
    let start <- vm.optional env start?
    let stop <- vm.optional env stop?
    return .slice start stop (<- vm.optional env step?)
  | .assign word inner =>
    let found <- vm.eval env inner
    assign env word found
    return found
  | .fn params body =>
    let params <- params.mapM fun (kind, word, default?) => do
      let some default := default? | return (kind, word, none)
      return (kind, word, some (<- vm.eval env default))
    let fn : Function := { params, body := .expr body, env }
    return .fn (<- keep (.fn fn)) fn.name
  | .loop kind results clauses => vm.loopValue env kind results clauses
  | .yield value? => vm.handOut (<- vm.optional env value?)
  | .yieldFrom source => vm.handOutFrom (<- vm.eval env source)
  | .named _ _ | .spread _ | .spreadEntries _ => misfit

def withFuel (scope : Scope) : Nat -> VM
  | 0 =>
    { scope
      eval := fun _ _ => throw .tooDeep
      call := fun _ _ => throw .tooDeep
      advance := fun _ => throw .tooDeep
      run := fun _ _ => throw .tooDeep
      special? := fun _ _ => return none }
  | fuel + 1 =>
    let inner := withFuel scope fuel
    { scope
      eval := inner.evalStep
      call := inner.callStep
      advance := inner.advanceStep
      run := inner.runStep
      special? := inner.specialStep }
end VM

namespace Expr
def evaluationDepth : Nat := 3000

def evaluate (scope : Scope) (names : Names) (expr : Expr) : Eval Hint := do
  let vm := VM.withFuel scope evaluationDepth
  let env : Env := { names }
  let found <- Eval.within env (vm.eval env expr)
  Eval.within env (vm.settledInside found)
end Expr
end RouteDocs.Class
