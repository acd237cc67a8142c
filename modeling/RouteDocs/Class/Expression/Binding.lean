import RouteDocs.Class.Expression.Reader

/-! # Names that expressions bind -/

namespace RouteDocs.Class.Expr

mutual
def targetNames : Expr -> List String
  | .name word => [word]
  | .row targets => targetNamesIn targets
  | .spread inner => inner.targetNames
  | _ => []

def targetNamesIn : List Expr -> List String
  | [] => []
  | first :: rest => first.targetNames ++ targetNamesIn rest
end

def clauseNames (clauses : List (Expr × Expr × List Expr)) : List String :=
  clauses.flatMap fun (target, _, _) => target.targetNames

structure Setting where
  mayYield : Bool := false
  mayAssign : Bool := true
  targets : List String := []
  isInner : Bool := false

def Setting.inLoop (env : Setting) (names : List String) : Setting :=
  { env with mayYield := false, targets := names ++ env.targets }

structure Act where
  env : Setting
  word? : Option String

def Act.isSound (act : Act) : Bool := match act.word? with
  | some word => act.env.mayAssign && !act.env.targets.contains word
  | none => act.env.mayYield

mutual
def acts (env : Setting) : Expr -> List Act
  | .name _ | .literal _ => []
  | .joined parts | .row parts | .list parts | .set parts => actsIn env parts
  | .formatted value _ format => value.acts env ++ actsIn env format
  | .member value _ | .named _ value | .spread value | .spreadEntries value | .unary _ value =>
    value.acts env
  | .subscript first second | .binary _ first second | .either first second
  | .both first second => first.acts env ++ second.acts env
  | .call callee args => callee.acts env ++ actsIn env args
  | .comparison first others => first.acts env ++ actsInComparisons env others
  | .choice condition yes no => condition.acts env ++ yes.acts env ++ no.acts env
  | .dict entries => actsInEntries env entries
  | .slice start? stop? step? => actsIf env start? ++ actsIf env stop? ++ actsIf env step?
  | .assign word value => ⟨env, some word⟩ :: value.acts env
  | .fn params body =>
    actsInParameters env params ++
      body.acts { mayYield := true, mayAssign := env.mayAssign, isInner := true }
  | .loop _ results clauses =>
    let inner := env.inLoop (clauseNames clauses)
    actsIn inner results ++ actsInClauses env inner clauses
  | .yield value? => ⟨env, none⟩ :: actsIf env value?
  | .yieldFrom value => ⟨env, none⟩ :: value.acts env

def actsIn (env : Setting) : List Expr -> List Act
  | [] => []
  | first :: rest => first.acts env ++ actsIn env rest

def actsIf (env : Setting) : Option Expr -> List Act
  | none => []
  | some inner => inner.acts env

def actsInComparisons (env : Setting) : List (Comparison × Expr) -> List Act
  | [] => []
  | (_, inner) :: rest => inner.acts env ++ actsInComparisons env rest

def actsInEntries (env : Setting) : List (Expr × Expr) -> List Act
  | [] => []
  | (key, inner) :: rest => key.acts env ++ inner.acts env ++ actsInEntries env rest

def actsInParameters (env : Setting) : List (ParamKind × String × Option Expr) -> List Act
  | [] => []
  | (_, _, default?) :: rest => actsIf env default? ++ actsInParameters env rest

def actsInClauses (outer inner : Setting) : List (Expr × Expr × List Expr) -> List Act
  | [] => []
  | (target, source, conditions) :: rest =>
    target.acts inner ++ source.acts { outer with mayAssign := false } ++ actsIn inner conditions ++
      actsInClauses inner inner rest
end

def isSound (env : Setting) (expr : Expr) : Bool := (expr.acts env).all Act.isSound
def ownActs (expr : Expr) : List Act := (expr.acts {}).filter (!·.env.isInner)
def assigned (expr : Expr) : List String := expr.ownActs.filterMap Act.word?
def yields (expr : Expr) : Bool := expr.ownActs.any (·.word?.isNone)

def readSound (text : String) : Except Fault Expr := do
  let expr <- read text
  if expr.isSound {} then return expr else throw .malformed
end RouteDocs.Class.Expr
