import RouteDocs.Class.Evaluation.Access
import RouteDocs.Class.RecordFields

/-! # Errors and faults -/

namespace RouteDocs.Class
namespace HintFault
def ofNames : List (String × HintFault) := [
  ("TypeError", .misfit), ("KeyError", .noKey), ("IndexError", .noIndex),
  ("ZeroDivisionError", .byZero), ("OverflowError", .outOfRange), ("MemoryError", .tooLarge),
  ("RecursionError", .tooDeep), ("StopIteration", .exhausted), ("RuntimeError", .disturbed),
  ("LookupError", .unknownEncoding), ("UnicodeDecodeError", .undecodable),
  ("ModuleNotFoundError", .noModule), ("AttributeError", .noMember ""),
  ("SyntaxError", .text .malformed), ("IndentationError", .text .indented),
  ("UnicodeEncodeError", .text .surrogate), ("AssertionError", .unsound)]

def ofError (line : List String) (message : String) : HintFault :=
  let name := line.headD ""
  if line.contains "NameError" then .undefined message
  else if name = "ValueError" then .badValue message
  else (ofNames.lookup name).getD (.raised name message)

def errorName : HintFault -> String
  | undefined _ => "NameError"
  | badValue _ => "ValueError"
  | noMember _ => "AttributeError"
  | missing _ => "KeyError"
  | text .empty => "IndexError"
  | text .nullCharacter => "ValueError"
  | raised name _ => name
  | fault => ((ofNames.find? fun entry => entry.2 = fault).map Prod.fst).getD "Exception"

def errorParts : HintFault -> List Hint
  | undefined message | badValue message | raised _ message => [Hint.words message]
  | missing name => [Hint.words name]
  | _ => []
end HintFault

def errorClass : Builtin := .standard "BaseException"

namespace Scope
def lineNames (scope : Scope) : Hint -> List String
  | .builtin cls => cls.line.map Builtin.name
  | .declared number name =>
    (Hint.declared number name).plainName :: (scope.foreignLine number).map Builtin.name
  | _ => []

def isErrorClass (scope : Scope) (cls : Hint) : Bool :=
  (scope.lineNames cls).contains errorClass.name
end Scope

namespace Eval
def errorParts (value : Hint) : Eval (List Hint) := do
  match value with
  | .error _ _ args => return args
  | .thing _ _ number =>
    let some (.row args) := (<- attributesOf number).lookup "args" | return []
    return args
  | _ => return []

def errorText (value : Hint) : Eval String := do
  let args <- (<- errorParts value).mapM frozen
  match Hint.asText (.error errorClass 0 args) with
  | .ok pieces => return Text.escapedText pieces
  | .error _ => return ""

def errorNumber? : Hint -> Option Nat
  | .error _ number _ | .thing _ _ number => some number
  | _ => none

def putPart (name : String) (part value : Hint) : Eval Unit := do
  if let some number := errorNumber? value then
    store number (.attrs (putNamed name part (<- attributesOf number)))

def noteContext (value : Hint) : Eval Unit := do
  match (<- get).handled with
  | (_, other) :: _ =>
    if errorNumber? other ≠ errorNumber? value then putPart "__context__" other value
  | [] => return ()

def raise {α : Type} (scope : Scope) (value : Hint) : Eval α := do
  let cls := value.classHint
  if !scope.isErrorClass cls then misfit
  noteContext value
  let fault := HintFault.ofError (scope.lineNames cls) (<- errorText value)
  modify fun mem => { mem with raised? := some (fault, value) }
  throw fault

def errorOf (fault : HintFault) : Eval Hint := do
  match (<- get).raised? with
  | some (last, value) => if last = fault then return value else fresh
  | none => fresh
where
  fresh : Eval Hint := do
    let returned := (<- get).returned
    let parts := if fault = .exhausted && !(returned matches .nothing) then [returned]
      else fault.errorParts
    let value <- newError (.ofFullName fault.errorName) parts
    noteContext value
    modify fun mem => { mem with raised? := some (fault, value) }
    return value
end Eval

def isHead (lines : List (List Nat)) (candidate : Nat) : Bool :=
  lines.all fun line => candidate ∉ line.tail

def dropHead (next : Nat) : List Nat -> List Nat
  | [] => []
  | first :: rest => if first = next then rest else first :: rest

/-- Merge lines of ancestors, up to `fuel` classes; nothing if the lines do not agree. -/
def mergeWithin : Nat -> List (List Nat) -> Option (List Nat)
  | fuel, lines =>
    let open_ := lines.filter fun line => !line.isEmpty
    if open_.isEmpty then some []
    else
      match fuel, (open_.filterMap List.head?).find? (isHead open_) with
      | fuel + 1, some next => (mergeWithin fuel (open_.map (dropHead next))).map (next :: ·)
      | _, _ => none

def mergeLines (lines : List (List Nat)) : Option (List Nat) :=
  mergeWithin lines.flatten.length lines

def ancestors? (bases : List (Nat × List Nat)) : Option (List Nat) :=
  mergeLines (bases.map (fun (base, line) => base :: line) ++ [bases.map Prod.fst])

structure ClassParts where
  name : String
  bases : List Hint := []
  entries : NamedHints := []
  home? : Option Hint := none
  isDeclared : Bool := false
  named : NamedHints := []

def ReservedFault.hintFault : ReservedFault -> HintFault
  | unfit => .misfit
  | endedName => .badValue endedNameMessage
  | taken place => .badValue (takenMessage place)
  | noTable => .noMember "get"

namespace Builtin
def closed : List String :=
  ("NoneType NotImplementedType UnionType async_generator bool builtin_function_or_method " ++
  "bytearray_iterator bytes_iterator callable_iterator cell classmethod_descriptor code " ++
  "coroutine dict_items dict_itemiterator dict_keyiterator dict_keys dict_valueiterator " ++
  "dict_values ellipsis frame function generator getset_descriptor list_iterator mappingproxy " ++
  "member_descriptor memoryview method method-wrapper method_descriptor range range_iterator " ++
  "set_iterator slice str_iterator traceback tuple_iterator wrapper_descriptor").splitOn " "

def isOpen (cls : Builtin) : Bool := match cls with
  | .library "re" "Match" | .library "re" "Pattern" => false
  | .library _ _ => true
  | _ => cls.name ∉ closed

def widerErrors : List String :=
  ("AttributeError BaseExceptionGroup ImportError NameError OSError StopIteration SyntaxError " ++
  "SystemExit UnicodeDecodeError UnicodeEncodeError UnicodeTranslateError").splitOn " "

def isSolid (cls : Builtin) : Bool := match cls with
  | .library _ _ | .any => false
  | .standard name =>
    name ≠ "object" && (!Standard.isError name || name = errorClass.name || name ∈ widerErrors)
  | _ => true

def solid (cls : Builtin) : Builtin := (cls.line.find? isSolid).getD object

def goTogether (classes : List Builtin) : Bool := classes.all fun first => classes.all fun second =>
    first.solid.line.contains second.solid || second.solid.line.contains first.solid
end Builtin

namespace VM
open Eval

def splitBases : List Hint -> Eval (List Nat × List Builtin)
  | [] => return ([], [])
  | .declared number _ :: rest => do
    let (numbers, others) <- splitBases rest
    return (number :: numbers, others)
  | .builtin cls :: rest => do
    if !cls.isOpen then misfit
    let (numbers, others) <- splitBases rest
    if cls = .object && !rest.isEmpty then misfit
    return (numbers, if cls = .object then others else cls :: others)
  | _ => misfit

def isEnclosed (name : String) : Bool := name.startsWith "_" && name.endsWith "_"
def descriptors : List String := ["property", "staticmethod", "classmethod"]

def isMember (cls : String) : String × Hint -> Bool
  | (name, value) =>
    !isEnclosed name && !name.startsWith ("_" ++ cls ++ "__") && match value with
      | .fn .. => false
      | .inst (.builtin (.standard kind)) _ _ => kind ∉ descriptors
      | _ => true

def autoClass : Builtin := .library "enum" "auto"

def nextValue (inherited : List Builtin) (name : String) (before : List Hint) : Hint :=
  let extends_ (wanted : String) : Bool := inherited.any fun cls => cls.shown = wanted
  if extends_ "enum.StrEnum" then
    .words (name.map Char.toLower)
  else
    let numbers := before.filterMap Hint.int?
    if extends_ "enum.Flag" then
      let top := numbers.foldl max 0
      .int (if top <= 0 then 1 else Int.pow 2 (top.toNat.log2 + 1))
    else .int ((numbers.head?.map (· + 1)).getD 1)

def numbered (inherited : List Builtin) (members : NamedHints) : NamedHints :=
  (members.foldl (fun found (name, value) =>
    let value := match value with
      | .inst (.builtin cls) _ _ =>
        if cls = autoClass then nextValue inherited name (found.map Prod.snd) else value
      | _ => value
    (name, value) :: found) []).reverse

def withoutAliases (members : NamedHints) : NamedHints × List (String × String × Hint) :=
  members.foldl (fun (found, others) (name, value) =>
    match found.find? fun entry => entry.2.equals value with
    | some (first, _) => (found, others ++ [(name, first, value)])
    | none => (found ++ [(name, value)], others)) ([], [])

def notesIn (entries : NamedHints) : Eval (Option (OrderedMap String Hint)) := do
  let some (.cell .dict number) := entries.lookup notesName | return none
  let table <- tableOf number
  let notes <- table.toList.filterMapM fun (name, hint) => do
    let some word := nameOf? name | return none
    return some (word, <- frozen hint)
  return some (OrderedMap.ofList notes)

def titleIn (entries : NamedHints) (name : String) : String :=
  ((entries.lookup wholeTitleName).bind nameOf?).getD name

def isEnum (cls : Builtin) : Bool := cls.line.any fun found => found.shown ∈ Library.enumerations

def tellAncestors (vm : VM) (cls : Hint) (named : NamedHints) : Eval Unit := do
  match <- vm.ancestorMember? cls cls extensionName with
  | some (.fn method _) => discard (vm.call (<- boundFunction method cls) { named })
  | some (.bound ..) | none => if !named.isEmpty then misfit
  | some callee => discard (vm.call callee { named })

def tellNames (vm : VM) (cls : Hint) (entries : NamedHints) : Eval Unit :=
  entries.forM fun (name, value) => do
    if let some method <- vm.special? value "__set_name__" then
      discard (vm.call method { plain := [cls, .words name] })

def makeClass (vm : VM) (parts : ClassParts) : Eval Hint := do
  let scope <- vm.scopeNow
  let (numbers, foreign) <- splitBases parts.bases
  let bases := numbers.filterMap scope.get?
  if bases.any Class.isModel then misfit
  let isEnum := bases.any scope.isEnum || foreign.any isEnum
  if isEnum && !parts.isDeclared then throw (.noMember "_member_names")
  if bases.any fun cls => !cls.constants.isEmpty then misfit
  let attrs := OrderedMap.ofList (parts.entries.map fun (name, value) => (name, Attr.given value))
  let frozenEntries <- parts.entries.mapM fun (name, value) => do
    return (name, Attr.given (<- frozen value))
  let check {α : Type} (outcome : Except ReservedFault α) : Eval α :=
    lift (outcome.mapError ReservedFault.hintFault)
  let places? <- check (placesOf scope parts.name bases (OrderedMap.ofList frozenEntries))
  check (checkName parts.name)
  check (checkReserved attrs)
  let inherited := foreign ++ numbers.flatMap fun number => scope.foreignLine number
  if !Builtin.goTogether inherited || !decide foreign.Nodup then misfit
  let some ancestors := ancestors? (bases.map fun cls => (cls.number, cls.ancestors))
    | misfit
  let notes? <- notesIn parts.entries
  let home? := (parts.entries.lookup "__module__").or parts.home?
  let kept := parts.entries.filter fun (name, _) =>
    name ≠ wholeTitleName && !(name = notesName && notes?.isSome)
  let own := if isEnum then parts.entries.filter (isMember parts.name) else []
  let (members, aliases) := withoutAliases (numbered inherited own)
  let given := (home?.toList.map fun home => ("__module__", home)) ++
    kept.filter fun (name, _) => name ≠ "__module__" && (own.lookup name).isNone
  let attrs := OrderedMap.ofList (given.map fun (name, value) => (name, Attr.given value))
  let cls : Class := {
    number := madeBase + scope.made.length, name := parts.name
    title? := some (titleIn parts.entries parts.name)
    style := if isEnum then .enumeration else .plain
    bases := numbers, foreign, ancestors, places?
    constants := members
    notes := notes?.getD .empty
    isHomeless := home?.isNone
    isErrorUnion := hasErrorMark attrs
    attrs := withPlaces parts.name places? attrs }
  let others := aliases.map fun (name, first, value) =>
    ((cls.number, name), Hint.const cls.hint first value)
  modify fun mem => { mem with
    made := mem.made ++ [cls], attrs := others ++ mem.attrs }
  vm.tellNames cls.hint parts.entries
  vm.tellAncestors cls.hint parts.named
  return cls.hint
end VM
end RouteDocs.Class
