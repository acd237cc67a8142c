import RouteDocs.Class.Library

/-! # Classes that are not declared -/

namespace RouteDocs.Class
inductive Builtin where
  | int
  | float
  | str
  | bool
  | decimal
  | datetime
  | date
  | uuid
  | none
  | any
  | dict
  | bytes
  | list
  | tuple
  | set
  | frozenset
  | sequence
  | abstractSet
  | standard (name : String)
  | library (module name : String)
deriving DecidableEq

namespace Builtin
def name : Builtin -> String
  | int => "int"
  | float => "float"
  | str => "str"
  | bool => "bool"
  | decimal => "Decimal"
  | datetime => "datetime"
  | date => "date"
  | uuid => "UUID"
  | none => "NoneType"
  | any => "Any"
  | dict => "dict"
  | bytes => "bytes"
  | list => "list"
  | tuple => "tuple"
  | set => "set"
  | frozenset => "frozenset"
  | sequence => "Sequence"
  | abstractSet => "Set"
  | standard name | library _ name => name

def everywhere : List Builtin := [int, float, str, bool, dict, bytes, list, tuple, set, frozenset]

def ofName? (word : String) : Option Builtin := (everywhere.find? fun cls => cls.name = word) <|>
    (Standard.ofName? word).map standard

def home : Builtin -> String
  | decimal => "decimal."
  | datetime | date => "datetime."
  | uuid => "uuid."
  | any => "typing."
  | sequence | abstractSet => "collections.abc."
  | standard name => if name = "GenericAlias" || name = "UnionType" then "types." else ""
  | library module _ => module ++ "."
  | _ => ""

def shown (builtin : Builtin) : String := builtin.home ++ builtin.name

def ofFullName (full : String) : Builtin :=
  match [none, decimal, datetime, date, uuid, any, sequence, abstractSet].find? fun cls =>
      cls.shown = full with
  | some cls => cls
  | Option.none =>
    match Library.cut full with
    | ("", word) => (ofName? word).getD (standard word)
    | (module, word) => library module word

def fn : Builtin := .library "collections.abc" "Callable"

def primitive? : Builtin -> Option String
  | int => some "int"
  | float => some "float"
  | str => some "str"
  | bool => some "bool"
  | decimal => some "decimal"
  | datetime | date | uuid => some "str"
  | library module name =>
    if module ++ "." ++ name ∈ Library.enumerations then some "str" else Option.none
  | _ => Option.none

def isSequence : Builtin -> Bool
  | list | tuple | set | frozenset | sequence | abstractSet => true
  | _ => false

def isGeneric : Builtin -> Bool
  | dict => true
  | standard name => name ∈ Standard.generic
  | library module name => module ++ "." ++ name ∈ Library.generic
  | cls => cls.isSequence

def text : Builtin -> String
  | float => "Convert a string or number to a floating point number, if possible."
  | decimal =>
    "Construct a new Decimal object. 'value' can be an integer, string, tuple,\n" ++
    "or another Decimal object. If no value is given, return Decimal('0'). The\n" ++
    "context does not affect the conversion and is only passed to determine if\n" ++
    "the InvalidOperation trap is active."
  | uuid =>
    "Instances of the UUID class represent UUIDs as specified in RFC 4122.\n" ++
    "UUID objects are immutable, hashable, and usable as dictionary keys.\n" ++
    "Converting a UUID to a string with str() yields something in the form\n" ++
    "'12345678-1234-1234-1234-123456789abc'.  The UUID constructor accepts\n" ++
    "five possible forms: a similar string of hexadecimal digits, or a tuple\n" ++
    "of six integer fields (with 32-bit, 16-bit, 16-bit, 8-bit, 8-bit, and\n" ++
    "48-bit values respectively) as an argument named 'fields', or a string\n" ++
    "of 16 bytes (with all the integer fields in big-endian order) as an\n" ++
    "argument named 'bytes', or a string of 16 bytes (with the first three\n" ++
    "fields in little-endian order) as an argument named 'bytes_le', or a\n" ++
    "single 128-bit integer as an argument named 'int'."
  | any => "Special type indicating an unconstrained type."
  | list => "Built-in mutable sequence."
  | tuple => "Built-in immutable sequence."
  | sequence => "All the operations on a read-only sequence."
  | abstractSet => "A set is a finite, iterable container."
  | _ => ""

def description? : Builtin -> Option String
  | standard name => Standard.description? name
  | library module name => Library.text? (module ++ "." ++ name)
  | cls => some cls.text
end Builtin

inductive FormShape where
  | counted (count : Nat)
  | row
  | call
  | single
  | alone
  | union
  | optional
  | values
  | noted
  | front
  | openTypes
deriving DecidableEq

structure Form where
  name : String
  shape : FormShape
  origin? : Option Builtin := none
deriving DecidableEq

namespace Form
def ofClass (name full : String) (count : Nat) : Form where
  name := name
  shape := .counted count
  origin? := some (Builtin.ofFullName full)

def list : Form := ofClass "List" "list" 1
def classField : Form := ⟨"ClassVar", .single, none⟩
def final : Form := ⟨"Final", .single, none⟩
def annotated : Form := ⟨"Annotated", .noted, none⟩
def values : Form := ⟨"Literal", .values, none⟩
def call : Form := ⟨"Callable", .call, some Builtin.fn⟩
def unpacked : Form := ⟨"Unpack", .single, none⟩

def abstractForms : List Form := [ ofClass "AbstractSet" "collections.abc.Set" 1,
  ofClass "AsyncContextManager" "contextlib.AbstractAsyncContextManager" 1,
  ofClass "AsyncGenerator" "collections.abc.AsyncGenerator" 2,
  ofClass "AsyncIterable" "collections.abc.AsyncIterable" 1,
  ofClass "AsyncIterator" "collections.abc.AsyncIterator" 1,
  ofClass "Awaitable" "collections.abc.Awaitable" 1,
  ofClass "ByteString" "collections.abc.ByteString" 0,
  ofClass "Collection" "collections.abc.Collection" 1,
  ofClass "Container" "collections.abc.Container" 1,
  ofClass "ContextManager" "contextlib.AbstractContextManager" 1,
  ofClass "Coroutine" "collections.abc.Coroutine" 3,
  ofClass "Generator" "collections.abc.Generator" 3,
  ofClass "Hashable" "collections.abc.Hashable" 0,
  ofClass "ItemsView" "collections.abc.ItemsView" 2,
  ofClass "Iterable" "collections.abc.Iterable" 1,
  ofClass "Iterator" "collections.abc.Iterator" 1,
  ofClass "KeysView" "collections.abc.KeysView" 1,
  ofClass "Mapping" "collections.abc.Mapping" 2,
  ofClass "MappingView" "collections.abc.MappingView" 1,
  ofClass "MutableMapping" "collections.abc.MutableMapping" 2,
  ofClass "MutableSequence" "collections.abc.MutableSequence" 1,
  ofClass "MutableSet" "collections.abc.MutableSet" 1,
  ofClass "Reversible" "collections.abc.Reversible" 1,
  ofClass "Sequence" "collections.abc.Sequence" 1,
  ofClass "Sized" "collections.abc.Sized" 0,
  ofClass "ValuesView" "collections.abc.ValuesView" 1]

def containerForms : List Form := [ list, ofClass "ChainMap" "collections.ChainMap" 2,
  ofClass "Counter" "collections.Counter" 1,
  ofClass "DefaultDict" "collections.defaultdict" 2,
  ofClass "Deque" "collections.deque" 1,
  ofClass "Dict" "dict" 2,
  ofClass "FrozenSet" "frozenset" 1,
  ofClass "Match" "re.Match" 1,
  ofClass "OrderedDict" "collections.OrderedDict" 2,
  ofClass "Pattern" "re.Pattern" 1,
  ofClass "Set" "set" 1,
  ofClass "Type" "type" 1,
  ⟨"Tuple", .row, some .tuple⟩]

def specialForms : List Form := [ classField, final, values, unpacked,
  ⟨"Concatenate", .front, none⟩,
  ⟨"LiteralString", .alone, none⟩,
  ⟨"Never", .alone, none⟩,
  ⟨"NoReturn", .alone, none⟩,
  ⟨"NotRequired", .single, none⟩,
  ⟨"Optional", .optional, none⟩,
  ⟨"Required", .single, none⟩,
  ⟨"Self", .alone, none⟩,
  ⟨"TypeAlias", .alone, none⟩,
  ⟨"TypeGuard", .single, none⟩,
  ⟨"Union", .union, none⟩]

def all : List Form := call :: abstractForms ++ containerForms ++ specialForms

def ofClasses : List Form := [ annotated,
  ⟨"Generic", .openTypes, some (.library "typing" "Generic")⟩,
  ⟨"Protocol", .openTypes, some (.library "typing" "Protocol")⟩,
  ⟨"IO", .counted 1, some (.library "typing" "IO")⟩,
  ⟨"SupportsAbs", .counted 1, some (.library "typing" "SupportsAbs")⟩,
  ⟨"SupportsRound", .counted 1, some (.library "typing" "SupportsRound")⟩]

def ofLibrary? (module name : String) : Option Form :=
  if module = "typing" then ofClasses.find? fun form => form.name = name else none

def isOfField (form : Form) : Bool := form.name = classField.name || form.name = final.name

def isOfEntry (form : Form) : Bool := form.name = "Required" || form.name = "NotRequired"

def isType (form : Form) : Bool := form.origin?.isSome || form.shape = .alone

def className (form : Form) : String := match form.shape with
  | .counted _ => "_SpecialGenericAlias"
  | .row => "_TupleType"
  | .call => "_CallableType"
  | .values => "_LiteralSpecialForm"
  | _ => "_SpecialForm"

def filledName (form : Form) : String := match form.shape with
  | .call => "_CallableGenericAlias"
  | .values => "_LiteralGenericAlias"
  | .noted => "_AnnotatedAlias"
  | .front => "_ConcatenateGenericAlias"
  | .single => if form = unpacked then "_UnpackGenericAlias" else "_GenericAlias"
  | _ => "_GenericAlias"

def isSequence (form : Form) : Bool := form.origin?.any Builtin.isSequence
end Form
end RouteDocs.Class
