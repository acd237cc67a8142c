import RouteDocs.Class.Value.Format

/-! # Members of values -/

namespace RouteDocs.Class
def Standard.Members.names (members : Members) : List (MethodKind × List String) :=
  let named (text : String) := (text.splitOn " ").map fun name =>
    if name.startsWith "_" then "_" ++ name ++ "__" else name
  let ops := (members.ops.splitOn " ").filter (!·.isEmpty)
  [(.method, named members.methods), (.op, ops.map fun name => "__" ++ name ++ "__"),
    (.value, named members.values), (.place, named members.places)]

namespace Builtin
def ofStandardName (name : String) : Builtin := (ofName? name).getD (.standard name)

variable (cls : Builtin) (word : String)

def line : List Builtin := if cls.home.isEmpty then
    match Standard.lineOf Standard.lineDepth cls.name with
    | [] => [cls, object]
    | found => found.map fun entry => ofStandardName entry.1
  else cls :: (Library.lineOf cls.shown).map ofFullName ++ [object]

def isHashed : Bool := cls.line.all fun found => found ∉ [.list, .dict, .set, .standard "bytearray"]

def extends_ (cls wanted : Builtin) : Bool := cls.line.contains wanted ||
    (if wanted.shown = "collections.abc.Hashable" then cls.isHashed
    else cls.line.any fun found => Library.hasKind found.shown wanted.shown)

def method? : Option Hint :=
  let line := (cls.line.filter fun found => found.home.isEmpty).filterMap fun found =>
    (Standard.table.lookup found.name).map fun members => (found.name, members)
  line.findSome? fun (owner, members) =>
    (members.names.find? fun entry => word ∈ entry.2).map fun entry =>
      .method entry.1 (ofStandardName owner) word

def ownMethods : List (String × List String) := [
  ("int", ["from_bytes"]), ("bool", ["from_bytes"]), ("float", ["fromhex", "__getformat__"]),
  ("str", ["maketrans"]), ("bytes", ["fromhex", "maketrans"]),
  ("bytearray", ["fromhex", "maketrans"]), ("dict", ["fromkeys", "__class_getitem__"]),
  ("list", ["__class_getitem__"]), ("tuple", ["__class_getitem__"]),
  ("set", ["__class_getitem__"]), ("frozenset", ["__class_getitem__"]),
  ("enumerate", ["__class_getitem__"])]

def ownMethod? : Option Hint :=
  if word ∈ (ownMethods.lookup cls.name).getD [] then some (.bound (.builtin cls) word)
  else Option.none

def member? : Option Hint := match word with
  | "__name__" | "__qualname__" => some (Hint.words cls.name)
  | "__module__" =>
    let home := cls.home.toList
    some (if home.isEmpty then Hint.words "builtins" else Hint.words (String.ofList home.dropLast))
  | "__doc__" =>
    match cls, (cls.description?).getD "" with
    | .none, _ | .standard _, "" => some .nothing
    | _, description => some (Hint.words description)
  | "__class__" => some (.builtin type)
  | "__mro__" => some (.row (cls.line.map .builtin))
  | "__bases__" => some (.row (cls.line.tail.head?.toList.map .builtin))
  | "__base__" => some ((cls.line.tail.head?.map Hint.builtin).getD .nothing)
  | "__hash__" => if cls.isHashed then cls.method? word else some .nothing
  | "mro" | "__subclasses__" | "__new__" | "__call__" => some (.bound (.builtin cls) word)
  | _ => ((cls.ownMethod? word).or (cls.method? word)).or <|
    match type.method? word with
    | some (.method .method _ _) | some (.method .op _ _) => some (.bound (.builtin cls) word)
    | _ => Option.none
end Builtin

namespace Hint
def boundName (self : Hint) : String := match self with
  | builtin cls => cls.name
  | declared _ name => name
  | _ => self.className

def errorPart? (cls : Builtin) (args : List Hint) (word : String) : Option Hint :=
  let extends_ (name : String) : Bool :=
    (Standard.lineOf Standard.lineDepth cls.name).any fun entry => entry.1 = name
  let alone := (args.head?).getD nothing
  match word with
  | "args" => some (row args)
  | "__cause__" | "__context__" | "__traceback__" => some nothing
  | "__suppress_context__" => some (truth false)
  | "value" => if extends_ "StopIteration" then some alone else none
  | "code" =>
    if !extends_ "SystemExit" then none
    else match args with
      | [] => some nothing
      | [one] => some one
      | several => some (row several)
  | "errno" | "strerror" | "filename" | "filename2" =>
    if !extends_ "OSError" then none
    else
      let place := if word = "errno" then 0 else if word = "strerror" then 1 else 2
      if args.length < 2 || word = "filename2" then some nothing
      else some ((args[place]?).getD nothing)
  | "msg" =>
    if extends_ "ImportError" || extends_ "SyntaxError" then
      some (if args.length = 1 || extends_ "SyntaxError" then alone else nothing)
    else none
  | "name" =>
    if extends_ "NameError" || extends_ "AttributeError" || extends_ "ImportError" then
      some nothing
    else none
  | "obj" => if extends_ "AttributeError" then some nothing else none
  | "path" => if extends_ "ImportError" then some nothing else none
  | _ => none

def valuePart? (word : String) : Hint -> Option Hint
  | complex first second =>
    match word with
    | "real" => some (real first)
    | "imag" => some (real second)
    | _ => none
  | real value =>
    match word with
    | "real" => some (real value)
    | "imag" => some (real (.zero false))
    | _ => none
  | slice start stop step =>
    match word with
    | "start" => some start
    | "stop" => some stop
    | "step" => some step
    | _ => none
  | range start stop step =>
    match word with
    | "start" => some (int start)
    | "stop" => some (int stop)
    | "step" => some (int step)
    | _ => none
  | routine name =>
    match word with
    | "__name__" | "__qualname__" => some (words (Library.cut name).2)
    | "__module__" =>
      let home := (Library.cut name).1
      some (words (if home.isEmpty then "builtins" else home))
    | _ => none
  | method _ owner name =>
    match word with
    | "__name__" => some (words name)
    | "__qualname__" => some (words (owner.name ++ "." ++ name))
    | "__objclass__" => some (builtin owner)
    | _ => none
  | cell (.stream "generator") _ =>
    if word = "__name__" || word = "__qualname__" then some (words "<genexpr>") else none
  | bound self name =>
    match word with
    | "__name__" => some (words name)
    | "__qualname__" => some (words (self.boundName ++ "." ++ name))
    | "__self__" => some self
    | "__module__" => some nothing
    | _ => none
  | const _ name value =>
    match word with
    | "name" | "_name_" => some (words name)
    | "value" | "_value_" => some value
    | _ => none
  | view _ table => if word = "mapping" then some (proxy table) else none
  | error cls _ args => errorPart? cls args word
  | fn _ name =>
    match word with
    | "__name__" | "__qualname__" => some (words name)
    | "__annotations__" | "__dict__" => some (dict [])
    | "__doc__" | "__kwdefaults__" | "__closure__" | "__module__" => some nothing
    | _ => none
  | hint =>
    match hint.int?, word with
    | some n, "real" | some n, "numerator" => some (int n)
    | some _, "imag" => some (int 0)
    | some _, "denominator" => some (int 1)
    | _, _ => none

def valueMember? (word : String) (hint : Hint) : Option Hint :=
  if word = "__class__" then some hint.classHint
  else if word = "__doc__" || word = "__hash__" && !hint.classOf.isHashed then
    hint.classOf.member? word
  else ((hint.valuePart? word).or (hint.classOf.ownMethod? word)).or <|
    match hint.classOf.method? word with
    | some (method .method _ _) | some (method .op _ _) => some (bound hint word)
    | found? => found?

def originMember? (origin? : Option Builtin) (word : String) : Option Hint :=
  if word.startsWith "__" && word.endsWith "__" then none
  else origin?.bind fun origin => origin.member? word

def aloneMember? (form : Form) (word : String) : Option Hint := match word with
  | "__origin__" => form.origin?.map builtin
  | "__name__" | "__qualname__" | "_name" => some (words form.name)
  | "__module__" => some (words "typing")
  | "__class__" => some (builtin (.library "typing" form.className))
  | _ => originMember? form.origin? word

def originHint (form : Form) (args : List Hint) : Hint := match form.origin? with
  | some origin => builtin origin
  | none =>
    if form = Form.annotated then (args.head?).getD nothing else Hint.form form

def filledMember? (form : Form) (args : List Hint) (word : String) : Option Hint :=
  let isNoted := form = Form.annotated
  match word with
  | "__origin__" => some (originHint form args)
  | "__args__" => some (row (if isNoted then args.take 1 else args))
  | "__metadata__" => if isNoted then some (row (args.drop 1)) else none
  | "__parameters__" => some (row (distinct [] (openTypesIn args)))
  | "__class__" => some (builtin (.library "typing" form.filledName))
  | "_name" => some (if form.shape = .values then nothing else words form.name)
  | "__name__" | "__qualname__" | "__module__" => aloneMember? form word
  | _ => originMember? form.origin? word

def member? (declared? : Nat -> String -> Option Hint) (word : String) : Hint -> Option Hint
  | declared number _ => (declared? number word).or (Builtin.object.member? word)
  | builtin cls => cls.member? word
  | generic cls args =>
    match word with
    | "__origin__" => some (builtin cls)
    | "__args__" => some (row args)
    | "__class__" => some (builtin (.standard "GenericAlias"))
    | _ => cls.member? word
  | union members =>
    match word with
    | "__origin__" => some (form ⟨"Union", .union, Option.none⟩)
    | "__args__" => some (row members)
    | "__parameters__" => some (row (distinct [] (openTypesIn members)))
    | "__module__" => some (words "typing")
    | "__name__" | "__qualname__" =>
      some (words (if members.length = 2 && members.any isNone then "Optional" else "Union"))
    | "__class__" => some (builtin (Hint.union members).classOf)
    | _ => none
  | classField inner => filledMember? Form.classField [inner] word
  | bars members =>
    match word with
    | "__args__" => some (row members)
    | "__parameters__" => some (row (distinct [] (openTypesIn members)))
    | "__module__" => some (words "types")
    | _ => (Hint.bars members).valueMember? word
  | form given => aloneMember? given word
  | formOf given args => filledMember? given args word
  | hint => hint.valueMember? word
end Hint
end RouteDocs.Class
