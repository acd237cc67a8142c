import RouteDocs.Class.Member

/-! # Modules -/

namespace RouteDocs.Class.Module
def others : List String := (
  "aifc argparse array ast asynchat asyncio asyncore atexit audioop base64 bdb binascii " ++
  "bisect bz2 cProfile calendar cgi cgitb chunk cmath cmd code codecs codeop colorsys " ++
  "compileall concurrent configparser contextvars copyreg crypt csv ctypes curses dbm " ++
  "difflib dis doctest email encodings errno faulthandler fcntl filecmp fileinput fnmatch " ++
  "ftplib gc getopt getpass gettext glob graphlib grp gzip hashlib heapq hmac html imaplib " ++
  "imghdr imp importlib inspect ipaddress keyword linecache locale logging lzma mailbox " ++
  "mailcap marshal mimetypes mmap modulefinder multiprocessing netrc nntplib optparse " ++
  "ossaudiodev pdb pickle pickletools pipes pkgutil platform plistlib poplib posix " ++
  "posixpath pprint profile pstats pty pwd py_compile pyclbr pydoc queue quopri random " ++
  "readline reprlib resource rlcompleter runpy sched secrets select selectors shelve shlex " ++
  "shutil signal site smtpd smtplib sndhdr socket socketserver spwd sqlite3 ssl stat " ++
  "statistics stringprep struct subprocess sunau symtable sysconfig syslog tabnanny tarfile " ++
  "telnetlib tempfile termios textwrap threading timeit token tokenize tomllib trace " ++
  "traceback tracemalloc tty unicodedata unittest urllib uu warnings wave weakref " ++
  "webbrowser wsgiref xdrlib xml xmlrpc zipapp zipfile zipimport zlib zoneinfo os.path " ++
  "importlib.abc importlib.util json.decoder json.encoder concurrent.futures unittest.mock " ++
  "urllib.parse urllib.request xml.etree xml.etree.ElementTree pydantic yaml click " ++
  "typing_extensions apidoc_compiler").splitOn " "

def names : List String := Hint.declaredHome :: "builtins" :: Library.modules ++ others
def moduleClass : Hint := .builtin (.standard "module")
def builtIn : List String := ["builtins", "itertools", "sys", "time"]

def text (name : String) : String := if name ∈ builtIn then "<module '" ++ name ++ "' (built-in)>"
  else if name ∈ ["abc", "io", "os"] then "<module '" ++ name ++ "' (frozen)>"
  else "<module '" ++ name ++ "'>"

def firstNumber : Nat := 20

def ofName? (name : String) : Option Hint :=
  (names.findIdx? fun known => known = name).map fun place =>
    .inst moduleClass (firstNumber + place) (text name)

def nameOf? (number : Nat) : Option String := names[number - firstNumber]?
def letters : String := "abcdefghijklmnopqrstuvwxyzABCDEFGHIJKLMNOPQRSTUVWXYZ"

def punctuation : String := "!\"#$%&'()*+,-./:;<=>?@[\\]^_`\x7b|\x7d~"
def blanks : String := " \t\n\r\x0b\x0c"

def values : List (String × NamedHints) := [ ("datetime", [
    ("MAXYEAR", .int 9999), ("MINYEAR", .int 1)]),
  ("decimal", [ ("HAVE_CONTEXTVAR", .truth true), ("HAVE_THREADS", .truth true),
    ("MAX_EMAX", .int 999999999999999999), ("MAX_PREC", .int 999999999999999999),
    ("MIN_EMIN", .int (-999999999999999999)), ("MIN_ETINY", .int (-1999999999999999997)),
    ("ROUND_05UP", .words "ROUND_05UP"), ("ROUND_CEILING", .words "ROUND_CEILING"),
    ("ROUND_DOWN", .words "ROUND_DOWN"), ("ROUND_FLOOR", .words "ROUND_FLOOR"),
    ("ROUND_HALF_DOWN", .words "ROUND_HALF_DOWN"),
    ("ROUND_HALF_EVEN", .words "ROUND_HALF_EVEN"), ("ROUND_HALF_UP", .words "ROUND_HALF_UP"),
    ("ROUND_UP", .words "ROUND_UP")]),
  ("os", [ ("curdir", .words "."), ("defpath", .words "/bin:/usr/bin"),
    ("devnull", .words "/dev/null"), ("extsep", .words "."), ("linesep", .words "\n"),
    ("name", .words "posix"), ("pardir", .words ".."), ("pathsep", .words ":"),
    ("sep", .words "/")]),
  ("string", [ ("ascii_letters", .words letters),
    ("ascii_lowercase", .words "abcdefghijklmnopqrstuvwxyz"),
    ("ascii_uppercase", .words "ABCDEFGHIJKLMNOPQRSTUVWXYZ"), ("digits", .words "0123456789"),
    ("hexdigits", .words "0123456789abcdefABCDEF"), ("octdigits", .words "01234567"),
    ("printable", .words ("0123456789" ++ letters ++ punctuation ++ blanks)),
    ("punctuation", .words punctuation), ("whitespace", .words blanks)]),
  ("sys", [ ("api_version", .int 1013), ("byteorder", .words "little"),
    ("dont_write_bytecode", .truth false), ("float_repr_style", .words "short"),
    ("maxsize", .int 9223372036854775807), ("maxunicode", .int 1114111),
    ("platform", .words "linux")]),
  ("typing", [ ("TYPE_CHECKING", .truth false)]),
  ("uuid", [ ("RESERVED_FUTURE", .words "reserved for future definition"),
    ("RESERVED_MICROSOFT", .words "reserved for Microsoft compatibility"),
    ("RESERVED_NCS", .words "reserved for NCS compatibility"),
    ("RFC_4122", .words "specified in RFC 4122")])]

def realOf (text : String) : Hint := match Expr.read text with
  | .ok (.literal (.real value)) => .real value
  | _ => .nothing

def numbers : List (String × NamedHints) := [ ("math", [
    ("e", realOf "2.718281828459045"), ("inf", realOf "1e999"), ("nan", .real .undefined),
    ("pi", realOf "3.141592653589793"), ("tau", realOf "6.283185307179586")])]

def openTypes : NamedHints :=
  let shown := [("T", "~T"), ("KT", "~KT"), ("VT", "~VT"), ("T_co", "+T_co"), ("V_co", "+V_co"),
    ("VT_co", "+VT_co"), ("T_contra", "-T_contra"), ("CT_co", "+CT_co"), ("AnyStr", "~AnyStr")]
  shown.zipIdx.map fun ((name, text), place) => (name, .leftOpen text place)

def formMember? (word : String) : Option Hint :=
  ((Form.all.find? fun form => form.name = word).map .form).or (openTypes.lookup word)

def plainName? (word : String) : Option String := if word.startsWith "__" && word.endsWith "__" then
    let inner := String.ofList ((word.toList.drop 2).dropLast.dropLast)
    if (Library.routine? "operator" inner).isSome then some inner
    else if (Library.routine? "operator" (inner ++ "_")).isSome then some (inner ++ "_")
    else none
  else none

def member? (module word : String) : Option Hint :=
  if word = "__name__" then some (Hint.words module)
  else
    let given (table : List (String × NamedHints)) : Option Hint :=
      ((table.lookup module).getD []).lookup word
    (if module = "typing" then formMember? word else none) <|>
    ((Library.find? module word).map fun full => .builtin (.ofFullName full)) <|>
    given values <|> given numbers <|>
    ((Library.routine? module word).map .routine) <|>
    (if module = "operator" then
      (plainName? word >>= Library.routine? module).map .routine
    else none) <|>
    ofName? (module ++ "." ++ word)
end RouteDocs.Class.Module

namespace RouteDocs
namespace Class
inductive Attr where
  | given (value : Hint)
  | factory
  | required
  | hidden
  | place (shown : String)

structure RecordField where
  hint : Hint
  isOfClass : Bool
  hasDefault : Bool

structure ModelField where
  hint : Hint
  isRequired : Bool
  isResolved : Bool
end Class

structure Class where
  number : Nat
  name : String
  title? : Option String := none
  style : Class.Style := .plain
  doc? : Option String := none
  isErrorUnion : Bool := false
  bases : List Nat := []
  foreign : List Class.Builtin := []
  ancestors : List Nat := []
  constants : List (String × Class.Hint) := []
  notes : OrderedMap String Class.Hint := .empty
  attrs : OrderedMap String Class.Attr := .empty
  isHomeless : Bool := false
  places? : Option (List String) := none
  isModel : Bool := false
  recordFields? : Option (OrderedMap String Class.RecordField) := none
  modelFields : OrderedMap String Class.ModelField := .empty
  classFields : List String := []
  isComplete : Bool := true

namespace Class
structure Scope where
  classes : List Class := []
  names : OrderedMap String Nat := .empty
  made : List Class := []

def Attr.value : Attr -> Hint
  | given value => value
  | factory => .inst (.builtin .object) 1 "Field"
  | required => .dots
  | hidden => .inst (.builtin .object) 2 "ModelPrivateAttr"
  | place shown => .inst (.builtin (.standard "member_descriptor")) 8 shown

def modelAttributes : List String := [
  "construct", "copy", "dict", "from_orm", "json", "model_computed_fields", "model_config",
  "model_construct", "model_copy", "model_dump", "model_dump_json", "model_extra",
  "model_fields", "model_fields_set", "model_json_schema", "model_parametrized_name",
  "model_post_init", "model_rebuild", "model_validate", "model_validate_json",
  "model_validate_strings", "parse_file", "parse_obj", "parse_raw", "register", "schema",
  "schema_json", "update_forward_refs", "validate"]

def notesName : String := "__annotations__"

variable (cls : Class)

def noteTable : Hint := match cls.attrs.get? notesName with
  | some found => found.value
  | none => .dict (cls.notes.entries.map fun (name, hint) => (Hint.words name, hint))

def docValue : Hint := match cls.attrs.get? "__doc__" with
  | some found => found.value
  | none => (cls.doc?.map Hint.words).getD .nothing

def homeValue : Hint :=
  ((cls.attrs.get? "__module__").map Attr.value).getD (Hint.words Hint.declaredHome)

def fullName : String :=
  let title := cls.title?.getD cls.name
  match cls.homeValue with
  | .text pieces =>
    let home := Text.escapedText pieces
    if cls.isHomeless || home = "builtins" then title else home ++ "." ++ title
  | _ => title

def hint : Hint := .declared cls.number (if cls.number < madeBase then cls.name else cls.fullName)

def instancePart (name : String) (number : Nat) : Hint :=
  .inst (.builtin (.standard "getset_descriptor")) number
    ("<attribute '" ++ name ++ "' of '" ++ cls.name ++ "' objects>")

def commonAttribute? (name : String) : Option Attr :=
  if name = "mro" then some (.given (.bound cls.hint name))
  else if cls.isModel && name ∈ modelAttributes then some (.given (.routine name))
  else none

def commonEntries : NamedHints :=
  [("__module__", Hint.words Hint.declaredHome), ("__annotations__", cls.noteTable),
    ("__doc__", cls.docValue)] ++
  (if cls.bases.isEmpty && cls.places?.isNone then
    [("__dict__", cls.instancePart "__dict__" 6), ("__weakref__", cls.instancePart "__weakref__" 7)]
  else [])

def ownEntries : NamedHints :=
  let given := cls.attrs.entries.map fun (name, found) => (name, found.value)
  given ++ cls.commonEntries.filter fun entry => (given.lookup entry.1).isNone

def answeredNames : List String := [ "__annotations__", "__base__", "__bases__", "__basicsize__",
  "__class__", "__dict__", "__dictoffset__", "__flags__", "__itemsize__", "__mro__", "__name__",
  "__qualname__", "__text_signature__", "__weakrefoffset__"]

def unsharedNames : List String := ["__abstractmethods__", "__doc__", "__module__"]

def homeNames : NamedHints := [
  ("__name__", Hint.words Hint.declaredHome), ("__doc__", .nothing), ("__package__", .nothing),
  ("__loader__", .nothing), ("__spec__", .nothing)]

namespace Scope
variable (scope : Scope) (cls : Class) (name : String) (number : Nat)

def get? : Option Class :=
  if number < madeBase then scope.classes[number]? else scope.made[number - madeBase]?

def add : Scope := { scope with classes := scope.classes ++ [cls] }
def class? : Option Hint := (scope.names.get? name >>= scope.get?).map hint
def named? : Option Hint := (scope.class? name).or (homeNames.lookup name)
def line : List Class := cls :: cls.ancestors.filterMap scope.get?

def attribute? : Option Attr := if name ∈ answeredNames then none
  else if name ∈ unsharedNames then cls.attrs.get? name
  else
    let found := (scope.line cls).filterMap fun ancestor => ancestor.attrs.get? name
    (found.find? fun entry => !(entry matches .hidden)).or
      ((cls.commonAttribute? name).or found.head?)

def listed (numbers : List Nat) : List Hint :=
  (numbers.filterMap scope.get?).map hint ++ [.builtin .object]

def knowledge? : Option Hint := match name with
  | "__name__" => some (Hint.words cls.name)
  | "__qualname__" => some (Hint.words (cls.title?.getD cls.name))
  | "__module__" => if cls.isHomeless then none else some cls.homeValue
  | "__doc__" => some cls.docValue
  | "__annotations__" => some cls.noteTable
  | "__class__" => some (.builtin .type)
  | "__mro__" => some (.row (cls.hint :: scope.listed cls.ancestors))
  | "__bases__" =>
    some (.row (if cls.bases.isEmpty && cls.foreign.isEmpty then [.builtin .object]
      else (cls.bases.filterMap scope.get?).map hint ++ cls.foreign.map .builtin))
  | "__base__" => ((cls.foreign.head?.map Hint.builtin).or (scope.listed cls.bases).head?)
  | _ => none

def member? (name : String) : Option Hint := scope.get? number >>= fun cls =>
    ((scope.attribute? cls name).map Attr.value).or (scope.knowledge? cls name)

def ancestorsOf : List Nat := ((scope.get? number).map Class.ancestors).getD []

def foreignLine : List Builtin :=
  ((scope.get? number).toList.flatMap scope.line).flatMap fun cls =>
    cls.foreign.flatMap Builtin.line

def isEnum : Bool := (scope.line cls).any fun ancestor => ancestor.style = .enumeration

def recordFields? (scope : Scope) (cls : Class) : Option (OrderedMap String RecordField) :=
  (scope.line cls).findSome? Class.recordFields?
end Scope
end Class
end RouteDocs
