/-! # Standard classes and their members -/

namespace RouteDocs.Class.Standard
/-- What a class has.  A word with a bar in front has two of them on both sides. -/
structure Members where
  base : String := "object"
  methods : String := ""
  ops : String := ""
  values : String := ""
  places : String := ""

def textMethods : String :=
  "capitalize center count endswith expandtabs find index isalnum isalpha isascii isdigit " ++
  "islower isspace istitle isupper join ljust lower lstrip partition removeprefix removesuffix " ++
  "replace rfind rindex rjust rpartition rsplit rstrip split splitlines startswith strip " ++
  "swapcase title translate upper zfill"

def compared : String := "eq ge getattribute gt le lt ne repr"
def sequential : String := compared ++ " add contains getitem iter len mul rmul"
def grouped : String := compared ++ " and iter len or rand ror rsub rxor sub xor"

def numeric : String :=
  compared ++ " abs add bool hash mul neg pos pow radd rmul rpow rsub rtruediv sub truediv"

def members : List (String × Members) := [ ("object", {
    base := "", methods := "_dir _format _getstate _reduce _reduce_ex _sizeof"
    ops := compared ++ " delattr hash init setattr str"
    values := "_class" }),
  ("type", {
    methods := "_dir _instancecheck _sizeof _subclasscheck _subclasses mro"
    ops := "call delattr getattribute init or repr ror setattr"
    values := "_abstractmethods _annotations _bases _dict _doc _module " ++
      "_name _qualname _text_signature"
    places := "_base _basicsize _dictoffset _flags _itemsize _mro " ++
      "_weakrefoffset" }),
  ("int", {
    methods := "_ceil _floor _format _getnewargs _round _sizeof _trunc " ++
      "as_integer_ratio bit_count bit_length conjugate to_bytes"
    ops := numeric ++ " and divmod float floordiv index int invert lshift mod or rand rdivmod " ++
      "rfloordiv rlshift rmod ror rrshift rshift rxor xor"
    values := "denominator imag numerator real" }),
  ("float", {
    methods := "_ceil _floor _format _getnewargs _round _trunc " ++
      "as_integer_ratio conjugate hex is_integer"
    ops := numeric ++ " divmod float floordiv int mod rdivmod rfloordiv rmod"
    values := "imag real" }),
  ("str", {
    methods := textMethods ++ " _format _getnewargs _sizeof casefold encode format " ++
      "format_map isdecimal isidentifier isnumeric isprintable"
    ops := sequential ++ " hash mod rmod str" }),
  ("bool", { base := "int", ops := "and or rand repr ror rxor xor" }),
  ("dict", {
    methods := "_contains _getitem _reversed _sizeof clear copy get items keys pop " ++
      "popitem setdefault update values"
    ops := compared ++ " delitem init ior iter len or ror setitem" }),
  ("bytes", {
    methods := textMethods ++ " _bytes _getnewargs decode hex"
    ops := sequential ++ " hash mod rmod str" }),
  ("list", {
    methods := "_getitem _reversed _sizeof append clear copy count extend index insert " ++
      "pop remove reverse sort"
    ops := compared ++ " add contains delitem iadd imul init iter len mul rmul setitem" }),
  ("tuple", {
    methods := "_getnewargs count index"
    ops := sequential ++ " hash" }),
  ("set", {
    methods := "_contains _reduce _sizeof add clear copy difference difference_update " ++
      "discard intersection intersection_update isdisjoint issubset issuperset pop remove " ++
      "symmetric_difference symmetric_difference_update union update"
    ops := grouped ++ " iand init ior isub ixor" }),
  ("frozenset", {
    methods := "_contains _reduce _sizeof copy difference intersection isdisjoint " ++
      "issubset issuperset symmetric_difference union"
    ops := grouped ++ " hash" }),
  ("AttributeError", { base := "Exception", ops := "init str", places := "name obj" }),
  ("BaseException", {
    methods := "_reduce _setstate add_note with_traceback"
    ops := "delattr getattribute init repr setattr str"
    values := "_cause _context _dict _traceback args"
    places := "_suppress_context" }),
  ("BaseExceptionGroup", {
    base := "BaseException", methods := "derive split subgroup", ops := "init str"
    places := "exceptions message" }),
  ("ExceptionGroup", { base := "BaseExceptionGroup", values := "_weakref" }),
  ("ImportError", {
    base := "Exception", methods := "_reduce", ops := "init str"
    places := "msg name path" }),
  ("KeyError", { base := "LookupError", ops := "init str" }),
  ("NameError", { base := "Exception", ops := "init str", places := "name" }),
  ("OSError", {
    base := "Exception", methods := "_reduce", ops := "init str"
    values := "characters_written", places := "errno filename filename2 strerror" }),
  ("StopIteration", { base := "Exception", ops := "init", places := "value" }),
  ("SyntaxError", {
    base := "Exception", ops := "init str"
    places := "end_lineno end_offset filename lineno msg offset print_file_and_line text" }),
  ("SystemExit", { base := "BaseException", ops := "init", places := "code" }),
  ("UnicodeDecodeError UnicodeEncodeError UnicodeTranslateError", {
    base := "UnicodeError", ops := "init str"
    places := "encoding end object reason start" }),
  ("bytearray", {
    methods := textMethods ++ " _alloc _reduce _reduce_ex _sizeof append clear copy " ++
      "decode extend hex insert pop remove reverse"
    ops := sequential ++ " delitem iadd imul init mod rmod setitem str" }),
  ("classmethod", {
    ops := "get init repr", values := "_dict _isabstractmethod"
    places := "_func _wrapped" }),
  ("complex", {
    methods := "_complex _format _getnewargs conjugate"
    ops := numeric
    places := "imag real" }),
  ("enumerate filter map callable_iterator", {
    methods := "_reduce", ops := "getattribute iter next" }),
  ("memoryview", {
    methods := "_enter _exit cast hex release tobytes tolist toreadonly"
    ops := compared ++ " delitem getitem hash iter len setitem"
    values := "c_contiguous contiguous f_contiguous format itemsize nbytes ndim obj readonly " ++
      "shape strides suboffsets" }),
  ("range", {
    methods := "_reduce _reversed count index"
    ops := compared ++ " bool contains getitem hash iter len"
    places := "start step stop" }),
  ("reversed list_iterator tuple_iterator str_ascii_iterator bytes_iterator bytearray_iterator " ++
    "range_iterator longrange_iterator list_reverseiterator", {
    methods := "_length_hint _reduce _setstate", ops := "getattribute iter next" }),
  ("slice", {
    methods := "_reduce indices", ops := compared
    places := "start step stop" }),
  ("staticmethod", {
    ops := "call get init repr", values := "_dict _isabstractmethod"
    places := "_func _wrapped" }),
  ("super", {
    ops := "get getattribute init repr", places := "_self _self_class _thisclass" }),
  ("zip", { methods := "_reduce _setstate", ops := "getattribute iter next" }),
  ("property", {
    methods := "_set_name deleter getter setter", ops := "delete get getattribute init set"
    values := "_isabstractmethod", places := "_doc fdel fget fset" }),
  ("NoneType", { ops := "bool repr" }),
  ("ellipsis", { methods := "_reduce", ops := "getattribute repr" }),
  ("NotImplementedType", { methods := "_reduce", ops := "bool repr" }),
  ("generator", {
    methods := "_sizeof close send throw", ops := "del getattribute iter next repr"
    values := "_name _qualname gi_frame gi_running gi_suspended gi_yieldfrom"
    places := "gi_code" }),
  ("set_iterator dict_keyiterator dict_valueiterator dict_itemiterator", {
    methods := "_length_hint _reduce", ops := "getattribute iter next" }),
  ("dict_reversekeyiterator dict_reversevalueiterator dict_reverseitemiterator", {
    methods := "_length_hint _reduce", ops := "iter next" }),
  ("dict_keys dict_items", {
    methods := "_reversed isdisjoint"
    ops := grouped ++ " contains"
    values := "mapping" }),
  ("dict_values", {
    methods := "_reversed", ops := "getattribute iter len repr", values := "mapping" }),
  ("mappingproxy", {
    methods := "_reversed copy get items keys values"
    ops := compared ++ " contains getitem ior iter len or ror str" }),
  ("function", {
    ops := "call get repr"
    values := "_annotations _code _defaults _dict _kwdefaults _name _qualname"
    places := "_builtins _closure _doc _globals _module" }),
  ("builtin_function_or_method", {
    methods := "_reduce", ops := compared ++ " call hash"
    values := "_doc _name _qualname _self _text_signature"
    places := "_module" }),
  ("method_descriptor wrapper_descriptor", {
    methods := "_reduce", ops := "call get getattribute repr"
    values := "_doc _qualname _text_signature", places := "_name _objclass" }),
  ("getset_descriptor", {
    ops := "delete get getattribute repr set", values := "_doc _qualname"
    places := "_name _objclass" }),
  ("member_descriptor", {
    methods := "_reduce", ops := "delete get getattribute repr set"
    values := "_doc _qualname", places := "_name _objclass" }),
  ("method-wrapper", {
    methods := "_reduce", ops := compared ++ " call hash"
    values := "_doc _name _objclass _qualname _text_signature"
    places := "_self" }),
  ("GenericAlias", {
    methods := "_dir _instancecheck _mro_entries _reduce _subclasscheck"
    ops := compared ++ " call getitem hash iter or ror"
    values := "_parameters _typing_unpacked_tuple_args"
    places := "_args _origin _unpacked" }),
  ("UnionType", {
    ops := compared ++ " getitem hash or ror"
    values := "_parameters", places := "_args" })]

def plainErrors : List (String × String) := [
  ("Exception", "ArithmeticError AssertionError BufferError EOFError LookupError MemoryError " ++
    "ReferenceError RuntimeError StopAsyncIteration TypeError ValueError Warning"),
  ("OSError", "BlockingIOError ChildProcessError ConnectionError FileExistsError " ++
    "FileNotFoundError InterruptedError IsADirectoryError NotADirectoryError PermissionError " ++
    "ProcessLookupError TimeoutError"),
  ("ConnectionError", "BrokenPipeError ConnectionAbortedError ConnectionRefusedError " ++
    "ConnectionResetError"),
  ("Warning", "BytesWarning DeprecationWarning EncodingWarning FutureWarning ImportWarning " ++
    "PendingDeprecationWarning ResourceWarning RuntimeWarning SyntaxWarning UnicodeWarning " ++
    "UserWarning"),
  ("BaseException", "Exception GeneratorExit KeyboardInterrupt"),
  ("ArithmeticError", "FloatingPointError OverflowError ZeroDivisionError"),
  ("SyntaxError", "IndentationError"),
  ("LookupError", "IndexError"),
  ("ImportError", "ModuleNotFoundError"),
  ("RuntimeError", "NotImplementedError RecursionError"),
  ("IndentationError", "TabError"),
  ("NameError", "UnboundLocalError"),
  ("ValueError", "UnicodeError")]

def table : List (String × Members) :=
  let errors : List (String × Members) := plainErrors.map fun (base, names) =>
    (names, { base, ops := "init" })
  (members ++ errors).flatMap fun (names, found) => (names.splitOn " ").map (·, found)

/-- A class and what it extends, nearest first. `depth` bounds how many there are. -/
def lineOf : (depth : Nat) -> (name : String) -> List (String × Members)
  | 0, _ => []
  | depth + 1, name =>
    match table.lookup name with
    | some found => (name, found) :: lineOf depth found.base
    | none => []

def lineDepth : Nat := 8

def isError (name : String) : Bool :=
  (lineOf lineDepth name).any fun entry => entry.1 = "BaseException"
end RouteDocs.Class.Standard

namespace RouteDocs.Class

/-- Lines of a name, a colon and a text that may go on below, with bars for its breaks. -/
def pairs (table : String) : List (String × String) :=
  let lines := (table.replace "\n    " " ").splitOn "\n  "
  (lines.drop 1).map fun line => match line.splitOn ": " with
    | [] => (line, "")
    | name :: text => (name, (": ".intercalate text).replace "|" "\n")

namespace Standard
def classes : List (String × String) := pairs "
  ArithmeticError: Base class for arithmetic errors.
  AssertionError: Assertion failed.
  AttributeError: Attribute not found.
  BaseException: Common base class for all exceptions
  BaseExceptionGroup: A combination of multiple unrelated exceptions.
  BlockingIOError: I/O operation would block.
  BrokenPipeError: Broken pipe.
  BufferError: Buffer error.
  BytesWarning: Base class for warnings about bytes and buffer related problems, mostly|related to
    conversion from str or comparing to str.
  ChildProcessError: Child process error.
  ConnectionAbortedError: Connection aborted.
  ConnectionError: Connection error.
  ConnectionRefusedError: Connection refused.
  ConnectionResetError: Connection reset.
  DeprecationWarning: Base class for warnings about deprecated features.
  EOFError: Read beyond end of file.
  EncodingWarning: Base class for warnings about encodings.
  Exception: Common base class for all non-exit exceptions.
  ExceptionGroup
  FileExistsError: File already exists.
  FileNotFoundError: File not found.
  FloatingPointError: Floating point operation failed.
  FutureWarning: Base class for warnings about constructs that will change semantically|in the
    future.
  GeneratorExit: Request that a generator exit.
  ImportError: Import can't find module, or can't find name in module.
  ImportWarning: Base class for warnings about probable mistakes in module imports
  IndentationError: Improper indentation.
  IndexError: Sequence index out of range.
  InterruptedError: Interrupted by signal.
  IsADirectoryError: Operation doesn't work on directories.
  KeyError: Mapping key not found.
  KeyboardInterrupt: Program interrupted by user.
  LookupError: Base class for lookup errors.
  MemoryError: Out of memory.
  ModuleNotFoundError: Module not found.
  NameError: Name not found globally.
  NotADirectoryError: Operation only works on directories.
  NotImplementedError: Method or function hasn't been implemented yet.
  OSError: Base class for I/O related errors.
  OverflowError: Result too large to be represented.
  PendingDeprecationWarning: Base class for warnings about features which will be deprecated|in the
    future.
  PermissionError: Not enough permissions.
  ProcessLookupError: Process not found.
  RecursionError: Recursion limit exceeded.
  ReferenceError: Weak ref proxy used after referent went away.
  ResourceWarning: Base class for warnings about resource usage.
  RuntimeError: Unspecified run-time error.
  RuntimeWarning: Base class for warnings about dubious runtime behavior.
  StopAsyncIteration: Signal the end from iterator.__anext__().
  StopIteration: Signal the end from iterator.__next__().
  SyntaxError: Invalid syntax.
  SyntaxWarning: Base class for warnings about dubious syntax.
  SystemExit: Request to exit from the interpreter.
  TabError: Improper mixture of spaces and tabs.
  TimeoutError: Timeout expired.
  TypeError: Inappropriate argument type.
  UnboundLocalError: Local name referenced but not bound to a value.
  UnicodeDecodeError: Unicode decoding error.
  UnicodeEncodeError: Unicode encoding error.
  UnicodeError: Unicode related error.
  UnicodeTranslateError: Unicode translation error.
  UnicodeWarning: Base class for warnings about Unicode related problems, mostly|related to
    conversion problems.
  UserWarning: Base class for warnings generated by user code.
  ValueError: Inappropriate argument value (of correct type).
  Warning: Base class for warning categories.
  ZeroDivisionError: Second argument to a division or modulo operation was zero.
  bytearray
  classmethod
  complex: Create a complex number from a real part and an optional imaginary part.
  enumerate: Return an enumerate object.
  filter
  map
  memoryview: Create a new memoryview object which references the given object.
  object: The base class of the class hierarchy.
  range
  reversed: Return a reverse iterator over the values of the given sequence.
  slice
  staticmethod
  super
  zip"

def synonyms : List (String × String) := [("EnvironmentError", "OSError"), ("IOError", "OSError")]
def generic : List String := ["BaseExceptionGroup", "ExceptionGroup", "enumerate", "type"]

def routines : List String :=
  ("abs aiter all anext any ascii bin breakpoint callable chr compile delattr dir divmod eval " ++
  "exec format getattr globals hasattr hash hex id input isinstance issubclass iter len locals " ++
  "max min next oct open ord pow print repr round setattr sorted sum vars").splitOn " "

def unsigned : List String := "breakpoint dir getattr iter max min next vars".splitOn " "

def quiet : List String :=
  ("NotImplementedType async_generator bytearray_iterator bytes_iterator callable_iterator " ++
  "coroutine dict_itemiterator dict_items dict_keyiterator dict_keys dict_reverseitemiterator " ++
  "dict_reversekeyiterator dict_reversevalueiterator dict_valueiterator dict_values ellipsis " ++
  "frame generator list_iterator list_reverseiterator longrange_iterator mappingproxy " ++
  "range_iterator set_iterator str_ascii_iterator str_iterator tuple_iterator").splitOn " "

def nameless : List (String × String) := pairs "
  GenericAlias: Represent a PEP 585 generic type
  UnionType: Represent a PEP 604 union type
  cell: Create a new cell object.
  code: Create a code object.  Not for the faint of heart.
  module: Create a module object.
  traceback: TracebackType(tb_next, tb_frame, tb_lasti, tb_lineno)|--" ++
  quiet.map (·, "")

def ofName? (word : String) : Option String :=
  let name := (synonyms.lookup word).getD word
  if name ∈ ["property", "type"] || classes.any fun entry => entry.1 == name then some name
  else none

def description? (name : String) : Option String := (classes.lookup name).or (nameless.lookup name)
end Standard
end RouteDocs.Class
