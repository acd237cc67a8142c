import RouteDocs.Class.Standard

/-! # Classes of modules -/

namespace RouteDocs.Class.Library
def fullNames (words : String) : List String :=
  let step := fun (home, found) word =>
    if word = "." then ("", found)
    else if word.endsWith "." then (word, found)
    else (home, found ++ [home ++ word])
  ((words.splitOn " ").foldl step ("", [])).2

def texts : List (String × List (String × String)) := [
  ("_io", pairs "
  BufferedRWPair: A buffered reader and writer object together.
  BufferedRandom: A buffered interface to random access streams.
  BufferedReader: Create a new buffered reader using the given readable raw IO object.
  BufferedWriter: A buffer for a writeable sequential RawIO object.
  BytesIO: Buffered I/O implementation using an in-memory bytes buffer.
  FileIO: Open a file.
  IncrementalNewlineDecoder: Codec used when reading a file in universal newlines mode.
  StringIO: Text I/O implementation using an in-memory buffer.
  TextIOWrapper: Character and line based layer over a BufferedIOBase object, buffer."),
  ("abc", pairs "
  ABC: Helper class that provides a standard way to create an ABC using|inheritance.
  ABCMeta: Metaclass for defining Abstract Base Classes (ABCs).
  abstractclassmethod: A decorator indicating abstract classmethods.
  abstractproperty: A decorator indicating abstract properties.
  abstractstaticmethod: A decorator indicating abstract staticmethods."),
  ("collections", pairs "
  ChainMap: A ChainMap groups multiple dicts (or other mappings) together|to create a single,
    updateable view.
  Counter: Dict subclass for counting hashable items.  Sometimes called a bag|or multiset.  Elements
    are stored as dictionary keys and their counts|are stored as dictionary values.
  OrderedDict: Dictionary that remembers insertion order
  UserList: A more or less complete user-defined wrapper around list objects."),
  ("collections.abc", pairs "
  ByteString: This unifies bytes and bytearray.
  Mapping: A Mapping is a generic container for associating key/value|pairs.
  MutableMapping: A MutableMapping is a generic container for associating|key/value pairs.
  MutableSequence: All the operations on a read-write sequence.
  MutableSet: A mutable set is a finite, iterable container."),
  ("contextlib", pairs "
  AbstractAsyncContextManager: An abstract base class for asynchronous context managers.
  AbstractContextManager: An abstract base class for context managers.
  AsyncContextDecorator: A base class or mixin that enables async context managers to work as
    decorators.
  AsyncExitStack: Async context manager for dynamic management of a stack of exit|callbacks.
  ContextDecorator: A base class or mixin that enables context managers to work as decorators.
  ExitStack: Context manager for dynamic management of a stack of exit callbacks.
  aclosing: Async context manager for safely finalizing an asynchronously cleaned-up|resource such
    as an async generator, calling its ``aclose()`` method.
  chdir: Non thread-safe context manager to change the current working directory.
  closing: Context to automatically close something at the end of a block.
  nullcontext: Context manager that does no additional processing.
  redirect_stderr: Context manager for temporarily redirecting stderr to another file.
  redirect_stdout: Context manager for temporarily redirecting stdout to another file.
  suppress: Context manager to suppress specified exceptions"),
  ("datetime", pairs "
  timedelta: Difference between two datetime values.
  timezone: Fixed offset from UTC implementation of tzinfo.
  tzinfo: Abstract base class for time zone info objects."),
  ("decimal", pairs "
  Context: The context affects almost all operations and controls rounding,|Over/Underflow, raising
    of exceptions and much more.  A new context|can be constructed as follows:"),
  ("enum", pairs "
  Enum: Create a collection of name/value pairs.
  EnumCheck: various conditions to check an enumeration for
  EnumType: Metaclass for Enum
  Flag: Support for flags
  FlagBoundary: control how out of range values are handled|\"strict\" -> error is
    raised             [default for Flag]|\"conform\" -> extra bits are discarded|\"eject\" -> lose
    flag status|\"keep\" -> keep flag status and all bits [default for IntFlag]
  IntEnum: Enum where members are also (and must be) ints
  IntFlag: Support for integer-based Flags
  ReprEnum: Only changes the repr(), leaving str() and format() to the mixed-in type.
  StrEnum: Enum where members are also (and must be) strings
  auto: Instances are replaced with an appropriate value in Enum class suites.
  member: Forces item to become an Enum member during class creation.
  nonmember: Protects item from becoming an Enum member during class creation.
  property: This is a descriptor, used to define attributes that act differently|when accessed
    through an enum member and through an enum class.|Instance access is the same as property(), but
    access to an attribute|through the enum class will instead look in the class' _member_map_ for|a
    corresponding enum member.
  verify: Check an enumeration for various constraints. (see EnumCheck)"),
  ("fractions", pairs "
  Fraction: This class implements rational numbers."),
  ("functools", pairs "
  partialmethod: Method descriptor with partial application of the given arguments|and keywords.
  singledispatchmethod: Single-dispatch generic method descriptor."),
  ("http", pairs "
  HTTPMethod: HTTP methods and descriptions
  HTTPStatus: HTTP status codes and reason phrases"),
  ("io", pairs "
  BufferedIOBase: Base class for buffered IO objects.
  IOBase: The abstract base class for all I/O classes.
  RawIOBase: Base class for raw binary I/O.
  TextIOBase: Base class for text I/O."),
  ("itertools", pairs "
  accumulate: Return series of accumulated sums (or other binary function results).
  combinations: Return successive r-length combinations of elements in the iterable.
  combinations_with_replacement: Return successive r-length combinations of elements in the iterable
    allowing individual elements to have successive repeats.
  compress: Return data elements corresponding to true selector elements.
  count: Return a count object whose .__next__() method returns consecutive values.
  cycle: Return elements from the iterable until it is exhausted. Then repeat the sequence
    indefinitely.
  dropwhile: Drop items from the iterable while predicate(item) is true.
  filterfalse: Return those items of iterable for which function(item) is false.
  groupby: make an iterator that returns consecutive keys and groups from the iterable
  pairwise: Return an iterator of overlapping pairs taken from the input iterator.
  permutations: Return successive r-length permutations of elements in the iterable.
  starmap: Return an iterator whose values are returned from the function evaluated with an argument
    tuple taken from the given sequence.
  takewhile: Return successive entries from an iterable as long as the predicate evaluates to true
    for each entry."),
  ("json.decoder", pairs "
  JSONDecodeError: Subclass of ValueError with the following additional properties:"),
  ("numbers", pairs "
  Complex: Complex defines the operations that work on the builtin complex type.
  Integral: Integral adds methods that work on integral numbers.
  Number: All numbers inherit from this class.
  Rational: .numerator and .denominator should be in lowest terms.
  Real: To Complex, Real adds the operations that work on real numbers."),
  ("os", pairs "
  PathLike: Abstract base class for implementing the file system path protocol.
  stat_result: stat_result: Result from stat, fstat, or lstat.
  statvfs_result: statvfs_result: Result from statvfs or fstatvfs.
  terminal_size: A tuple of (columns, lines) for holding terminal window size"),
  ("pathlib", pairs "
  Path: PurePath subclass that can make system calls.
  PosixPath: Path subclass for non-Windows systems.
  PurePath: Base class for manipulating paths without I/O.
  PurePosixPath: PurePath subclass for non-Windows systems.
  PureWindowsPath: PurePath subclass for Windows systems.
  WindowsPath: Path subclass for Windows systems."),
  ("re", pairs "
  Match: The result of re.match() and re.search().|Match objects always have a boolean value of
    True.
  Pattern: Compiled regular expression object.
  RegexFlag: An enumeration.
  error: Exception raised for invalid regular expressions."),
  ("string", pairs "
  Template: A string class for supporting $-substitutions."),
  ("time", pairs "
  struct_time: The time value as returned by gmtime(), localtime(), and strptime(), and|accepted by
    asctime(), mktime() and strftime().  May be considered as a|sequence of 9 integers."),
  ("types", pairs "
  DynamicClassAttribute: Route attribute access on a class to __getattr__.
  SimpleNamespace: A simple attribute-based namespace."),
  ("typing", pairs "
  Annotated: Add context-specific metadata to a type.
  BinaryIO: Typed version of the return of open() in binary mode.
  ForwardRef: Internal wrapper to hold a forward reference.
  Generic: Abstract base class for generic types.
  IO: Generic base class for TextIO and BinaryIO.
  NewType: NewType creates simple unique types with almost zero runtime overhead.
  ParamSpec: Parameter specification variable.
  ParamSpecArgs: The args for a ParamSpec object.
  ParamSpecKwargs: The kwargs for a ParamSpec object.
  Protocol: Base class for protocol classes.
  SupportsAbs: An ABC with one abstract method __abs__ that is covariant in its return type.
  SupportsBytes: An ABC with one abstract method __bytes__.
  SupportsComplex: An ABC with one abstract method __complex__.
  SupportsFloat: An ABC with one abstract method __float__.
  SupportsIndex: An ABC with one abstract method __index__.
  SupportsInt: An ABC with one abstract method __int__.
  SupportsRound: An ABC with one abstract method __round__ that is covariant in its return type.
  TextIO: Typed version of the return of open() in text mode.
  TypeVar: Type variable.
  TypeVarTuple: Type variable tuple."),
  ("uuid", pairs "
  SafeUUID: An enumeration.")]

def silent : List String := fullNames <|
  "_thread. RLock collections. UserDict UserString collections.abc. AsyncGenerator " ++
  "AsyncIterable AsyncIterator Awaitable Callable Collection Container Coroutine Generator " ++
  "Hashable ItemsView Iterable Iterator KeysView MappingView Reversible Sized ValuesView " ++
  "collections. defaultdict deque copy. Error dataclasses. Field FrozenInstanceError InitVar " ++
  "datetime. time decimal. Clamped ConversionSyntax DecimalException DecimalTuple " ++
  "DivisionByZero DivisionImpossible DivisionUndefined FloatOperation Inexact InvalidContext " ++
  "InvalidOperation Overflow Rounded Subnormal Underflow functools. cached_property partial " ++
  "io. UnsupportedOperation itertools. chain islice product repeat zip_longest operator. " ++
  "attrgetter itemgetter methodcaller re. Scanner string. Formatter"

def untold : List String := fullNames
  "collections.abc. Sequence Set datetime. date datetime decimal. Decimal typing. Any uuid. UUID"

def cut (full : String) : String × String := match (full.splitOn ".").reverse with
  | [] => ("", full)
  | last :: before => (".".intercalate before.reverse, last)

def text? (full : String) : Option String :=
  ((texts.lookup (cut full).1).bind (·.lookup (cut full).2)).or
    (if full ∈ silent then some "" else none)

def modules : List String :=
  ("abc collections collections.abc contextlib copy dataclasses datetime decimal enum fractions " ++
  "functools http io itertools json math numbers operator os pathlib re string sys time types " ++
  "typing uuid").splitOn " "

/-- Words that a module has of other modules, with their full names. -/
def foreign : List (String × String) := pairs "
  contextlib: GenericAlias=GenericAlias MethodType=method deque=collections.deque
  copy: error=copy.Error
  dataclasses: FunctionType=function GenericAlias=GenericAlias
  enum: DynamicClassAttribute=types.DynamicClassAttribute EnumMeta=enum.EnumType
    MappingProxyType=mappingproxy
  fractions: Decimal=decimal.Decimal
  functools: GenericAlias=GenericAlias RLock=_thread.RLock
  http: IntEnum=enum.IntEnum StrEnum=enum.StrEnum
  io: BlockingIOError=BlockingIOError BufferedRWPair=_io.BufferedRWPair
    BufferedRandom=_io.BufferedRandom BufferedReader=_io.BufferedReader
    BufferedWriter=_io.BufferedWriter BytesIO=_io.BytesIO FileIO=_io.FileIO
    IncrementalNewlineDecoder=_io.IncrementalNewlineDecoder StringIO=_io.StringIO
    TextIOWrapper=_io.TextIOWrapper
  json: JSONDecodeError=json.decoder.JSONDecodeError
  numbers: ABCMeta=abc.ABCMeta
  os: GenericAlias=GenericAlias Mapping=collections.abc.Mapping
    MutableMapping=collections.abc.MutableMapping error=OSError
  pathlib: Sequence=collections.abc.Sequence attrgetter=operator.attrgetter
  types: AsyncGeneratorType=async_generator BuiltinFunctionType=builtin_function_or_method
    BuiltinMethodType=builtin_function_or_method CellType=cell
    ClassMethodDescriptorType=classmethod_descriptor CodeType=code CoroutineType=coroutine
    EllipsisType=ellipsis FrameType=frame FunctionType=function GeneratorType=generator
    GenericAlias=GenericAlias GetSetDescriptorType=getset_descriptor LambdaType=function
    MappingProxyType=mappingproxy MemberDescriptorType=member_descriptor
    MethodDescriptorType=method_descriptor MethodType=method MethodWrapperType=method-wrapper
    ModuleType=module NoneType=NoneType NotImplementedType=NotImplementedType
    TracebackType=traceback UnionType=UnionType WrapperDescriptorType=wrapper_descriptor
  typing: ABCMeta=abc.ABCMeta GenericAlias=GenericAlias MethodDescriptorType=method_descriptor
    MethodWrapperType=method-wrapper Text=str WrapperDescriptorType=wrapper_descriptor
    defaultdict=collections.defaultdict
  uuid: Enum=enum.Enum bytes_=bytes int_=int"

def foreignTo (module : String) : List (String × String) :=
  (((foreign.lookup module).getD "").splitOn " ").filterMap fun entry =>
    match entry.splitOn "=" with
    | [word, full] => some (word, full)
    | _ => none

def generic : List String := fullNames <|
  "collections. ChainMap Counter OrderedDict UserDict UserList UserString collections.abc. " ++
  "AsyncGenerator AsyncIterable AsyncIterator Awaitable ByteString Collection Container " ++
  "Coroutine Generator ItemsView Iterable Iterator KeysView Mapping MappingView MutableMapping " ++
  "MutableSequence MutableSet Reversible ValuesView collections. defaultdict deque contextlib. " ++
  "AbstractAsyncContextManager AbstractContextManager AsyncExitStack ExitStack aclosing chdir " ++
  "closing nullcontext redirect_stderr redirect_stdout suppress dataclasses. Field decimal. " ++
  "DecimalTuple functools. cached_property partial partialmethod itertools. chain os. PathLike " ++
  "stat_result statvfs_result terminal_size re. Match Pattern time. struct_time"

def enumerations : List String := fullNames <|
  "enum. Enum EnumCheck Flag FlagBoundary IntEnum IntFlag ReprEnum StrEnum http. HTTPMethod " ++
  "HTTPStatus re. RegexFlag uuid. SafeUUID"

def own (module : String) : List String :=
  let others := (silent ++ untold).filterMap fun full =>
    if (cut full).1 = module then some (cut full).2 else none
  if module ∈ modules then
    (((texts.lookup module).getD []).map Prod.fst ++ others).mergeSort
  else []

def find? (module word : String) : Option String :=
  if word ∈ own module then some (module ++ "." ++ word)
  else (foreignTo module).lookup word

def lines : List (String × String) := pairs "
  abc. ABCMeta enum. EnumType: type
  abc. abstractclassmethod: classmethod
  abc. abstractproperty: property
  abc. abstractstaticmethod: staticmethod
  collections. ChainMap UserDict: collections.abc. MutableMapping
  collections. Counter OrderedDict defaultdict: dict
  collections. UserList: collections.abc. MutableSequence
  collections. UserString collections.abc. ByteString MutableSequence: collections.abc. Sequence
  collections.abc. AsyncGenerator: collections.abc. AsyncIterator
  collections.abc. AsyncIterator: collections.abc. AsyncIterable
  collections.abc. Collection: collections.abc. Sized Iterable Container
  collections.abc. Coroutine: collections.abc. Awaitable
  collections.abc. Generator: collections.abc. Iterator
  collections.abc. ItemsView KeysView: collections.abc. MappingView Set
  collections.abc. Iterator Reversible: collections.abc. Iterable
  collections.abc. Mapping Set: collections.abc. Collection
  collections.abc. MappingView: collections.abc. Sized
  collections.abc. MutableMapping: collections.abc. Mapping
  collections.abc. MutableSet: collections.abc. Set
  collections.abc. Sequence: collections.abc. Reversible Collection
  collections.abc. ValuesView: collections.abc. MappingView Collection
  contextlib. AbstractAsyncContextManager AbstractContextManager os. PathLike: abc. ABC
  contextlib. AsyncExitStack aclosing: contextlib. AbstractAsyncContextManager
  contextlib. ExitStack chdir closing redirect_stderr redirect_stdout suppress: contextlib.
    AbstractContextManager
  contextlib. nullcontext: contextlib. AbstractContextManager AbstractAsyncContextManager
  copy. Error re. error: Exception BaseException
  dataclasses. FrozenInstanceError: AttributeError Exception BaseException
  datetime. datetime: datetime. date
  datetime. timezone: datetime. tzinfo
  decimal. Clamped Inexact InvalidOperation Rounded Subnormal: decimal. DecimalException
  decimal. ConversionSyntax DivisionImpossible InvalidContext: decimal. InvalidOperation
  decimal. DecimalException: ArithmeticError Exception BaseException
  decimal. DecimalTuple os. stat_result statvfs_result terminal_size time. struct_time: tuple
  decimal. DivisionByZero: decimal. DecimalException . ZeroDivisionError ArithmeticError Exception
    BaseException
  decimal. DivisionUndefined: decimal. InvalidOperation DecimalException . ZeroDivisionError
    ArithmeticError Exception BaseException
  decimal. FloatOperation: decimal. DecimalException . ArithmeticError TypeError Exception
    BaseException
  decimal. Overflow: decimal. Inexact Rounded
  decimal. Underflow: decimal. Inexact Rounded Subnormal
  enum. EnumCheck FlagBoundary http. HTTPMethod: enum. StrEnum
  enum. Flag ReprEnum uuid. SafeUUID: enum. Enum
  enum. IntEnum: int enum. ReprEnum
  enum. IntFlag: int enum. ReprEnum Flag
  enum. StrEnum: str enum. ReprEnum
  enum. property: types. DynamicClassAttribute
  fractions. Fraction numbers. Integral: numbers. Rational
  http. HTTPStatus: enum. IntEnum
  io. BufferedIOBase RawIOBase TextIOBase: io. IOBase
  io. UnsupportedOperation: OSError ValueError Exception BaseException
  json.decoder. JSONDecodeError: ValueError Exception BaseException
  numbers. Complex: numbers. Number
  numbers. Rational: numbers. Real
  numbers. Real: numbers. Complex
  pathlib. Path PurePosixPath PureWindowsPath: pathlib. PurePath
  pathlib. PosixPath: pathlib. Path PurePosixPath
  pathlib. WindowsPath: pathlib. Path PureWindowsPath
  re. RegexFlag: enum. IntFlag
  typing. BinaryIO TextIO: typing. IO
  typing. IO Protocol: typing. Generic
  typing. SupportsAbs SupportsBytes SupportsComplex SupportsFloat SupportsIndex SupportsInt
    SupportsRound: typing. Protocol"

/-- Classes, and other classes of which they have what those ask for, first those of
`collections.abc`. -/
def kinds : List (String × String) := pairs "
  bool int enum. IntEnum http. HTTPStatus: Hashable numbers. Number Complex Real Rational Integral
    typing. SupportsInt SupportsFloat SupportsIndex SupportsAbs SupportsRound
  bytearray: ByteString Collection Container Iterable MutableSequence Reversible Sequence Sized
  bytes: ByteString Collection Container Hashable Iterable Reversible Sequence Sized typing.
    SupportsBytes
  complex: Hashable numbers. Number Complex typing. SupportsComplex SupportsAbs
  dict collections. Counter OrderedDict defaultdict: Collection Container Iterable Mapping
    MutableMapping Reversible Sized
  enumerate filter map reversed zip list_iterator tuple_iterator range_iterator str_iterator
    str_ascii_iterator bytes_iterator bytearray_iterator set_iterator dict_keyiterator
    dict_valueiterator dict_itemiterator callable_iterator _io. BufferedRWPair BufferedRandom
    BufferedReader BufferedWriter BytesIO FileIO StringIO TextIOWrapper io. BufferedIOBase IOBase
    RawIOBase TextIOBase itertools. accumulate chain combinations combinations_with_replacement
    compress count cycle dropwhile filterfalse groupby islice pairwise permutations product repeat
    starmap takewhile zip_longest: Hashable Iterable Iterator
  float: Hashable numbers. Number Complex Real typing. SupportsInt SupportsFloat SupportsAbs
    SupportsRound
  frozenset: Collection Container Hashable Iterable Set Sized
  list collections. deque: Collection Container Iterable MutableSequence Reversible Sequence Sized
  memoryview range str tuple decimal. DecimalTuple enum. EnumCheck FlagBoundary StrEnum http.
    HTTPMethod os. stat_result statvfs_result terminal_size time. struct_time: Collection Container
    Hashable Iterable Reversible Sequence Sized
  set: Collection Container Iterable MutableSet Set Sized
  staticmethod type function builtin_function_or_method method method_descriptor wrapper_descriptor
    method-wrapper abc. ABCMeta abstractstaticmethod contextlib. AsyncContextDecorator
    ContextDecorator enum. verify functools. partial operator. attrgetter itemgetter methodcaller
    typing. NewType: Callable Hashable
  dict_keys: Collection Container Iterable KeysView MappingView Reversible Set Sized
  dict_values: Collection Container Hashable Iterable MappingView Reversible Sized ValuesView
  dict_items: Collection Container ItemsView Iterable MappingView Reversible Set Sized
  generator: Generator Hashable Iterable Iterator
  mappingproxy: Collection Container Iterable Mapping Reversible Sized
  GenericAlias: Callable Hashable Iterable
  collections. UserString: Hashable typing. SupportsInt SupportsFloat SupportsComplex
  datetime. timedelta: Hashable typing. SupportsAbs
  enum. EnumType: Callable Collection Container Hashable Iterable Reversible Sized
  enum. Flag: Collection Container Hashable Iterable Sized
  enum. IntFlag re. RegexFlag: Collection Container Hashable Iterable Sized numbers. Number Complex
    Real Rational Integral typing. SupportsInt SupportsFloat SupportsIndex SupportsAbs SupportsRound
  fractions. Fraction: Hashable typing. SupportsInt SupportsFloat SupportsComplex SupportsAbs
    SupportsRound
  numbers. Complex: typing. SupportsComplex SupportsAbs
  numbers. Integral: typing. SupportsInt SupportsFloat SupportsComplex SupportsIndex SupportsAbs
    SupportsRound
  numbers. Rational Real: typing. SupportsFloat SupportsComplex SupportsAbs SupportsRound
  pathlib. Path PosixPath PurePath PurePosixPath PureWindowsPath WindowsPath: Hashable typing.
    SupportsBytes os. PathLike
  typing. TypeVarTuple: Hashable Iterable
  decimal. Decimal: Hashable numbers. Number typing. SupportsInt SupportsFloat SupportsComplex
    SupportsAbs SupportsRound"

def routines : List (String × String) := pairs "
  decimal: getcontext localcontext setcontext
  io: open open_code text_encoding
  itertools: tee
  math: acos acosh asin asinh atan atan2 atanh cbrt ceil comb copysign cos cosh degrees dist erf
    erfc exp exp2 expm1 fabs factorial floor fmod frexp fsum gamma gcd hypot isclose isfinite isinf
    isnan isqrt lcm ldexp lgamma log log10 log1p log2 modf nextafter perm pow prod radians remainder
    sin sinh sqrt tan tanh trunc ulp
  sys: addaudithook audit breakpointhook call_tracing displayhook exc_info excepthook exception exit
    get_asyncgen_hooks get_coroutine_origin_tracking_depth get_int_max_str_digits getallocatedblocks
    getdefaultencoding getdlopenflags getfilesystemencodeerrors getfilesystemencoding getprofile
    getrecursionlimit getrefcount getsizeof getswitchinterval gettrace intern is_finalizing
    set_asyncgen_hooks set_coroutine_origin_tracking_depth set_int_max_str_digits setdlopenflags
    setprofile setrecursionlimit setswitchinterval settrace unraisablehook
  time: asctime clock_getres clock_gettime clock_gettime_ns clock_settime clock_settime_ns ctime
    get_clock_info gmtime localtime mktime monotonic monotonic_ns perf_counter perf_counter_ns
    process_time process_time_ns pthread_getcpuclockid sleep strftime strptime thread_time
    thread_time_ns time time_ns tzset"

def functions : List (String × String) := pairs "
  abc: abstractmethod update_abstractmethods
  collections: namedtuple
  contextlib: asynccontextmanager contextmanager
  copy: copy deepcopy
  dataclasses: asdict astuple dataclass field fields is_dataclass make_dataclass replace
  enum: bin global_enum global_enum_repr global_flag_repr global_str pickle_by_enum_name
    pickle_by_global_name show_flag_values unique
  functools: cache lru_cache singledispatch total_ordering update_wrapper wraps
  json: detect_encoding dump dumps load loads
  re: compile escape findall finditer fullmatch match purge search split sub subn template
  string: capwords
  types: coroutine new_class prepare_class resolve_bases
  typing: NamedTuple TypedDict assert_never assert_type cast clear_overloads dataclass_transform
    final get_args get_origin get_overloads get_type_hints is_typeddict no_type_check
    no_type_check_decorator overload reveal_type runtime_checkable
  uuid: getnode uuid1 uuid3 uuid4 uuid5"

def otherRoutines : List (String × String × String) := [ ("abc", "_abc", "get_cache_token"),
  ("enum", "_functools", "reduce"),
  ("functools", "_functools", "cmp_to_key reduce"),
  ("functools", "_abc", "get_cache_token"),
  ("operator", "_operator",
    "abs add and_ call concat contains countOf delitem eq floordiv ge getitem gt iadd " ++
    "iand iconcat ifloordiv ilshift imatmul imod imul index indexOf inv invert ior ipow " ++
    "irshift is_ is_not isub itruediv ixor le length_hint lshift lt matmul mod mul ne neg " ++
    "not_ or_ pos pow rshift setitem sub truediv truth xor"),
  ("contextlib", "functools", "wraps"),
  ("functools", "collections", "namedtuple"),
  ("functools", "reprlib", "recursive_repr"),
  ("numbers", "abc", "abstractmethod"),
  ("typing", "abc", "abstractmethod")]

/-- What a class extends: the nearest classes, and then what the last of them extends. `depth`
bounds how often that is. -/
def lineWithin : (depth : Nat) -> (full : String) -> List String
  | 0, _ => []
  | depth + 1, full =>
    match lines.find? fun (classes, _) => full ∈ fullNames classes with
    | some (_, above) =>
      let found := fullNames above
      found ++ lineWithin depth (found.getLastD "")
    | none => []

def lineOf (full : String) : List String := lineWithin 8 full

def hasKind (full wanted : String) : Bool := kinds.any fun (classes, found) =>
    full ∈ fullNames classes && wanted ∈ fullNames ("collections.abc. " ++ found)

def lists (entries : List (String × String)) (module word : String) : Bool :=
  word ∈ ((entries.lookup module).getD "").splitOn " "

def routine? (module word : String) : Option String :=
  if lists routines module word || lists functions module word then some (module ++ "." ++ word)
  else
    (otherRoutines.find? fun entry =>
      entry.1 = module && word ∈ entry.2.2.splitOn " ").map fun entry => entry.2.1 ++ "." ++ word

def isFunction (full : String) : Bool :=
  let (module, word) := cut full
  lists functions module word
end RouteDocs.Class.Library
