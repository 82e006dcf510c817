import ReleaseMatrix.Indented.Matching
import ReleaseMatrix.Indented.PathFunctions
import ReleaseMatrix.Indented.Reader
import ReleaseMatrix.Indented.SeriesFunctions

namespace ReleaseMatrix.Indented

namespace Modules

/-- The modules that programs can load, each with its functions. -/
def functions : List (String × List String) :=
  [("os", ["getcwd", "chdir", "listdir", "mkdir", "makedirs", "remove", "unlink", "rmdir", "rename", "replace",
      "renames", "symlink", "link", "readlink", "chmod", "mkfifo", "access", "stat", "lstat", "walk", "scandir",
      "fspath", "getpid", "getppid", "getuid", "geteuid", "getgid", "getegid", "cpu_count", "umask", "kill",
      "killpg", "abort", "_exit", "write", "read", "close", "utime", "chown", "fsync", "sync", "lchown", "isatty",
      "strerror", "getenv", "putenv", "unsetenv", "system", "execv", "execvp", "execl", "execlp", "fsencode",
      "fsdecode"]),
    ("os.path", ["join", "basename", "dirname", "split", "splitext", "normpath", "abspath", "realpath", "relpath",
      "isabs", "expanduser", "expandvars", "normcase", "exists", "lexists", "isfile", "isdir", "islink", "getsize",
      "samefile", "commonprefix"]),
    ("sys", ["exit", "getrecursionlimit", "setrecursionlimit", "getdefaultencoding", "getfilesystemencoding",
      "exc_info", "intern", "getsizeof"]),
    ("shutil", ["copy", "copy2", "copyfile", "copymode", "copystat", "copytree", "rmtree", "move", "which"]),
    ("time", ["sleep", "time", "monotonic", "perf_counter", "time_ns", "process_time", "strftime"]),
    ("json", ["dumps", "loads", "dump", "load"]),
    ("subprocess", ["run", "call", "check_call", "check_output"]),
    ("signal", ["signal", "raise_signal", "alarm", "getsignal", "pause"]),
    ("glob", ["glob", "iglob"]), ("fnmatch", ["fnmatch", "fnmatchcase", "filter"]),
    ("math", ["floor", "ceil", "sqrt", "trunc", "fabs", "gcd", "pow", "isnan", "isinf", "log2", "factorial", "prod"]),
    ("itertools", ["chain", "islice", "repeat", "zip_longest", "product", "permutations", "combinations", "takewhile",
      "dropwhile", "accumulate", "starmap", "groupby", "pairwise"]),
    ("functools", ["reduce", "partial", "wraps", "lru_cache", "cache", "cmp_to_key"]),
    ("collections", ["namedtuple", "deque"]), ("contextlib", ["suppress", "contextmanager", "closing"]),
    ("hashlib", ["sha256", "md5", "sha1", "sha512", "new"]),
    ("base64", ["b64encode", "b64decode", "b16encode"]), ("textwrap", ["dedent", "indent"]),
    ("shlex", ["quote", "join", "split"]), ("copy", ["copy", "deepcopy"]), ("atexit", ["register"]),
    ("operator", ["itemgetter", "attrgetter", "add", "mul"]), ("stat", ["S_ISDIR", "S_ISREG", "S_ISLNK", "S_IMODE"]),
    ("platform", ["system", "machine", "node", "python_version"]), ("io", ["StringIO", "BytesIO", "open"]),
    ("tempfile", ["gettempdir"]), ("traceback", ["print_exc", "format_exc"]), ("gc", ["collect"]),
    ("re", ["compile", "match", "fullmatch", "search", "sub", "subn", "findall", "finditer", "split", "escape",
      "purge"]),
    ("random", []), ("datetime", []), ("argparse", []), ("typing", []), ("pathlib", []), ("string", []),
    ("errno", []), ("__future__", []), ("dataclasses", []), ("enum", []), ("abc", []), ("struct", []), ("zlib", []),
    ("uuid", []), ("logging", []), ("threading", []), ("types", []), ("locale", []), ("codecs", []), ("socket", []),
    ("csv", []), ("warnings", []), ("configparser", []), ("getopt", []), ("gzip", []), ("zipfile", []), ("tarfile", []),
    ("builtins", []), ("collections.abc", []), ("urllib", []), ("inspect", []), ("importlib", []), ("unittest", [])]

/-- Classes that belong to modules, by the names that these give them. -/
def classes : List (String × String) :=
  [("pathlib.Path", "Path"), ("pathlib.PosixPath", "PosixPath"), ("pathlib.PurePath", "PurePath"),
    ("pathlib.PurePosixPath", "PurePosixPath"), ("collections.defaultdict", "defaultdict"),
    ("collections.OrderedDict", "OrderedDict"), ("collections.Counter", "Counter"),
    ("subprocess.CalledProcessError", "subprocess.CalledProcessError"),
    ("subprocess.SubprocessError", "subprocess.SubprocessError"),
    ("subprocess.TimeoutExpired", "subprocess.TimeoutExpired"), ("shutil.Error", "shutil.Error"),
    ("shutil.SameFileError", "shutil.SameFileError"), ("json.JSONDecodeError", "json.decoder.JSONDecodeError"),
    ("os.error", "OSError"), ("re.error", "re.error"), ("re.Pattern", "re.Pattern"), ("re.Match", "re.Match"),
    ("io.UnsupportedOperation", "io.UnsupportedOperation"), ("os.PathLike", "PurePath")]

def isThere (path : String) : Bool :=
  functions.any (·.1 == path)

end Modules

namespace RunM

/-- The streams, the environment and the words of the program are made first. -/
def standardInput : Value := .object 0
def standardOutput : Value := .object 1
def standardError : Value := .object 2
def environment : Value := .object 3
def programWords : Value := .object 4
def searchPath : Value := .object 5
def loadedModules : Value := .object 6

/-- What a module has under a name that is no function. -/
def moduleConstant? (path name : String) : Option Value :=
  match path, name with
  | "sys", "argv" => some programWords
  | "sys", "stdin" => some standardInput
  | "sys", "stdout" => some standardOutput
  | "sys", "stderr" => some standardError
  | "sys", "path" => some searchPath
  | "sys", "modules" => some loadedModules
  | "sys", "platform" => some (.text "linux")
  | "sys", "executable" => some (.text "/usr/bin/python3")
  | "sys", "version" => some (.text "3.12.3 (main, Jun 18 2025, 17:59:45) [GCC 13.3.0]")
  | "sys", "version_info" => some (.tuple [.whole 3, .whole 12, .whole 3, .text "final", .whole 0])
  | "sys", "maxsize" => some (.whole 9223372036854775807)
  | "sys", "byteorder" => some (.text "little")
  | "sys", "dont_write_bytecode" => some (.truth false)
  | "os", "environ" => some environment
  | "os", "path" => some (.module "os.path")
  | "os", "sep" | "os.path", "sep" => some (.text "/")
  | "os", "pathsep" => some (.text ":")
  | "os", "linesep" => some (.text "\n")
  | "os", "name" => some (.text "posix")
  | "os", "curdir" => some (.text ".")
  | "os", "pardir" => some (.text "..")
  | "os", "devnull" => some (.text "/dev/null")
  | "os", "F_OK" => some (.whole 0)
  | "os", "X_OK" => some (.whole 1)
  | "os", "W_OK" => some (.whole 2)
  | "os", "R_OK" => some (.whole 4)
  | "os", "EX_OK" => some (.whole 0)
  | "math", "pi" =>
    let closest := (Shell.Fraction.mk 3141592653589793 1000000000000000).toBinary?
    some (.fraction (.finite false (closest.getD ⟨3, 1⟩)))
  | "re", "I" | "re", "IGNORECASE" => some (.whole 2)
  | "re", "M" | "re", "MULTILINE" => some (.whole 8)
  | "re", "S" | "re", "DOTALL" => some (.whole 16)
  | "re", "A" | "re", "ASCII" => some (.whole 256)
  | "math", "inf" => some (.fraction (.infinite false))
  | "math", "nan" => some (.fraction .undefined)
  | "string", "ascii_lowercase" => some (.text lowercase)
  | "string", "ascii_uppercase" => some (.text lowercase.toUpper)
  | "string", "ascii_letters" => some (.text (lowercase ++ lowercase.toUpper))
  | "string", "digits" => some (.text "0123456789")
  | "string", "hexdigits" => some (.text "0123456789abcdefABCDEF")
  | "string", "octdigits" => some (.text "01234567")
  | "string", "whitespace" => some (.text " \t\n\x0d\x0b\x0c")
  | "string", "punctuation" => some (.text "!\"#$%&'()*+,-./:;<=>?@[\\]^_\x60\x7b|\x7d~")
  | "subprocess", "PIPE" => some (.whole (-1))
  | "subprocess", "STDOUT" => some (.whole (-2))
  | "subprocess", "DEVNULL" => some (.whole (-3))
  | "errno", name => ((errorNumbers.find? (·.1 == name)).map fun (_, n) => .whole n)
  | "stat", name => ((rights.find? (·.1 == name)).map fun (_, n) => .whole n)
  | "signal", "SIG_DFL" => some (.whole 0)
  | "signal", "SIG_IGN" => some (.whole 1)
  | "signal", name =>
    if name.startsWith "SIG" then
      (Shell.Signal.table.findIdx? (·.1 == String.ofList (name.toList.drop 3))).map fun k => .whole (k + 1)
    else none
  | "typing", "TYPE_CHECKING" => some (.truth false)
  | "typing", _ | "collections.abc", _ => some (.kind "object")
  | "__future__", _ => some .none
  | path, name => ((Modules.classes.find? (·.1 == path ++ "." ++ name)).map fun (_, kind) => .kind kind)
where
  lowercase : String := "abcdefghijklmnopqrstuvwxyz"
  errorNumbers : List (String × Int) :=
    [("EPERM", 1), ("ENOENT", 2), ("ESRCH", 3), ("EINTR", 4), ("EIO", 5), ("E2BIG", 7), ("ENOEXEC", 8), ("EBADF", 9),
      ("EAGAIN", 11), ("ENOMEM", 12), ("EACCES", 13), ("EBUSY", 16), ("EEXIST", 17), ("EXDEV", 18), ("ENOTDIR", 20),
      ("EISDIR", 21), ("EINVAL", 22), ("ENOSPC", 28), ("EPIPE", 32), ("ENOTEMPTY", 39), ("ELOOP", 40)]
  rights : List (String × Int) :=
    [("S_IRWXU", 448), ("S_IRUSR", 256), ("S_IWUSR", 128), ("S_IXUSR", 64), ("S_IEXEC", 64), ("S_IRWXG", 56),
      ("S_IRGRP", 32), ("S_IWGRP", 16), ("S_IXGRP", 8), ("S_IRWXO", 7), ("S_IROTH", 4), ("S_IWOTH", 2), ("S_IXOTH", 1)]

/-- What a module has under a name. -/
def moduleAttribute? (path name : String) : Option Value :=
  match moduleConstant? path name with
  | some v => some v
  | none =>
    if (Modules.functions.find? (·.1 == path)).any fun (_, names) => names.contains name then
      some (.native (path ++ "." ++ name))
    else if Modules.isThere (path ++ "." ++ name) then some (.module (path ++ "." ++ name))
    else none

end RunM

open Shell (Octets)

namespace RunM

variable (r : Runner)

/-- The function of a value that is always there, if its class has it. -/
def ownFunction? (v : Value) (name : String) (g : Given) : RunM (Option (RunM Value)) := do
  match v with
  | .text s =>
    match name with
    | "encode" => pure (some (encode s g))
    | _ => pure (textFunction? r s name g)
  | .bytes s => pure (bytesFunction? r s name g)
  | .tuple items => pure (tupleFunction? r items name g)
  | .path s => pure (pathObjectFunction? r s name g)
  | .whole _ | .truth _ | .fraction _ => pure (numberFunction? v name g)
  | .object i =>
    match ← objectAt i with
    | .list items => pure (listFunction? r v i items name g)
    | .table kind entries missing => pure (tableFunction? r i kind entries missing name g)
    | .set isFrozen items => pure (setFunction? r i isFrozen items name g)
    | .stream s => pure (streamFunction? r v s name g)
    | .passage _ =>
      pure (match name with
        | "__next__" => some do
          match ← next? r r.fuel v with
          | some item => pure item
          | none => raiseWith "StopIteration" [] []
        | "__iter__" => some (pure v)
        | "close" => some (pure .none)
        | _ => none)
    | .trouble t =>
      pure (match name with
        | "with_traceback" | "add_note" => some (pure v)
        | "__str__" => some do return .text (← troubleText r depth t (textOf r))
        | _ => none)
    | .instance (.kind kind) fields => pure (recordFunction? kind fields name g)
    | _ => pure none
  | _ => pure none
where
  encode (s : String) (g : Given) : RunM Value := do
    match g.argument? 0 "encoding" with
    | some (.text name) =>
      if name ∈ ["latin-1", "latin1", "iso-8859-1", "ascii"] then
        let limit := if name = "ascii" then 128 else 256
        match s.toList.findIdx? fun c => c.toNat ≥ limit with
        | some k =>
          let kind := if name = "ascii" then "ascii" else "latin-1"
          raise "UnicodeEncodeError" ("'" ++ kind ++ "' codec can't encode character " ++
            Display.quoted (String.singleton (s.toList.getD k ' ')) ++ " in position " ++ toString k ++
            ": ordinal not in range(" ++ toString limit ++ ")")
        | none => pure (.bytes s)
      else if name.toLower.replace "_" "-" ∈ ["utf-8", "utf8"] then pure (.bytes (Octets.ofText s))
      else raise "LookupError" ("unknown encoding: " ++ name)
    | _ => pure (.bytes (Octets.ofText s))
  /-- Functions of what other functions give as records. -/
  recordFunction? (kind : String) (fields : List (String × Value)) (name : String) (g : Given) : Option (RunM Value) :=
    let field (name : String) : Value := ((fields.find? (·.1 == name)).map (·.2)).getD .none
    match kind, name with
    | "os.DirEntry", "is_dir" => some do return .truth (← isDirectoryAt (← textOf r (field "path")))
    | "os.DirEntry", "is_file" => some do return .truth ((← entryAt? (← textOf r (field "path"))).any Entry.isFile)
    | "os.DirEntry", "is_symlink" => some do
      return .truth ((← ownEntryAt? (← textOf r (field "path"))) matches some (.link _))
    | "hashlib.digest", "hexdigest" => some (pure (field "digits"))
    | "hashlib.digest", "digest" => some (pure (field "octets"))
    | "subprocess.CompletedProcess", "check_returncode" => some (pure .none)
    | "re.Match", name => matchFunction? fields name g
    | "re.Pattern", name =>
      let pattern : RunM TextPattern := do
        match field "pattern", field "flags" with
        | .text source, .whole flags => readPattern source (patternLetters flags.toNat)
        | _, _ => raise "TypeError" "expected string or bytes-like object"
      patternFunction? r name pattern g
    | _, _ => none

/-- A member of a class as a value has it: functions take the value. -/
def boundMember (v kind member : Value) : RunM Value := do
  match member with
  | .object i =>
    match ← objectAt i with
    | .function _ => pure (.method v member)
    | .instance (.kind "property") fields => r.call (((fields.find? (·.1 == "get")).map (·.2)).getD .none) ⟨[v], []⟩
    | .instance (.kind "staticmethod") fields => pure (((fields.find? (·.1 == "function")).map (·.2)).getD .none)
    | .instance (.kind "classmethod") fields =>
      pure (.method kind (((fields.find? (·.1 == "function")).map (·.2)).getD .none))
    | _ => pure member
  | m => pure m

/-- What a value has under a name, if it has. -/
def attribute? (v : Value) (name : String) : RunM (Option Value) := do
  let own : RunM (Option Value) := do
    if (← ownFunction? r v name ⟨[], []⟩).isSome then pure (some (.bound v name))
    else if name = "__class__" then return some (← kindOf v)
    else pure none
  let fromClass (kind : Value) : RunM (Option Value) := do
    match ← member? kind name with
    | some member => return some (← boundMember r v kind member)
    | none => own
  match v with
  | .module path =>
    if name = "__name__" then pure (some (.text path)) else pure (moduleAttribute? path name)
  | .kind kind =>
    match name with
    | "__name__" | "__qualname__" => pure (some (.text (Kind.shortName kind)))
    | "__doc__" => pure (some .none)
    | _ => pure (some (.native (kind ++ "." ++ name)))
  | .path s =>
    match pathAttribute? s name with
    | some work => return some (← work)
    | none => own
  | .range start stop step =>
    pure (match name with
      | "start" => some (.whole start)
      | "stop" => some (.whole stop)
      | "step" => some (.whole step)
      | _ => none)
  | .whole n =>
    match name with
    | "real" | "numerator" => pure (some (.whole n))
    | _ => own
  | .text _ => if name = "format" || name = "format_map" then pure (some (.bound v name)) else own
  | .native full =>
    pure (if name = "__name__" || name = "__qualname__" then some (.text (Kind.shortName full)) else none)
  | .method self function =>
    match name with
    | "__self__" => pure (some self)
    | "__func__" => pure (some function)
    | "__name__" =>
      match function with
      | .object i =>
        match ← objectAt i with
        | .function f => pure (some (.text f.name))
        | _ => pure none
      | _ => pure none
    | _ => pure none
  | .tuple items =>
    -- the version of the language tells its parts by name
    match name, items with
    | "major", .whole n :: _ => pure (some (.whole n))
    | "minor", _ :: v :: _ => pure (some v)
    | "micro", _ :: _ :: v :: _ => pure (some v)
    | _, _ => own
  | .object i =>
    match ← objectAt i with
    | .instance (.kind "super") fields =>
      let field (name : String) : Value := ((fields.find? (·.1 == name)).map (·.2)).getD .none
      let self := field "self"
      let after := ((← ancestors 16 (← kindOf self)).dropWhile fun k => !(k.isSame (field "class"))).drop 1
      let found? ← after.findSomeM? fun k => do
        match k with
        | .object j =>
          match ← objectAt j with
          | .classOf c => pure ((c.members.find? (·.1 == name)).map (·.2))
          | _ => pure none
        | _ => pure none
      match found? with
      | some member => return some (← boundMember r self (← kindOf self) member)
      | none => pure (some (.bound self (if name = "__init__" then "__init__" else name)))
    | .instance kind fields =>
      match fields.find? (·.1 == name) with
      | some (_, value) => pure (some value)
      | none =>
        if name = "__dict__" then
          return some (← makeTable (fields.map fun (n, v) => (.text n, v)))
        else
          match ← fromClass kind with
          | some member => pure (some member)
          | none =>
            match ← member? kind "__getattr__" with
            | some f => return some (← r.call f ⟨[v, .text name], []⟩)
            | none => pure none
    | .trouble t =>
      match t.fields.find? (·.1 == name) with
      | some (_, value) => pure (some value)
      | none =>
        match name with
        | "args" => pure (some (.tuple t.arguments))
        | "code" | "value" => pure (some (t.arguments.headD .none))
        | "msg" | "message" | "name" => if t.kind matches .kind _ then pure t.arguments.head? else fromClass t.kind
        | "errno" | "strerror" | "filename" | "filename2" => pure (some .none)
        | "__cause__" => pure (some (t.cause?.getD .none))
        | "__context__" => pure (some (t.context?.getD .none))
        | "__traceback__" => pure (some .none)
        | "__init__" => pure (some (.bound v "__init__"))
        | _ => fromClass t.kind
    | .classOf c =>
      match name with
      | "__name__" | "__qualname__" => pure (some (.text c.name))
      | "__dict__" => return some (← makeTable (c.members.map fun (n, v) => (.text n, v)))
      | "__doc__" => pure (some .none)
      | _ =>
        match ← member? v name with
        | some member =>
          match member with
          | .object j =>
            match ← objectAt j with
            | .instance (.kind "staticmethod") _ | .instance (.kind "classmethod") _ =>
              return some (← boundMember r v v member)
            | _ => pure (some member)
          | m => pure (some m)
        | none => pure none
    | .function f =>
      pure (match name with
        | "__name__" | "__qualname__" => some (.text f.name)
        | "__doc__" => some .none
        | "__module__" => some (.text "__main__")
        | _ => none)
    | .stream s =>
      match name with
      | "name" => pure (some s.name)
      | "mode" => pure (some (.text s.mode))
      | "closed" => pure (some (.truth s.isClosed))
      | "encoding" => pure (some (.text "utf-8"))
      | "buffer" =>
        flush v
        return some (← make (.stream { s with isBinary := true, pending? := none }))
      | _ => own
    | .table "defaultdict" _ missing =>
      if name = "default_factory" then pure (some missing) else own
    | _ => own
  | _ => own

/-- What a value has under a name. -/
def attributeOf (v : Value) (name : String) : RunM Value := do
  match ← attribute? r v name with
  | some found => pure found
  | none =>
    let fields : List (String × Value) := [("name", .text name), ("obj", v)]
    let fail (message : String) : RunM Value := raiseWith "AttributeError" [.text message] fields
    match v with
    | .module path => fail ("module '" ++ path ++ "' has no attribute '" ++ name ++ "'")
    | .object i =>
      match ← objectAt i with
      | .classOf c => fail ("type object '" ++ c.name ++ "' has no attribute '" ++ name ++ "'")
      | _ => fail ("'" ++ (← kindName v) ++ "' object has no attribute '" ++ name ++ "'")
    | v => fail ("'" ++ (← kindName v) ++ "' object has no attribute '" ++ name ++ "'")

/-- The pairs with one that is set. -/
def withField (fields : List (String × Value)) (name : String) (value : Value) : List (String × Value) :=
  if fields.any (·.1 == name) then fields.map fun (n, v) => if n = name then (n, value) else (n, v)
  else fields ++ [(name, value)]

/-- Sets what a value has under a name. -/
def setAttribute (v : Value) (name : String) (value : Value) : RunM Unit := do
  let refuse : RunM Unit := do
    raise "AttributeError" ("'" ++ (← kindName v) ++ "' object has no attribute '" ++ name ++ "'")
  match v with
  | .object i =>
    match ← objectAt i with
    | .instance kind fields =>
      match ← special? v "__setattr__" with
      | some f =>
        let _ ← r.call f ⟨[v, .text name, value], []⟩
      | none =>
        let setter? ← match ← member? kind name with
          | some (.object j) => do
            match ← objectAt j with
            | .instance (.kind "property") parts => pure ((parts.find? (·.1 == "set")).map (·.2))
            | _ => pure none
          | _ => pure none
        match setter? with
        | some f =>
          let _ ← r.call f ⟨[v, value], []⟩
        | none => setObject i (.instance kind (withField fields name value))
    | .trouble t => setObject i (.trouble { t with fields := withField t.fields name value })
    | .classOf c => setObject i (.classOf { c with members := withField c.members name value })
    | .function _ | .stream _ => pure ()
    | _ => refuse
  | .module _ => pure ()
  | _ => refuse

/-- Takes away what a value has under a name. -/
def deleteAttribute (v : Value) (name : String) : RunM Unit := do
  match v with
  | .object i =>
    match ← objectAt i with
    | .instance kind fields => setObject i (.instance kind (fields.filter (·.1 ≠ name)))
    | .classOf c => setObject i (.classOf { c with members := c.members.filter (·.1 ≠ name) })
    | _ => pure ()
  | _ => pure ()

/-- A text with values in place of what stands between braces. -/
def fillIn (g : Given) : Nat → Nat → List Char → RunM (List Char × Nat)
  | 0, next, _ => pure ([], next)
  | _ + 1, next, [] => pure ([], next)
  | n + 1, next, '\x7b' :: '\x7b' :: rest => do
    let (more, next) ← fillIn g n next rest
    pure ('\x7b' :: more, next)
  | n + 1, next, '\x7d' :: '\x7d' :: rest => do
    let (more, next) ← fillIn g n next rest
    pure ('\x7d' :: more, next)
  | _ + 1, _, '\x7d' :: _ => raise "ValueError" "Single '\x7d' encountered in format string"
  | n + 1, next, '\x7b' :: rest => do
    let length := ReadM.readTemplate.layoutLength (rest.length + 1) 0 rest
    if length = rest.length then raise "ValueError" "Single '\x7b' encountered in format string"
    let field := rest.take length
    let path := field.takeWhile fun c => c ≠ ':' && c ≠ '!'
    let after := field.drop path.length
    let (conversion?, after) := match after with
      | '!' :: c :: rest => (some c, rest)
      | after => (none, after)
    let (layout, next') ← match after with
      | ':' :: rest => fillIn g n (if path.isEmpty || path.head? = some '.' then next + 1 else next) rest
      | _ => pure ([], if path.isEmpty || path.head? = some '.' || path.head? = some '[' then next + 1 else next)
    let name := path.takeWhile fun c => c ≠ '.' && c ≠ '['
    let place? := if name.isEmpty then some next
      else if name.all Char.isDigit then some (Text.numberOf 10 name) else none
    let first ← match place? with
      | some k =>
        match g.plain[k]? with
        | some v => pure v
        | none => raise "IndexError" ("Replacement index " ++ toString k ++ " out of range for positional args tuple")
      | none =>
        match g.named.find? (·.1 == String.ofList name) with
        | some (_, v) => pure v
        | none => raiseWith "KeyError" [.text (String.ofList name)] []
    let v ← follow (path.length + 1) first (path.drop name.length)
    let shown ← laidOut r (← converted r v conversion?) (String.ofList layout)
    let (more, next) ← fillIn g n next' (rest.drop (length + 1))
    pure (shown.toList ++ more, next)
  | n + 1, next, c :: rest => do
    let (more, next) ← fillIn g n next rest
    pure (c :: more, next)
where
  /-- Goes on from a value by attributes and keys. -/
  follow : Nat → Value → List Char → RunM Value
    | 0, v, _ => pure v
    | n + 1, v, cs => do
      match cs with
      | '.' :: rest =>
        let name := rest.takeWhile fun c => c ≠ '.' && c ≠ '['
        follow n (← attributeOf r v (String.ofList name)) (rest.drop name.length)
      | '[' :: rest =>
        let key := rest.takeWhile (· ≠ ']')
        let index : Value := if !key.isEmpty && key.all Char.isDigit then .whole (Text.numberOf 10 key)
          else .text (String.ofList key)
        follow n (← itemOf r v index) (rest.drop (key.length + 1))
      | _ => pure v

end RunM

end ReleaseMatrix.Indented
