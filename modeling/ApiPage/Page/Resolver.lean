import ApiPage.Html

/-!
# Resolution of words

A page links words of prose and names of code to its own anchors, to other pages and to the page of
predeclared names. The resolver is where URLs are made.

## Main definitions

* `Resolver.url`: the URL of a symbol on a page.
* `Resolver.html`: a word as HTML, linked if it resolves.
-/

namespace ApiPage

/-- The path of the page of predeclared names. -/
def builtinsPath : Text := Text.of "builtins"

/-- Predeclared errors and warnings. -/
def predeclaredErrors : List Text :=
  ["ArithmeticError", "AssertionError", "AttributeError", "BaseException", "BaseExceptionGroup",
    "BlockingIOError", "BrokenPipeError", "BufferError", "BytesWarning", "ChildProcessError",
    "ConnectionAbortedError", "ConnectionError", "ConnectionRefusedError",
    "ConnectionResetError", "DeprecationWarning", "EOFError", "EncodingWarning",
    "EnvironmentError", "Exception", "ExceptionGroup", "FileExistsError", "FileNotFoundError",
    "FloatingPointError", "FutureWarning", "GeneratorExit", "IOError", "ImportError",
    "ImportWarning", "IndentationError", "IndexError", "InterruptedError", "IsADirectoryError",
    "KeyError", "KeyboardInterrupt", "LookupError", "MemoryError", "ModuleNotFoundError",
    "NameError", "NotADirectoryError", "NotImplementedError", "OSError", "OverflowError",
    "PendingDeprecationWarning", "PermissionError", "ProcessLookupError", "RecursionError",
    "ReferenceError", "ResourceWarning", "RuntimeError", "RuntimeWarning", "StopAsyncIteration",
    "StopIteration", "SyntaxError", "SyntaxWarning", "SystemError", "SystemExit", "TabError",
    "TimeoutError", "TypeError", "UnboundLocalError", "UnicodeDecodeError",
    "UnicodeEncodeError", "UnicodeError", "UnicodeTranslateError", "UnicodeWarning",
    "UserWarning", "ValueError", "Warning", "ZeroDivisionError"].map Text.of

/-- Predeclared constants, functions and types. -/
def predeclaredValues : List Text :=
  ["Ellipsis", "False", "None", "NotImplemented", "True", "abs", "aiter", "all", "anext", "any",
    "ascii", "bin", "bool", "breakpoint", "bytearray", "bytes", "callable", "chr",
    "classmethod", "compile", "complex", "copyright", "credits", "delattr", "dict", "dir",
    "divmod", "enumerate", "eval", "exec", "exit", "filter", "float", "format", "frozenset",
    "getattr", "globals", "hasattr", "hash", "help", "hex", "id", "input", "int", "isinstance",
    "issubclass", "iter", "len", "license", "list", "locals", "map", "max", "memoryview", "min",
    "next", "object", "oct", "open", "ord", "pow", "print", "property", "quit", "range", "repr",
    "reversed", "round", "set", "setattr", "slice", "sorted", "staticmethod", "str", "sum",
    "super", "tuple", "type", "vars", "zip"].map Text.of

/-- A name that is bound without being declared or imported. -/
def isPredeclared (name : Text) : Bool :=
  predeclaredErrors.contains name || predeclaredValues.contains name

/-- The URL of the page of a path, unless another rule is given. -/
def defaultPageUrl (path : Text) : Text := '/' :: path

/-- **Resolver**: the paths of imported modules by name, the anchors of the page, the URLs of pages,
the anchors of the members of the declaration in question, and imported symbols by name. -/
structure Resolver where
  namespaces : List (Text × Text)
  targets : List Text
  pageUrl : Text → Text
  members : List (Text × Text)
  symbols : List (Text × Text × Text)

namespace Resolver

/-- The resolver of a page without names. -/
def empty : Resolver := ⟨[], [], defaultPageUrl, [], []⟩

/-- The resolver for another declaration. -/
def withMembers (r : Resolver) (members : List (Text × Text)) : Resolver := { r with members }

/-- **The URL of a symbol** on the page of a path. Both may be empty; no path means this page. -/
def url (r : Resolver) (path symbol : Text) : Text :=
  (if path.isEmpty then [] else r.pageUrl path) ++ if symbol.isEmpty then [] else '#' :: symbol

/-- A word that does not begin with an imported module. -/
def plainHtml (r : Resolver) (word : Text) : Text :=
  if r.targets.contains word then Html.link ('#' :: word) word
  else match r.members.lookup word with
    | some id => Html.link ('#' :: id) word
    | none => match r.symbols.lookup word with
      | some (path, symbol) => Html.link (r.url path symbol) word
      | none =>
        if isPredeclared word then Html.link (r.url builtinsPath word) word else Html.escape word

/-- **A word as HTML**. A name after an imported module comes first, then the anchors of the page,
the members, the imported symbols and the predeclared names. -/
def html (r : Resolver) (word : Text) : Text :=
  match Text.cutAt? '.' word with
  | some (head, rest) =>
    match r.namespaces.lookup head with
    | some path => Html.link (r.url path []) head ++ '.' :: Html.link (r.url path rest) rest
    | none => r.plainHtml word
  | none => r.plainHtml word

end Resolver
end ApiPage
