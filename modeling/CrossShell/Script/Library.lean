import CrossShell.Script.Store

/-!
The standard library of config scripts.

Its functions are values that a script can name, compare and hand on. What they do is described of a
few only: those that put a value into a table, raise an error, print, open a file to write to it and
end the program. The functions for strings are also the fields of every string.
-/

set_option autoImplicit false

namespace CrossShell.Script

open Number (Binary64)

namespace Library

/-- The functions with a name of their own that are not described. -/
def functions : List String :=
  ["assert", "collectgarbage", "dofile", "getmetatable", "ipairs", "load", "loadfile", "next",
   "pairs", "pcall", "rawequal", "rawget", "rawlen", "rawset", "require", "select", "setmetatable",
   "tonumber", "tostring", "type", "warn", "xpcall"]

/-- The functions of each part of the library that are not described. -/
def parts : List (String × List String) :=
  [("string",
     ["byte", "char", "dump", "find", "format", "gmatch", "gsub", "len", "lower", "match", "pack",
      "packsize", "rep", "reverse", "sub", "unpack", "upper"]),
   ("table", ["concat", "move", "pack", "remove", "sort", "unpack"]),
   ("math",
     ["abs", "acos", "asin", "atan", "ceil", "cos", "deg", "exp", "floor", "fmod", "log", "max",
      "min", "modf", "rad", "random", "randomseed", "sin", "sqrt", "tan", "tointeger", "type",
      "ult"]),
   ("os",
     ["clock", "date", "difftime", "execute", "getenv", "remove", "rename", "setlocale", "time",
      "tmpname"]),
   ("io",
     ["close", "flush", "input", "lines", "output", "popen", "read", "tmpfile", "type", "write"]),
   ("utf8", ["char", "codepoint", "codes", "len", "offset"]),
   ("coroutine",
     ["close", "create", "isyieldable", "resume", "running", "status", "wrap", "yield"]),
   ("package", ["loadlib", "searchpath"])]

/-- What the parts of the library hold besides. -/
def extras : List (String × List (String × Value)) :=
  [("table", [("insert", .function .insert)]),
   ("os", [("exit", .function .exit)]),
   ("io", [("open", .function .openFile)]),
   ("math",
     [("huge", .number (.infinite false)),
      ("maxinteger", .integer Int64.maxValue),
      ("mininteger", .integer Int64.minValue),
      ("pi", .number (Binary64.ofDecimal false 3141592653589793 (-15)))])]

/-- The fields of a part of the library. -/
def fieldsOf (name : String) (names : List String) : List (String × Value) :=
  names.map (fun f => (f, .function (.library (name ++ "." ++ f))))
    ++ (extras.lookup name).getD []

/-- Where the fields of strings are. -/
def stringFields : Nat := 0

/-- The global variables of every script. -/
def globals : List (String × Value) :=
  (parts.zipIdx.map fun ((name, _), address) => (name, .table address))
    ++ functions.map (fun name => (name, .function (.library name)))
    ++ [("error", .function .raise), ("print", .function .print), ("_VERSION", .ofText "Lua 5.4"),
        ("_G", .table parts.length)]

/-- What every script starts with. -/
def store : Store where
  tables :=
    (parts.map (fun (name, names) => Table.ofFields (fieldsOf name names))
      ++ [Table.ofFields globals]).toArray
  globals := parts.length
  locals := []
  functions := 0
  opened := 0

end Library

end CrossShell.Script
