/-!
# Members of modules

A name in a module stands for another module, a type or a value.  Beside what it
is written with, every module has members of its own: what is known of it, and
functions that every value has.
-/

namespace Paywatch

inductive Owner where
  | module (path : String)
  | type (name : String)
  /-- A value of a type with this name. -/
  | value (typeName : String)
  /-- A type that lists its values, which tells only what it was asked for. -/
  | enumeration
  deriving DecidableEq, Repr

namespace Owner

def values (typeName : String) (names : List String) : List (String × Owner) :=
  names.map fun name => (name, .value typeName)

def functionType : String :=
  "function"

def typeName : Owner → String
  | module _ => "module"
  | type _ => "type"
  | value name => name
  | enumeration => "EnumType"

def common : List (String × Owner) :=
  [("__class__", .type "module")] ++
  values "NoneType" ["__doc__"] ++
  values "str" ["__name__"] ++
  values "dict" ["__dict__", "__annotations__"] ++
  values "method-wrapper" ["__delattr__", "__eq__", "__ge__", "__getattribute__", "__gt__",
    "__hash__", "__init__", "__le__", "__lt__", "__ne__", "__repr__", "__setattr__", "__str__"] ++
  values "builtin_function_or_method" ["__dir__", "__format__", "__getstate__",
    "__init_subclass__", "__new__", "__reduce__", "__reduce_ex__", "__sizeof__",
    "__subclasshook__"]

end Owner

inductive CallFault where
  /-- What is called is a value of a type with this name. -/
  | noFunction (typeName : String)
  /-- The function takes another number of values. -/
  | wrongCount (expected : Nat)
  /-- The function takes no values at all. -/
  | takesNone (function : String)
  /-- There is no such way to show a module. -/
  | unknownForm
  /-- The text is not the type of a new module. -/
  | noType
  deriving DecidableEq, Repr

namespace CallFault

def text : CallFault → String
  | noFunction typeName => s!"'{typeName}' object is not callable"
  | wrongCount expected =>
    (if expected = 0 then "" else " ") ++ s!"expected {expected} arguments, got 1"
  | takesNone function => s!"{function}() takes no arguments (1 given)"
  | unknownForm => "unsupported format string passed to module.__format__"
  | noType => "module.__new__(X): X is not a type object (str)"

end CallFault

end Paywatch
