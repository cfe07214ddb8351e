import Paywatch.Log
import Paywatch.Text.Pieces

/-!
# Where the watch comes from

The watch on the network is named by a path, a module and one of its members
with a colon between them.  The member is called with the name of the network;
those that every module has give no watch.  A module that is a part of another
one has the name of that one and a point before its own; no module known here
has parts.  Without a path the watch is one in memory.
-/

namespace Paywatch

/-- What a member of a module gives when it is called. -/
inductive Offer where
  /-- A watch on the network. -/
  | watch
  /-- Something else, of a type with this name. -/
  | other (typeName : String)
  deriving DecidableEq, Repr

structure Adapter where
  name : String
  members : List (String × (String → Except Failure Offer))

namespace Adapter

def ownMembers : List (String × Owner) :=
  Owner.common ++ Owner.values "NoneType" ["__package__", "__spec__", "__loader__"]

def member? (adapter : Adapter) (name : String) : Option Owner :=
  if (adapter.members.lookup name).isSome then some (.value Owner.functionType)
  else ownMembers.lookup name

/-- The functions of every value that compare it, or that leave an answer open. -/
def openFunctions : List String :=
  ["__eq__", "__ge__", "__gt__", "__le__", "__lt__", "__ne__", "__subclasshook__"]

/-- The functions of every value that take nothing, and how each is told. -/
def closedFunctions : List (String × CallFault) :=
  (["__dir__", "__getstate__", "__reduce__", "__sizeof__"].map fun name =>
    (name, .takesNone name)) ++
  [("__init_subclass__", .takesNone "module.__init_subclass__"), ("__hash__", .wrongCount 0),
    ("__repr__", .wrongCount 0), ("__str__", .wrongCount 0), ("__setattr__", .wrongCount 2),
    ("__new__", .noType)]

def callFunction (adapter : Adapter) (name text : String) : Except Failure Offer :=
  match closedFunctions.lookup name, adapter.member? text with
  | some fault, _ => .error (.uncalled fault)
  | none, found =>
    if openFunctions.contains name then .ok (.other "NotImplementedType")
    else if name = "__init__" then .ok (.other "NoneType")
    else if name = "__reduce_ex__" then .error (.noWhole "str")
    else if name = "__format__" then
      if text.isEmpty then .ok (.other "str") else .error (.uncalled .unknownForm)
    else match found with
      | none =>
        .error (.noMember (if name = "__delattr__" then .value "module" else .module adapter.name)
          text)
      | some owner =>
        .ok (.other (if name = "__delattr__" then "NoneType" else owner.typeName))

/-- What one of the module's own members gives when it is called with a text. -/
def callOwn (adapter : Adapter) (name text : String) : Owner → Except Failure Offer
  | .type typeName => .ok (.other typeName)
  | .value "method-wrapper" | .value "builtin_function_or_method" =>
    adapter.callFunction name text
  | owner => .error (.uncalled (.noFunction owner.typeName))

def find (adapter : Adapter) (name : String) :
    Except Failure (String → Except Failure Offer) :=
  match adapter.members.lookup name, ownMembers.lookup name with
  | some make, _ => .ok make
  | none, some owner => .ok fun text => adapter.callOwn name text owner
  | none, none => .error (.noMember (.module adapter.name) name)

end Adapter

/-- How the watch was obtained: the networks asked for and the records of the log. -/
structure WatchSource where
  asked : List String
  log : List LogRecord

namespace WatchSource

def splitPath? (path : String) : Option (String × String) :=
  let cs := path.toList
  let name := cs.takeWhile (· ≠ ':')
  let member := (cs.dropWhile (· ≠ ':')).drop 1
  if name.isEmpty || member.isEmpty then none
  else some (String.ofList name, String.ofList member)

def findModule (adapters : List Adapter) (name : String) : Except Failure Adapter :=
  match (Text.pieces '.' name.toList).map String.ofList with
  | [] => .error (.noModule name)
  | whole :: parts =>
    if whole.isEmpty then .error (.relativeModule name)
    else match adapters.find? (·.name == whole), parts with
      | none, _ => .error (.noModule whole)
      | some adapter, [] => .ok adapter
      | some _, part :: _ => .error (.notAPackage (whole ++ "." ++ part) whole)

def find (adapters : List Adapter) (path : String) :
    Except Failure (String → Except Failure Offer) :=
  match splitPath? path with
  | none => .error (.malformedWatch path)
  | some (name, member) => do
    (← findModule adapters name).find member

def load (adapters : List Adapter) (path network : String) : Except Failure WatchSource :=
  if path.isEmpty then
    .ok ⟨[], [⟨.warning,
      "⚠️ PAYIN_MONITOR: No BLOCKCHAIN_WATCH_FACTORY configured, using in-memory watch", none⟩]⟩
  else do
    let make ← find adapters path
    match ← make network with
    | .watch => return ⟨[network], []⟩
    | .other typeName => throw (.notAWatch path typeName)

end WatchSource

end Paywatch
