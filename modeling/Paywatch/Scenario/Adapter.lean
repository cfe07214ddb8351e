import Paywatch.Feed.Source

/-!
# The adapter of scenarios

A scenario can load one module.  One of its members gives a watch, three give
something else, and one finds nobody to connect to.
-/

namespace Paywatch

namespace Scenario

def adapter : Adapter where
  name := "spv_adapter"
  members := [
    ("build", fun _ => .ok .watch),
    ("number", fun _ => .ok (.other "int")),
    ("nothing", fun _ => .ok (.other "NoneType")),
    ("text", fun _ => .ok (.other "str")),
    ("broken", fun network => .error (.fault .state s!"no peers on {network}"))]

end Scenario

end Paywatch
