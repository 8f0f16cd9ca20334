/-!
# Names in use

Within a step every object needs a variable of its own.  A name that has been asked for before
is given again with a number, counted from two.
-/

namespace TutorialKit
namespace Script

/-- The names that have been asked for, the last one first. -/
structure Scope where
  requested : List String := []
  deriving DecidableEq, Inhabited

namespace Scope

def empty : Scope := {}

def numbered (name : String) (n : Nat) : String :=
  if n <= 1 then name else name ++ toString n

def variableFor (scope : Scope) (name : String) : String :=
  numbered name (scope.requested.count name + 1)

def request (scope : Scope) (name : String) : Scope :=
  { requested := name :: scope.requested }

@[simp] theorem requested_request (scope : Scope) (name : String) :
    (scope.request name).requested = name :: scope.requested := rfl

end Scope

end Script
end TutorialKit
