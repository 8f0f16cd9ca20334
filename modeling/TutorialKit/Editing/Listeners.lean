/-!
# Listeners

A registry of listeners.  Every subscription gets a number that no other has had before; it stays
until it is cancelled by that number.  A notice goes to all listeners in the order in which they
subscribed.
-/

namespace TutorialKit

/--
`nextId` is the number of the next subscription.  It counts without a bound: a counter of 64 bits
is assumed not to overflow, as it gives the same numbers to the first 2 ^ 64 subscriptions.
-/
structure Listeners (α : Type) where
  nextId : Nat := 0
  entries : List (Nat × α) := []
  deriving Inhabited

namespace Listeners

variable {α ε : Type}

def none : Listeners α := {}

def subscribe (listener : α) (listeners : Listeners α) : Listeners α where
  nextId := listeners.nextId + 1
  entries := listeners.entries ++ [(listeners.nextId, listener)]

def isSubscribed (id : Nat) (listeners : Listeners α) : Bool :=
  listeners.entries.any fun entry => entry.1 == id

/-- Cancels a subscription; a number without one changes nothing. -/
def unsubscribe (id : Nat) (listeners : Listeners α) : Listeners α :=
  { listeners with entries := listeners.entries.filter fun entry => entry.1 != id }

def size (listeners : Listeners α) : Nat :=
  listeners.entries.length

def notify (event : ε) (listeners : Listeners α) : List (α × ε) :=
  listeners.entries.map fun entry => (entry.2, event)

end Listeners

end TutorialKit
