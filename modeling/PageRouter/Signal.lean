import PageRouter.Text.Basic

/-!
# Signals

A signal tells everyone who listens about a value.  Listeners are called one after the other, in the
order in which they came, and each of them may add listeners, take any away, or make the signal tell
something else before the first telling is over.

What a telling does is therefore fixed when it begins — the listeners there are — and checked at
each call: one that has gone in the meantime is not called any more (`Signal.emit`).  Each listener
gets a number when it comes, so that taking it away never takes another one.
-/

namespace PageRouter

structure Signal (α : Type) where
  /-- The listeners in the order in which they came, with their numbers. -/
  listeners : List (Nat × α)
  /-- The number of the next listener. -/
  nextNumber : Nat
  deriving DecidableEq, Repr

namespace Signal

variable {α : Type}

def empty : Signal α := ⟨[], 0⟩

instance : Inhabited (Signal α) := ⟨empty⟩

/-- The signal with one more listener; its number is the signal's next one. -/
def subscribe (signal : Signal α) (listener : α) : Signal α :=
  ⟨signal.listeners ++ [(signal.nextNumber, listener)], signal.nextNumber + 1⟩

/-- The signal without the listener of a number. -/
def cancel (signal : Signal α) (number : Nat) : Signal α :=
  { signal with listeners := signal.listeners.filter (·.1 ≠ number) }

def isSubscribed (signal : Signal α) (number : Nat) : Bool :=
  signal.listeners.any (·.1 = number)

def count (signal : Signal α) : Nat :=
  signal.listeners.length

/-- Calling the listeners of a list that are still there when their turn comes. -/
def callEach {m : Type → Type} [Monad m] (current : m (Signal α)) (call : α → m Unit) :
    List (Nat × α) → m Unit
  | [] => pure ()
  | (number, listener) :: rest => do
    if (← current).isSubscribed number then call listener
    callEach current call rest

/-- **Telling everyone.**  The listeners of the moment are called in order, each only if it still
listens when its turn comes.  `current` reads the signal as it is, since calls may change it. -/
def emit {m : Type → Type} [Monad m] (current : m (Signal α)) (call : α → m Unit) : m Unit := do
  callEach current call (← current).listeners

end Signal

end PageRouter
