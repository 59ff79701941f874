/-!
# Reactions

What a listener does is given as data: a list of reactions, each with the occasion that it waits
for, how often it may still act, and the commands it then gives.  A reaction that acts has one run
less before its first command is carried out, so that a command which brings the same occasion about
finds the reaction used up as far as it is.
-/

namespace PageRouter

/-- A reaction to occasions told by `τ`, with commands from `σ`. -/
structure Reaction (τ σ : Type) where
  trigger : τ
  /-- How often it may still act. -/
  runs : Nat
  commands : List σ

namespace Reaction

variable {τ σ : Type}

/-- The reaction with one run less. -/
def usedOnce (reaction : Reaction τ σ) : Reaction τ σ :=
  { reaction with runs := reaction.runs - 1 }

/-- Reactions of which one is used. -/
def useUp (index : Nat) (reactions : List (Reaction τ σ)) : List (Reaction τ σ) :=
  reactions.modify index usedOnce

/-- **Offering an occasion to reactions**, one after the other.  Each is looked at when its turn
comes, because those before it may have used it up. -/
def offer {m : Type → Type} [Monad m] (current : m (List (Reaction τ σ))) (use : Nat → m Unit)
    (due : τ → Bool) (perform : List σ → m Unit) : List Nat → m Unit
  | [] => pure ()
  | index :: rest => do
    if let some reaction := (← current)[index]? then
      if 0 < reaction.runs ∧ due reaction.trigger then
        use index
        perform reaction.commands
    offer current use due perform rest

/-- Whether an optional trigger waits for a value: for that one, or for any. -/
def isDue {ε : Type} [DecidableEq ε] (value : ε) (trigger : Option ε) : Bool :=
  trigger = none ∨ trigger = some value

end Reaction

end PageRouter
